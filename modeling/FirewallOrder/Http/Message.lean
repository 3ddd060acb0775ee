import FirewallOrder.Url.Basic
import FirewallOrder.Text.Blank
import FirewallOrder.Dialogue
import FirewallOrder.Controller.Error
/-!
# Messages of HTTP

A request, the reply to it, and the dialogue of somebody who sends requests and reads replies. Only
what the exchange with a controller needs is kept of either.
-/

namespace FirewallOrder.Http

inductive Method
  | get
  | post
  deriving DecidableEq, Repr

def Method.text : Method → String
  | .get => "GET"
  | .post => "POST"

/-- A request. A body is always JSON. -/
structure Request where
  method : Method
  url : Url
  body : Option String
  token : Option String
  cookie : Option String
  deriving DecidableEq, Repr

/-- What the program calls itself. -/
def userAgent : String := "tfunifi/0.1.0"

/-- The kind of every body that is sent. -/
def bodyType : String := "application/json"

/-- A reply. Its body is none if the connection ended before it was complete. -/
structure Reply where
  status : Nat
  headers : List (String × String)
  body : Option String
  deriving DecidableEq, Repr

/-- What a request brings. -/
abbrev Answer := Except TransportFault Reply

/-- A dialogue that sends requests. -/
abbrev Exchange (α : Type) := Dialogue Request (fun _ => Answer) α

/-! ## Status -/

/-- The phrase that the standard gives to a status. -/
def reason? (status : Nat) : Option String :=
  match status with
  | 100 => "Continue"
  | 101 => "Switching Protocols"
  | 102 => "Processing"
  | 200 => "OK"
  | 201 => "Created"
  | 202 => "Accepted"
  | 203 => "Non Authoritative Information"
  | 204 => "No Content"
  | 205 => "Reset Content"
  | 206 => "Partial Content"
  | 207 => "Multi-Status"
  | 208 => "Already Reported"
  | 226 => "IM Used"
  | 300 => "Multiple Choices"
  | 301 => "Moved Permanently"
  | 302 => "Found"
  | 303 => "See Other"
  | 304 => "Not Modified"
  | 305 => "Use Proxy"
  | 307 => "Temporary Redirect"
  | 308 => "Permanent Redirect"
  | 400 => "Bad Request"
  | 401 => "Unauthorized"
  | 402 => "Payment Required"
  | 403 => "Forbidden"
  | 404 => "Not Found"
  | 405 => "Method Not Allowed"
  | 406 => "Not Acceptable"
  | 407 => "Proxy Authentication Required"
  | 408 => "Request Timeout"
  | 409 => "Conflict"
  | 410 => "Gone"
  | 411 => "Length Required"
  | 412 => "Precondition Failed"
  | 413 => "Payload Too Large"
  | 414 => "URI Too Long"
  | 415 => "Unsupported Media Type"
  | 416 => "Range Not Satisfiable"
  | 417 => "Expectation Failed"
  | 418 => "I'm a teapot"
  | 421 => "Misdirected Request"
  | 422 => "Unprocessable Entity"
  | 423 => "Locked"
  | 424 => "Failed Dependency"
  | 425 => "Too Early"
  | 426 => "Upgrade Required"
  | 428 => "Precondition Required"
  | 429 => "Too Many Requests"
  | 431 => "Request Header Fields Too Large"
  | 451 => "Unavailable For Legal Reasons"
  | 500 => "Internal Server Error"
  | 501 => "Not Implemented"
  | 502 => "Bad Gateway"
  | 503 => "Service Unavailable"
  | 504 => "Gateway Timeout"
  | 505 => "HTTP Version Not Supported"
  | 506 => "Variant Also Negotiates"
  | 507 => "Insufficient Storage"
  | 508 => "Loop Detected"
  | 510 => "Not Extended"
  | 511 => "Network Authentication Required"
  | _ => none

/-- A status as messages show it. -/
def statusText (status : Nat) : String :=
  toString status ++ " " ++ (reason? status).getD "<unknown status code>"

namespace Reply

/-- The request was granted. -/
def isSuccess (r : Reply) : Bool := 200 ≤ r.status && r.status < 300

/-! ## Headers -/

/-- Blanks around the value of a header do not belong to it. -/
def headerValue (s : String) : String :=
  let isPadding (c : Char) : Bool := c == ' ' || c == '\t'
  String.ofList (Text.dropEnd isPadding (s.toList.dropWhile isPadding))

/-- The value of the first header of this name, which is given in small letters. -/
def header? (r : Reply) (name : String) : Option String :=
  (r.headers.find? fun h => Text.lowerText h.1 == name).map fun h => headerValue h.2

/-- The values of all headers of this name, which is given in small letters. -/
def headers? (r : Reply) (name : String) : List String :=
  (r.headers.filter fun h => Text.lowerText h.1 == name).map fun h => headerValue h.2

/-- A value of a header that can be read as text: printable ASCII and tabs. -/
def readable? (value : String) : Option String :=
  if value.toList.all fun c => (' ' ≤ c && c ≤ '~') || c == '\t' then some value else none

/-- The text of the body, or why there is none. -/
def text (r : Reply) : Except TransportFault String :=
  match r.body with
  | some text => .ok text
  | none => .error .truncated

end Reply

end FirewallOrder.Http
