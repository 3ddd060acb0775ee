import FirewallOrder.Url.Host
/-!
# URLs

A URL is a scheme, perhaps an authority (credentials, host and port), a path, perhaps a query and
perhaps a fragment. Its path is a list of segments, or a text for a URL that stands for itself and
carries no path, such as `mailto:x@y`.

An endpoint is a URL below another one: `pushSegment` puts one more segment behind a path, escaped
so that it stays one segment.
-/

namespace FirewallOrder

open Url

/-- A port, when it is given by a number and not by the scheme. -/
abbrev Port := Nat

inductive UrlPath
  | text (s : String)
  | segments (list : List String)
  deriving DecidableEq, Repr

structure Url where
  scheme : String
  user : String
  password : String
  host : Option Host
  port : Option Port
  path : UrlPath
  query : Option String
  fragment : Option String
  deriving DecidableEq, Repr

namespace Url

/-- The schemes that always have an authority and a path of segments. -/
def isSpecialScheme (scheme : String) : Bool :=
  ["http", "https", "ws", "wss", "ftp", "file"].contains scheme

/-- The port that a scheme has when none is given. -/
def defaultPort? (scheme : String) : Option Port :=
  if scheme == "http" || scheme == "ws" then some 80
  else if scheme == "https" || scheme == "wss" then some 443
  else if scheme == "ftp" then some 21
  else none

def isSpecial (u : Url) : Bool := isSpecialScheme u.scheme

/-- The URL goes over the web. -/
def isWeb (u : Url) : Bool := u.scheme == "http" || u.scheme == "https"

/-! ## Text -/

def pathText : UrlPath → String
  | .text s => s
  | .segments list => String.join (list.map ("/" ++ ·))

/-- The credentials, as they stand before the host. -/
def credentials (u : Url) : String :=
  if u.user == "" && u.password == "" then ""
  else u.user ++ (if u.password == "" then "" else ":" ++ u.password) ++ "@"

/-- A text behind a mark, when there is one. -/
def marked (mark : String) : Option String → String
  | some s => mark ++ s
  | none => ""

/-- The URL as it is written. -/
def text (u : Url) : String :=
  let path := pathText u.path
  let front :=
    match u.host with
    | some host => "//" ++ u.credentials ++ host.text ++ marked ":" (u.port.map toString) ++ path
    | none => if path.startsWith "//" then "/." ++ path else path
  u.scheme ++ ":" ++ front ++ marked "?" u.query ++ marked "#" u.fragment

/-- The URL without the credentials in it. -/
def withoutCredentials (u : Url) : Url := { u with user := "", password := "" }

/-! ## Paths -/

/-- The spellings of the segment that means the place itself. -/
def isSingleDot (segment : String) : Bool :=
  [".", "%2e", "%2E"].contains segment

/-- The spellings of the segment that means the place above. -/
def isDoubleDot (segment : String) : Bool :=
  ["..", "%2e%2e", "%2e%2E", "%2E%2e", "%2E%2E", "%2e.", "%2E.", ".%2e", ".%2E"].contains segment

/-- A path with one more segment: a path of one empty segment is a mere slash and gives way. -/
def appendSegment (path : List String) (segment : String) : List String :=
  if path = [""] then [segment] else path ++ [segment]

/-- A path with its last segment taken away, ending in a slash. -/
def above (path : List String) : List String := path.dropLast ++ [""]

/-- The characters that are read over. -/
def isIgnored (c : Char) : Bool := c == '\t' || c == '\n' || c == '\r'

/-- A text as one segment of a path. -/
def segmentText (special : Bool) (s : String) : String :=
  String.ofList (escape (if special then inSpecialSegmentSet else inSegmentSet)
    (s.toList.filter fun c => !isIgnored c))

/-- A path with one more segment. A text that is a segment of dots is left out; one that becomes two
dots when it is written takes the last segment away. -/
def pushSegment (special : Bool) (path : List String) (s : String) : List String :=
  if s == "." || s == ".." then path
  else
    let segment := segmentText special s
    if isDoubleDot segment then above path
    else if isSingleDot segment then appendSegment path ""
    else appendSegment path segment

/-- A path with several more segments. -/
def pushSegments (special : Bool) (path : List String) (segments : List String) : List String :=
  segments.foldl (pushSegment special) path

/-- A path without one slash at its end; a mere slash stays. -/
def withoutSlash (path : List String) : List String :=
  if 1 < path.length ∧ path.getLast? = some "" then path.dropLast else path

end Url

/-! ## Readers -/

/-- A reader of URLs. Whatever it takes for a URL, a URL of the web has a path of segments. -/
structure UrlReader where
  /-- The URL that a text is. -/
  read : String → Except UrlFault Url
  segments_of_web {text : String} {u : Url} (parsed : read text = .ok u) (web : u.isWeb = true) :
    ∃ segments, u.path = .segments segments ∧ ∀ s ∈ segments, '/' ∉ s.toList

end FirewallOrder
