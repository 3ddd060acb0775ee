import FirewallOrder.Http.Message
/-!
# HTTP on the wire

A request as the bytes that are sent, and a reply from the bytes that came back until the connection
was closed. A head is lines of one byte a character, ended by an empty one. How long the body is,
the head says: it comes in chunks, or has a length, or lasts to the end.
-/

namespace FirewallOrder.Http

/-! ## Requests -/

/-- What is asked for of the host: the path and the query. -/
def target (u : Url) : String := Url.pathText u.path ++ Url.marked "?" u.query

/-- The host, with its port if the scheme does not give it. -/
def authority (u : Url) : String :=
  Url.marked "" (u.host.map (·.text)) ++ Url.marked ":" (u.port.map toString)

/-- A line of a head, if there is something to say. -/
def headerLine (name : String) : Option String → List String
  | some value => [name ++ ": " ++ value]
  | none => []

namespace Request

/-- The length that the head gives: what is posted has one even if it is empty. -/
def length? (r : Request) : Option Nat :=
  match r.method, r.body with
  | _, some body => some body.utf8ByteSize
  | .post, none => some 0
  | .get, none => none

def headLines (r : Request) : List String :=
  (r.method.text ++ " " ++ target r.url ++ " HTTP/1.1") ::
    ("Host: " ++ authority r.url) :: ("User-Agent: " ++ userAgent) :: "Accept: */*" ::
    "Connection: close" ::
    (headerLine "Content-Type" (r.body.map fun _ => bodyType) ++
      headerLine "X-CSRF-Token" r.token ++ headerLine "Cookie" r.cookie ++
      headerLine "Content-Length" (r.length?.map toString))

/-- The request as it is sent. -/
def wire (r : Request) : String :=
  String.join (r.headLines.map (· ++ "\r\n")) ++ "\r\n" ++ r.body.getD ""

end Request

/-! ## Replies -/

/-- The bytes before a mark, and those behind it. -/
def cutAt? (mark : List UInt8) : List UInt8 → Option (List UInt8 × List UInt8)
  | [] => none
  | b :: bs =>
    if mark.isPrefixOf (b :: bs) then some ([], (b :: bs).drop mark.length)
    else (cutAt? mark bs).map fun (front, back) => (b :: front, back)

def lineEnd : List UInt8 := [13, 10]

/-- One character for each byte. -/
def byteText (bytes : List UInt8) : String :=
  String.ofList (bytes.map fun b => Char.ofNat b.toNat)

/-- The text of a body. Of one that is not UTF-8 only the ASCII characters are kept. -/
def bodyText (bytes : List UInt8) : String :=
  match String.fromUTF8? (ByteArray.mk bytes.toArray) with
  | some s => s
  | none => String.ofList (bytes.map fun b => if b < 128 then Char.ofNat b.toNat else '\ufffd')

/-- The lines of a head, as long as there is a byte for each in `fuel`. -/
def headLinesOf : Nat → List UInt8 → List String
  | 0, _ => []
  | fuel + 1, bytes =>
    match cutAt? lineEnd bytes with
    | some (line, rest) => byteText line :: headLinesOf fuel rest
    | none => [byteText bytes]

/-- The status that the first line of a head gives. -/
def status? (line : String) : Option Nat :=
  match line.toList.dropWhile (· != ' ') with
  | ' ' :: cs =>
    let digits := cs.takeWhile fun c => '0' ≤ c && c ≤ '9'
    if digits.length = 3 then some (digits.foldl (fun n c => n * 10 + (c.toNat - '0'.toNat)) 0)
    else none
  | _ => none

/-- The name and the value that another line gives. -/
def header? (line : String) : Option (String × String) :=
  match line.toList.span (· != ':') with
  | (_, []) => none
  | (name, _ :: value) => some (String.ofList name, Reply.headerValue (String.ofList value))

/-- A number in base sixteen. -/
def chunkLength? (line : List UInt8) : Option Nat :=
  match (byteText line).toList.takeWhile fun c => (Url.hexValue? c).isSome with
  | [] => none
  | ds => some (ds.foldl (fun n c => n * 16 + (Url.hexValue? c).getD 0) 0)

/-- The bytes of a body that comes in chunks; the last one is empty. -/
def ofChunks? : Nat → List UInt8 → Option (List UInt8)
  | 0, _ => none
  | fuel + 1, bytes => do
    let (line, rest) ← cutAt? lineEnd bytes
    let n ← chunkLength? line
    if n = 0 then pure []
    else if rest.length < n then none
    else
      let more ← ofChunks? fuel (rest.drop (n + lineEnd.length))
      pure (rest.take n ++ more)

namespace Reply

/-- The bytes of the body, if they are complete. -/
def body? (head : Reply) (rest : List UInt8) : Option (List UInt8) :=
  if head.status = 204 || head.status = 304 then some []
  else if (head.header? "transfer-encoding").any fun v => Text.lowerText v == "chunked" then
    ofChunks? (rest.length + 1) rest
  else
    match head.header? "content-length" with
    | none => some rest
    | some length =>
      match length.toNat? with
      | none => none
      | some n => if rest.length < n then none else some (rest.take n)

/-- The reply of some bytes; there is none if its head is not complete. A head that only says that
the reply is on its way is passed over. -/
def ofBytes? : Nat → List UInt8 → Option Reply
  | 0, _ => none
  | fuel + 1, bytes =>
    match cutAt? (lineEnd ++ lineEnd) bytes with
    | none => none
    | some (head, rest) =>
      match headLinesOf (head.length + 1) head with
      | [] => none
      | first :: others =>
        match status? first with
        | none => none
        | some status =>
          let reply : Reply := ⟨status, others.filterMap Http.header?, none⟩
          if status < 200 then ofBytes? fuel rest
          else some { reply with body := (reply.body? rest).map bodyText }

end Reply

end FirewallOrder.Http
