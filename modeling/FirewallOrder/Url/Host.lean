import FirewallOrder.Url.Escape
import FirewallOrder.Url.Fault
/-!
# Hosts

A host is a name or an address. A name whose last part is a number is an address of four bytes,
which may be given in fewer parts and in other bases. Between brackets stands an address of eight
pieces of sixteen bits, in which one run of zeros may be left out.

The host of a URL is written in ASCII. How a name outside ASCII is written there, and which names
may be written at all, is for others to say: a reader of hosts is given the `HostNames` it goes by.
-/

namespace FirewallOrder.Url

/-- How names of hosts are written. -/
structure HostNames where
  /-- The form that a name has in a URL: none if it is no name of a host. -/
  ascii? : List Char → Option (List Char)

inductive Host
  | name (s : String)
  | ipv4 (n : Nat)
  | ipv6 (pieces : List Nat)
  deriving DecidableEq, Repr

namespace Host

/-- The parts of a text between the separators. -/
def splitOn (separator : Char) : List Char → List (List Char)
  | [] => [[]]
  | c :: cs =>
    if c = separator then [] :: splitOn separator cs
    else
      match splitOn separator cs with
      | [] => [[c]]
      | part :: parts => (c :: part) :: parts

/-! ## Addresses of four bytes -/

/-- The number of digits in some base, if they are digits of that base. -/
def numberInBase? (base : Nat) (cs : List Char) : Option Nat :=
  cs.foldlM (fun n c => do
    let d ← hexValue? c
    if d < base then pure (n * base + d) else none) 0

/-- The number that a part of an address spells: a leading zero means base eight, `0x` base sixteen.
No digits behind these mean zero. -/
def addressNumber? : List Char → Option Nat
  | [] => none
  | '0' :: 'x' :: cs => numberInBase? 16 cs
  | '0' :: 'X' :: cs => numberInBase? 16 cs
  | '0' :: c :: cs => numberInBase? 8 (c :: cs)
  | cs => numberInBase? 10 cs

/-- The parts of a name between the points, without an empty part at the end. -/
def parts (name : List Char) : List (List Char) :=
  let all := splitOn '.' name
  if all.getLast? = some [] then all.dropLast else all

/-- The last part of the name is a number. -/
def endsInNumber (name : List Char) : Bool :=
  match (parts name).getLast? with
  | none => false
  | some last =>
    (!last.isEmpty && last.all fun c => '0' ≤ c && c ≤ '9') || (addressNumber? last).isSome

/-- The address of the numbers: each is one byte, and the last fills the bytes that are left. -/
def ipv4OfNumbers? : List Nat → Nat → Option Nat
  | [], _ => none
  | [last], left => if last < Nat.pow 256 left then some last else none
  | n :: ns, left =>
    match left with
    | 0 => none
    | left + 1 =>
      if n < 256 then (ipv4OfNumbers? ns left).map (n * Nat.pow 256 left + ·) else none

/-- The address that a name spells. -/
def readIpv4 (name : List Char) : Except UrlFault Host :=
  match (parts name).mapM addressNumber? with
  | none => .error .badIpv4
  | some numbers =>
    if 4 < numbers.length then .error .badIpv4
    else
      match ipv4OfNumbers? numbers 4 with
      | some n => .ok (.ipv4 n)
      | none => .error .badIpv4

/-- The four bytes with points between them. -/
def ipv4Text (n : Nat) : String :=
  ".".intercalate ([n / 0x1000000, n / 0x10000 % 256, n / 0x100 % 256, n % 256].map toString)

/-! ## Addresses of eight pieces -/

/-- A piece: up to four digits in base sixteen. -/
def piece? (cs : List Char) : Option Nat :=
  if cs.isEmpty || 4 < cs.length then none else numberInBase? 16 cs

/-- A byte in base ten without leading zeros. -/
def byte? (cs : List Char) : Option Nat :=
  if cs.isEmpty || (cs.head? = some '0' && 1 < cs.length) || 3 < cs.length then none
  else (numberInBase? 10 cs).filter (· < 256)

/-- The two pieces that four bytes with points make. -/
def dottedPieces? (cs : List Char) : Option (List Nat) := do
  match ← (splitOn '.' cs).mapM byte? with
  | [a, b, c, d] => pure [a * 256 + b, c * 256 + d]
  | _ => none

/-- The pieces between the colons; the last may be four bytes with points. -/
def pieces? (dotted : Bool) : List (List Char) → Option (List Nat)
  | [] => some []
  | [last] =>
    if dotted && last.contains '.' then dottedPieces? last else (piece? last).map ([·])
  | p :: ps => do
    let first ← piece? p
    let rest ← pieces? dotted ps
    pure (first :: rest)

/-- The text before the first two colons in a row and the text behind them, if there are any. -/
def splitAtGap : List Char → Option (List Char × List Char)
  | ':' :: ':' :: rest => some ([], rest)
  | c :: rest => (splitAtGap rest).map fun (before, behind) => (c :: before, behind)
  | [] => none

/-- The parts between colons; an empty text has none. -/
def colonParts (cs : List Char) : List (List Char) :=
  if cs.isEmpty then [] else splitOn ':' cs

/-- The eight pieces that a text spells. -/
def ipv6Pieces? (cs : List Char) : Option (List Nat) :=
  match splitAtGap cs with
  | none => do
    let pieces ← pieces? true (splitOn ':' cs)
    if pieces.length = 8 then pure pieces else none
  | some (before, behind) => do
    let left ← pieces? false (colonParts before)
    let right ← pieces? true (colonParts behind)
    let given := left.length + right.length
    if given ≤ 7 then pure (left ++ List.replicate (8 - given) 0 ++ right) else none

/-- The number of zeros at the beginning. -/
def leadingZeros (ns : List Nat) : Nat := (ns.takeWhile (· == 0)).length

/-- The place and the length of the longest run of zeros, the first of several. -/
def longestGap : Nat → List Nat → Nat × Nat
  | _, [] => (0, 0)
  | place, n :: ns =>
    let here := leadingZeros (n :: ns)
    let later := longestGap (place + 1) ns
    if later.2 ≤ here then (place, here) else later

/-- Pieces with colons between them. -/
def piecesText (ns : List Nat) : String :=
  ":".intercalate (ns.map fun n => String.ofList (Nat.toDigits 16 n))

/-- The pieces, with the longest run of two zeros or more left out. -/
def ipv6Text (ns : List Nat) : String :=
  let (place, length) := longestGap 0 ns
  if length < 2 then piecesText ns
  else piecesText (ns.take place) ++ "::" ++ piecesText (ns.drop (place + length))

/-! ## Names -/

/-- What cannot stand in a name. -/
def isForbidden (c : Char) : Bool :=
  c ≤ ' ' || '\x7e' < c || "#/:<>?@[\\]^|%".toList.contains c

/-- A capital letter small. -/
def lowerLetter (c : Char) : Char :=
  if 'A' ≤ c ∧ c ≤ 'Z' then Char.ofNat (c.toNat + 32) else c

/-- The host that a text names, in a URL whose scheme is known. -/
def read (names : HostNames) (cs : List Char) : Except UrlFault Host :=
  match cs with
  | '[' :: rest =>
    if rest.getLast? = some ']' then
      match ipv6Pieces? rest.dropLast with
      | some pieces => .ok (.ipv6 pieces)
      | none => .error .badIpv6
    else .error .badIpv6
  | cs =>
    match (unescape? cs).bind fun decoded => names.ascii? decoded.toList with
    | none => .error .badHost
    | some ascii =>
      if ascii.isEmpty then .error .emptyHost
      else if endsInNumber ascii then readIpv4 ascii
      else .ok (.name (String.ofList ascii))

/-- What cannot stand in the host of a URL whose scheme is not known. -/
def isForbiddenUnknown (c : Char) : Bool :=
  c == '\x00' || c == '\t' || c == '\n' || c == '\r' || " #/:<>?@[\\]^|".toList.contains c

/-- The host that a text names, in a URL whose scheme is not known. -/
def readUnknown (names : HostNames) (cs : List Char) : Except UrlFault Host :=
  match cs with
  | '[' :: _ => read names cs
  | cs =>
    if cs.any isForbiddenUnknown then .error .badCharacter
    else .ok (.name (String.ofList (escape inControlSet cs)))

def text : Host → String
  | name s => s
  | ipv4 n => ipv4Text n
  | ipv6 pieces => "[" ++ ipv6Text pieces ++ "]"

end Host

/-- Names in ASCII, in small letters. A name outside ASCII has to be given in its ASCII form, which
is taken as it is. -/
def HostNames.plain : HostNames where
  ascii? := fun cs =>
    let name := cs.map Host.lowerLetter
    if name.any Host.isForbidden then none else some name

end FirewallOrder.Url
