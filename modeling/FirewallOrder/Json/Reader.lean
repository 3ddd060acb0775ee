import FirewallOrder.Json.Document
import FirewallOrder.Text.Prefix
/-!
# Reading JSON texts

`Document.ofText` reads a text to the place where it ceases to be JSON and lays what it found out as
a document. Nothing is refused here: whether a fault concerns a reader shows when the document is
decoded.

The readers take the text as a list of characters and give back what follows. A reader that has come
to its end for good, because the text is broken off inside, gives back nothing.
-/

namespace FirewallOrder.Json

/-! ## Blanks and words -/

/-- The blanks of JSON. -/
def isJsonBlank (c : Char) : Bool :=
  c == ' ' || c == '\n' || c == '\t' || c == '\r'

def skipBlanks (cs : List Char) : List Char := cs.dropWhile isJsonBlank

/-- The text behind a word whose first letter is read already. -/
def takeWord : List Char → List Char → Except Fault (List Char)
  | [], cs => .ok cs
  | _ :: _, [] => .error .endsInValue
  | w :: ws, c :: cs => if c = w then takeWord ws cs else .error .misspelt

/-! ## Strings -/

/-- A part of a string: a character, or half a character or more that is given by its number. -/
inductive Piece
  | char (c : Char)
  | unit (n : Nat)
  deriving DecidableEq, Repr

/-- How the pieces of a string end: at its quote, with the text behind it, or before. -/
inductive StringEnd
  | closed (rest : List Char)
  | early
  | control
  | badEscape
  | badNumber
  deriving DecidableEq, Repr

/-- The value of a digit in base sixteen. -/
def hexDigit? (c : Char) : Option Nat :=
  if '0' ≤ c ∧ c ≤ '9' then some (c.toNat - '0'.toNat)
  else if 'a' ≤ c ∧ c ≤ 'f' then some (c.toNat - 'a'.toNat + 10)
  else if 'A' ≤ c ∧ c ≤ 'F' then some (c.toNat - 'A'.toNat + 10)
  else none

/-- The number that four digits in base sixteen spell. -/
def hexUnit? (a b c d : Char) : Option Nat := do
  let a ← hexDigit? a
  let b ← hexDigit? b
  let c ← hexDigit? c
  let d ← hexDigit? d
  pure (((a * 16 + b) * 16 + c) * 16 + d)

/-- The character that a letter behind a backslash stands for. -/
def escapedChar? (c : Char) : Option Char :=
  match c with
  | '"' => some '"'
  | '\\' => some '\\'
  | '/' => some '/'
  | 'b' => some '\x08'
  | 'f' => some '\x0c'
  | 'n' => some '\n'
  | 'r' => some '\r'
  | 't' => some '\t'
  | _ => none

/-- The pieces of a string behind its first quote, in reverse, and how it ends. A number by escape
takes four bytes; a text that has fewer left ends early. -/
def takePieces (sofar : List Piece) : List Char → List Piece × StringEnd
  | [] => (sofar, .early)
  | '"' :: cs => (sofar, .closed cs)
  | '\\' :: 'u' :: a :: b :: c :: d :: cs =>
    match hexUnit? a b c d with
    | some n => takePieces (.unit n :: sofar) cs
    | none => (sofar, .badNumber)
  | '\\' :: 'u' :: cs => (sofar, if Text.byteCount cs < 4 then .early else .badNumber)
  | ['\\'] => (sofar, .early)
  | '\\' :: c :: cs =>
    match escapedChar? c with
    | some e => takePieces (.char e :: sofar) cs
    | none => (sofar, .badEscape)
  | c :: cs => if c < ' ' then (sofar, .control) else takePieces (.char c :: sofar) cs

/-- The first half of a character outside the first 65536. -/
def isHighHalf (n : Nat) : Bool := 0xD800 ≤ n && n < 0xDC00

/-- The second half of a character outside the first 65536. -/
def isLowHalf (n : Nat) : Bool := 0xDC00 ≤ n && n < 0xE000

/-- The character of two halves. -/
def joinHalves (high low : Nat) : Char :=
  Char.ofNat (0x10000 + (high - 0xD800) * 0x400 + (low - 0xDC00))

/-- The fault at a first half behind which the string ends. -/
def StringEnd.faultAtHalf : StringEnd → Fault
  | .early => .endsInString
  | .badNumber => .badEscape
  | .closed _ | .control | .badEscape => .unpairedSurrogate

/-- The characters of the pieces, in reverse, or the first half of a character that stands alone. -/
def joinPieces (ending : StringEnd) (sofar : List Char) : List Piece → Except Fault (List Char)
  | [] => .ok sofar
  | .char c :: ps => joinPieces ending (c :: sofar) ps
  | .unit n :: ps =>
    if isLowHalf n then .error .loneSurrogate
    else if isHighHalf n then
      match ps with
      | [] => .error ending.faultAtHalf
      | .char _ :: _ => .error .unpairedSurrogate
      | .unit m :: ps =>
        if isLowHalf m then joinPieces ending (joinHalves n m :: sofar) ps
        else .error .loneSurrogate
    else joinPieces ending (Char.ofNat n :: sofar) ps

/-- The string behind a quote: what it says, and the text behind it. -/
def readString (cs : List Char) : Except Flaw String × Option (List Char) :=
  let (pieces, ending) := takePieces [] cs
  let chars := joinPieces ending [] pieces.reverse
  let brokenOff (fault : Fault) : Except Flaw String × Option (List Char) :=
    match chars with
    | .ok _ => (.error (.always fault), none)
    | .error first => (.error ⟨first, some fault⟩, none)
  match ending with
  | .closed rest =>
    match chars with
    | .ok chars => (.ok (String.ofList chars.reverse), some rest)
    | .error fault => (.error ⟨fault, none⟩, some rest)
  | .early => brokenOff .endsInString
  | .control => brokenOff .controlInString
  | .badEscape | .badNumber => brokenOff .badEscape

/-! ## Values -/

/-- A number at the beginning of the text. -/
def readNumber (cs : List Char) : Document × Option (List Char) :=
  match NumberText.read cs with
  | .error flaw => (.number (.error flaw), none)
  | .ok (t, rest) =>
    match t.value with
    | .ok n => (.number (.ok n), some rest)
    | .error fault => (.number (.error ⟨fault, none⟩), some rest)

/-- The rest of a word, and the value that the word says. -/
def readWord (value : Document) (word : String) (cs : List Char) : Document × Option (List Char) :=
  match takeWord word.toList cs with
  | .ok rest => (value, some rest)
  | .error fault => (.broken fault, none)

mutual

/-- The value at the beginning of the text. -/
def readValue : Nat → List Char → Document × Option (List Char)
  | 0, _ => (.missing .endsInValue, none)
  | fuel + 1, cs =>
    match skipBlanks cs with
    | [] => (.missing .endsInValue, none)
    | c :: rest =>
      if c = '"' then (readString rest).map .str id
      else if c = '[' then
        let (items, ending, rest) := readItems fuel true rest
        (.arr items ending, rest)
      else if c = '\x7b' then
        let (members, ending, rest) := readMembers fuel true rest
        (.obj members ending, rest)
      else if c = '-' ∨ (digit? c).isSome then readNumber (c :: rest)
      else if c = 'n' then readWord .null "ull" rest
      else if c = 't' then readWord (.bool true) "rue" rest
      else if c = 'f' then readWord (.bool false) "alse" rest
      else (.broken .noValue, none)

/-- The items of an array from some place on; `first` says that none stands before. -/
def readItems : Nat → Bool → List Char → List Document × Ending × Option (List Char)
  | 0, _, _ => ([], .broken (.always .endsInArray), none)
  | fuel + 1, first, cs =>
    let items (cs : List Char) : List Document × Ending × Option (List Char) :=
      match readValue fuel cs with
      | (item, none) => ([item], .closed, none)
      | (item, some rest) =>
        let (items, ending, rest) := readItems fuel false rest
        (item :: items, ending, rest)
    match skipBlanks cs with
    | [] => ([], .broken (.always .endsInArray), none)
    | ']' :: rest => ([], .closed, some rest)
    | ',' :: rest =>
      if first then items (',' :: rest)
      else
        match skipBlanks rest with
        | [] => ([], .broken (.always .endsInValue), none)
        | ']' :: _ => ([], .broken ⟨.trailingComma, some .noValue⟩, none)
        | rest => items rest
    | rest => if first then items rest else ([], .broken (.always .noItemSeparator), none)

/-- The members of an object from some place on; `first` says that none stands before. -/
def readMembers : Nat → Bool → List Char → List (Key × Document) × Ending × Option (List Char)
  | 0, _, _ => ([], .broken (.always .endsInObject), none)
  | fuel + 1, first, cs =>
    let broken (flaw : Flaw) : List (Key × Document) × Ending × Option (List Char) :=
      ([], .broken flaw, none)
    let stray (cs : List Char) : List (Key × Document) × Ending × Option (List Char) :=
      ([(.stray, (readValue fuel cs).1)], .closed, none)
    let member (cs : List Char) : List (Key × Document) × Ending × Option (List Char) :=
      let (name, rest) := readString cs
      let key : Key :=
        match name with
        | .ok s => .name s
        | .error flaw => .flawed flaw
      match rest.map skipBlanks with
      | none => ([(key, .missing .endsInObject)], .closed, none)
      | some [] => ([(key, .missing .endsInObject)], .closed, none)
      | some (c :: rest) =>
        if c = ':' then
          match readValue fuel rest with
          | (value, none) => ([(key, value)], .closed, none)
          | (value, some rest) =>
            let (members, ending, rest) := readMembers fuel false rest
            ((key, value) :: members, ending, rest)
        else ([(key, .missing .noColon)], .closed, none)
    match skipBlanks cs with
    | [] => broken (.always .endsInObject)
    | '\x7d' :: rest => ([], .closed, some rest)
    | ',' :: rest =>
      if first then stray (',' :: rest)
      else
        match skipBlanks rest with
        | [] => broken ⟨.endsInValue, some .endsInObject⟩
        | '"' :: rest => member rest
        | '\x7d' :: _ => broken ⟨.trailingComma, some .keyIsNoString⟩
        | rest => stray rest
    | '"' :: rest => if first then member rest else broken (.always .noMemberSeparator)
    | rest => if first then stray rest else broken (.always .noMemberSeparator)

end

/-- Enough fuel for every text of this length: each character opens at most one value and one
list. -/
def fuelFor (cs : List Char) : Nat := 2 * cs.length + 2

namespace Document

/-- The document of a text, and the text behind it. -/
def ofChars (cs : List Char) : Document × Option (List Char) :=
  readValue (fuelFor cs) cs

/-- The document of a text, and what is wrong behind it: nothing but blanks may follow. -/
def ofText (s : String) : Document × Except Fault Unit :=
  match ofChars s.toList with
  | (document, none) => (document, .ok ())
  | (document, some rest) =>
    (document, if skipBlanks rest = [] then .ok () else .error .trailingCharacters)

end Document

/-- The value that a text says, in canonical form. -/
def parse (s : String) : Except Fault Json :=
  match Document.ofText s with
  | (document, behind) => do
    let value ← document.toJson .wholeText
    behind
    pure value

end FirewallOrder.Json
