import FirewallOrder.Number.Text
import FirewallOrder.Number.Whole
/-!
# Strings in YAML

A string is written plain where that cannot be misread. It is put between single quotes if a reader
would take it for something else than a string, or if its characters would be taken for marks; it is
written as a literal block if it has lines; and it is put between double quotes, with escapes, if
none of these can hold it.
-/

namespace FirewallOrder.Yaml

/-! ## Characters -/

/-- The characters that end a line. -/
def isBreak (c : Char) : Bool :=
  c == '\n' || c == '\r' || c == '\u0085' || c == '\u2028' || c == '\u2029'

/-- The characters that can stand as they are. -/
def isPrintable (c : Char) : Bool :=
  let n := c.toNat
  c == '\n' || (0x20 ≤ n && n ≤ 0x7E) ||
    (0xA0 ≤ n && n != 0xFEFF && n != 0xFFFE && n != 0xFFFF)

/-- Whether a mark before this character stands alone: before a blank, a break or the end it
does. -/
def isGap : Option Char → Bool
  | none => true
  | some c => c == ' ' || c == '\t' || c == '\x00' || isBreak c

/-- Two neighbours, the first of one class and the second of another. -/
def hasNeighbours (p q : Char → Bool) : List Char → Bool
  | [] => false
  | [_] => false
  | c :: d :: cs => (p c && q d) || hasNeighbours p q (d :: cs)

def isSpace (c : Char) : Bool := c == ' '

/-! ## Marks -/

/-- The characters that no plain string begins with. -/
def leadingMarks : List Char := ",[]\x7b\x7d#&*!|>'\"%@`".toList

/-- A string that begins like something else. -/
def beginsWithMark : List Char → Bool
  | [] => false
  | c :: cs =>
    leadingMarks.contains c || ("?:-".toList.contains c && isGap cs.head?) ||
      "---".toList.isPrefixOf (c :: cs) || "...".toList.isPrefixOf (c :: cs)

/-- Behind the first character: a colon that would end a key, or a hash that would begin a
comment. -/
def hasMark : List Char → Bool
  | [] => false
  | [_] => false
  | c :: d :: cs =>
    (d == ':' && isGap cs.head?) || (d == '#' && isGap (some c)) || hasMark (d :: cs)

/-! ## What a style can hold -/

/-- No line begins or ends with a space inside of the string, and no character needs an escape. -/
def fitsSingle (cs : List Char) : Bool :=
  cs.all isPrintable && !hasNeighbours isBreak isSpace cs && !hasNeighbours isSpace isBreak cs

def fitsPlain (cs : List Char) : Bool :=
  let isEdge (c : Option Char) : Bool := c.any fun c => isSpace c || isBreak c
  fitsSingle cs && !isEdge cs.head? && !isEdge cs.getLast? && !cs.any isBreak &&
    !beginsWithMark cs && !hasMark cs

/-- A block keeps spaces at the beginnings of lines. -/
def fitsLiteral (cs : List Char) : Bool :=
  cs.all isPrintable && !hasNeighbours isSpace isBreak cs && cs.getLast? != some ' '

/-! ## What is no string -/

/-- The number of some digits, if there are any. -/
def digits? (base : Nat) (value? : Char → Option Nat) : List Char → Option Nat
  | [] => none
  | cs => cs.foldlM (fun n c => (value? c).map fun d => n * base + d) 0

/-- The value of a digit in base sixteen. -/
def hexDigit? (c : Char) : Option Nat :=
  if '0' ≤ c ∧ c ≤ '9' then some (c.toNat - '0'.toNat)
  else if 'a' ≤ c ∧ c ≤ 'f' then some (c.toNat - 'a'.toNat + 10)
  else if 'A' ≤ c ∧ c ≤ 'F' then some (c.toNat - 'A'.toNat + 10)
  else none

/-- The number that a text without sign spells in one of four bases. -/
def magnitude? : List Char → Option Nat
  | '0' :: 'x' :: cs => digits? 16 hexDigit? cs
  | '0' :: 'o' :: cs => digits? 8 (fun c => (hexDigit? c).filter (· < 8)) cs
  | '0' :: 'b' :: cs => digits? 2 (fun c => (hexDigit? c).filter (· < 2)) cs
  | cs => digits? 10 Binary64.digit? cs

/-- A whole number of 128 bits, with or without sign. -/
def spellsWhole : List Char → Bool
  | '+' :: cs => (magnitude? cs).any (· < Whole.bound 128)
  | '-' :: cs => (magnitude? cs).any (· ≤ Whole.bound 127)
  | cs => (magnitude? cs).any (· < Whole.bound 128)

/-- Decimal digits of which the first, but not the only one, is zero. -/
def spellsPadded : List Char → Bool
  | '+' :: '0' :: c :: cs | '-' :: '0' :: c :: cs | '0' :: c :: cs =>
    (c :: cs).all Binary64.isDigit
  | _ => false

/-- The names of infinity and of what is no number. -/
def spellsNoFinite (s : String) : Bool :=
  ["inf", "Inf", "INF"].any (fun w => s == "." ++ w || s == "-." ++ w || s == "+." ++ w) ||
    [".nan", ".NaN", ".NAN"].contains s

def spellsFloat (s : String) : Bool :=
  spellsNoFinite s ||
    match Binary64.ofText? s.toList with
    | some x => !x.isInfinite && !x.isNotANumber
    | none => false

def spellsNull (s : String) : Bool := ["", "null", "Null", "NULL", "~"].contains s

def spellsBool (s : String) : Bool :=
  ["true", "True", "TRUE", "false", "False", "FALSE"].contains s

/-- A reader would not take the text for a string. -/
def spellsOther (s : String) : Bool :=
  spellsNull s || spellsBool s || spellsWhole s.toList || spellsPadded s.toList || spellsFloat s

/-! ## Styles -/

/-- How a string is written. -/
inductive Style
  | plain
  | single
  | double
  | literal
  deriving DecidableEq, Repr

def style (s : String) : Style :=
  let cs := s.toList
  if cs.contains '\n' then if fitsLiteral cs then .literal else .double
  else if !spellsOther s && fitsPlain cs then .plain
  else if fitsSingle cs then .single
  else .double

/-! ## Writing -/

/-- As many blanks as deep. -/
def indent (depth : Nat) : List Char := List.replicate depth ' '

/-- Lines, each as deep as its place; `fresh` says that nothing of the line is written yet. A line
without characters is not filled with blanks. -/
def lines (depth : Nat) : Bool → List Char → List Char
  | _, [] => []
  | fresh, c :: cs =>
    if isBreak c then c :: lines depth true cs
    else (if fresh then indent depth else []) ++ c :: lines depth false cs

/-- The last character ends a line. -/
def endsLine (cs : List Char) : Bool := cs.getLast?.any isBreak

/-- What is said of a literal block at its head: its depth, if its first line could not show it, and
what becomes of the end of its last line. -/
def blockHead (depth : Nat) (cs : List Char) : List Char :=
  (if cs.head?.any fun c => isSpace c || isBreak c then (toString depth).toList else []) ++
    if !endsLine cs then ['-']
    else if cs.dropLast.isEmpty || endsLine cs.dropLast then ['+']
    else []

/-- A quote is doubled between single quotes. -/
def doubleQuotes (cs : List Char) : List Char :=
  cs.flatMap fun c => if c = '\'' then ['\'', '\''] else [c]

/-- A code point in base sixteen with capital letters, filled up to a width. -/
def hexText (width n : Nat) : List Char :=
  let ds := (Nat.toDigits 16 n).map Char.toUpper
  List.replicate (width - ds.length) '0' ++ ds

/-- The letters of the characters that have an escape of one letter. -/
def escapeLetters : List (Char × Char) := [
  ('\x00', '0'), ('\x07', 'a'), ('\x08', 'b'), ('\t', 't'), ('\n', 'n'), ('\x0b', 'v'),
  ('\x0c', 'f'), ('\r', 'r'), ('\x1b', 'e'), ('"', '"'), ('\\', '\\'), ('\u0085', 'N'),
  ('\u00a0', '_'), ('\u2028', 'L'), ('\u2029', 'P')]

/-- A character between double quotes. -/
def escape (c : Char) : List Char :=
  if isPrintable c && !isBreak c && c != '"' && c != '\\' then [c]
  else
    match escapeLetters.lookup c with
    | some letter => ['\\', letter]
    | none =>
      let n := c.toNat
      if n ≤ 0xFF then '\\' :: 'x' :: hexText 2 n
      else if n ≤ 0xFFFF then '\\' :: 'u' :: hexText 4 n
      else '\\' :: 'U' :: hexText 8 n

/-- How much deeper the inside of something is. -/
def stride : Nat := 2

/-- A string with the end of its last line; `depth` is that of what it stands in. -/
def scalar (depth : Nat) (s : String) : String :=
  let cs := s.toList
  let inner := depth + stride
  String.ofList
    (match style s with
    | .plain => cs ++ ['\n']
    | .single =>
      '\'' :: lines inner false (doubleQuotes cs) ++
        (if endsLine cs then indent inner else []) ++ ['\'', '\n']
    | .double => '"' :: cs.flatMap escape ++ ['"', '\n']
    | .literal =>
      '|' :: blockHead stride cs ++ '\n' :: lines inner true cs ++
        if endsLine cs then [] else ['\n'])

end FirewallOrder.Yaml
