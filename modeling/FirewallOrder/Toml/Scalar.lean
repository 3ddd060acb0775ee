import FirewallOrder.Toml.Table
import FirewallOrder.Number.Whole
/-!
# Words of TOML

Keys, strings, numbers, truth values and dates. Each reader takes its word off the beginning of a
text and gives back what follows, or nothing if no such word stands there.
-/

namespace FirewallOrder.Toml

/-- A reader of a word. -/
abbrev Taker (α : Type) := List Char → Option (α × List Char)

/-! ## Blanks and line ends -/

def isBlank (c : Char) : Bool := c == ' ' || c == '\t'

def skipBlanks (cs : List Char) : List Char := cs.dropWhile isBlank

/-- A character outside ASCII. -/
def isWide (c : Char) : Bool := '\x7f' < c

/-- What may stand in a line. -/
def isLineChar (c : Char) : Bool := c == '\t' || (' ' ≤ c && c ≤ '~') || isWide c

/-- The text behind a line end. -/
def takeLineEnd : List Char → Option (List Char)
  | '\n' :: cs => some cs
  | '\r' :: '\n' :: cs => some cs
  | _ => none

/-- The text behind a comment, if one stands here. -/
def skipComment : List Char → List Char
  | '#' :: cs => cs.dropWhile isLineChar
  | cs => cs

/-! ## Strings -/

/-- The character with a code point, if there is one. -/
def charAt? (n : Nat) : Option Char :=
  if n.isValidChar then some (Char.ofNat n) else none

/-- The character of so many digits in base sixteen. -/
def hexChar (digits : Nat) (cs : List Char) : Option (Char × List Char) := do
  let ds := cs.take digits
  if ds.length < digits then none
  else
    let n ← ds.foldlM (fun n c => do
      let d ←
        if '0' ≤ c ∧ c ≤ '9' then some (c.toNat - '0'.toNat)
        else if 'a' ≤ c ∧ c ≤ 'f' then some (c.toNat - 'a'.toNat + 10)
        else if 'A' ≤ c ∧ c ≤ 'F' then some (c.toNat - 'A'.toNat + 10)
        else none
      pure (n * 16 + d)) 0
    let c ← charAt? n
    pure (c, cs.drop digits)

/-- The character that an escape stands for, behind its backslash. -/
def takeEscape : Taker Char
  | 'b' :: cs => some ('\x08', cs)
  | 't' :: cs => some ('\t', cs)
  | 'n' :: cs => some ('\n', cs)
  | 'f' :: cs => some ('\x0c', cs)
  | 'r' :: cs => some ('\r', cs)
  | '"' :: cs => some ('"', cs)
  | '\\' :: cs => some ('\\', cs)
  | 'u' :: cs => hexChar 4 cs
  | 'U' :: cs => hexChar 8 cs
  | _ => none

/-- The rest of a string in one line with escapes; `sofar` is in reverse. -/
def basicRest : Nat → List Char → Taker String
  | 0, _, _ => none
  | fuel + 1, sofar, cs =>
    match cs with
    | '"' :: rest => some (String.ofList sofar.reverse, rest)
    | '\\' :: rest =>
      match takeEscape rest with
      | some (c, rest) => basicRest fuel (c :: sofar) rest
      | none => none
    | c :: rest => if isLineChar c then basicRest fuel (c :: sofar) rest else none
    | [] => none

/-- The rest of a string in one line without escapes. -/
def literalRest (cs : List Char) : Option (String × List Char) :=
  match cs.span fun c => c != '\'' && isLineChar c with
  | (inside, '\'' :: rest) => some (String.ofList inside, rest)
  | _ => none

/-- The text behind blanks and line ends, if at least one line end is among them. -/
def skipToNextLine (cs : List Char) : Option (List Char) :=
  (takeLineEnd (skipBlanks cs)).map fun rest =>
    rest.dropWhile fun c => isBlank c || c == '\n' || c == '\r'

/-- A run of quotes at the beginning of a text, five at most, and the text behind it. -/
def takeQuotes (quote : Char) (cs : List Char) : Nat × List Char :=
  let run := (cs.take 5).takeWhile (· == quote)
  (run.length, cs.drop run.length)

/-- The rest of a string over several lines; `sofar` is in reverse. Three quotes end it, and up to
two more before them belong to it. -/
def manyLinesRest (quote : Char) : Nat → List Char → Taker String
  | 0, _, _ => none
  | fuel + 1, sofar, cs =>
    match cs with
    | [] => none
    | c :: rest =>
      if c = quote then
        let (n, behind) := takeQuotes quote cs
        if 3 ≤ n then
          some (String.ofList (List.replicate (n - 3) quote ++ sofar).reverse, behind)
        else manyLinesRest quote fuel (List.replicate n quote ++ sofar) behind
      else if c = '\\' ∧ quote = '"' then
        match skipToNextLine rest with
        | some behind => manyLinesRest quote fuel sofar behind
        | none =>
          match takeEscape rest with
          | some (e, behind) => manyLinesRest quote fuel (e :: sofar) behind
          | none => none
      else
        match takeLineEnd cs with
        | some behind => manyLinesRest quote fuel ('\n' :: sofar) behind
        | none => if isLineChar c then manyLinesRest quote fuel (c :: sofar) rest else none

/-- The text behind a line end that directly follows the quotes that open a string. -/
def skipFirstLineEnd (cs : List Char) : List Char := (takeLineEnd cs).getD cs

/-- A string in any of its four forms. -/
def takeString (cs : List Char) : Option (String × List Char) :=
  match cs with
  | '"' :: '"' :: '"' :: rest => manyLinesRest '"' (cs.length + 1) [] (skipFirstLineEnd rest)
  | '\'' :: '\'' :: '\'' :: rest => manyLinesRest '\'' (cs.length + 1) [] (skipFirstLineEnd rest)
  | '"' :: rest => basicRest (cs.length + 1) [] rest
  | '\'' :: rest => literalRest rest
  | _ => none

/-! ## Keys -/

def isKeyChar (c : Char) : Bool :=
  ('a' ≤ c && c ≤ 'z') || ('A' ≤ c && c ≤ 'Z') || ('0' ≤ c && c ≤ '9') || c == '-' || c == '_'

/-- One key: a bare word or a string in one line. -/
def takeKey (cs : List Char) : Option (String × List Char) :=
  match cs with
  | '"' :: rest => basicRest (cs.length + 1) [] rest
  | '\'' :: rest => literalRest rest
  | cs =>
    match cs.span isKeyChar with
    | ([], _) => none
    | (word, rest) => some (String.ofList word, rest)

/-- Keys with points between them; blanks may stand around each. -/
def takePath : Nat → Taker (List String)
  | 0, _ => none
  | fuel + 1, cs => do
    let (key, rest) ← takeKey (skipBlanks cs)
    match skipBlanks rest with
    | '.' :: rest => do
      let (path, rest) ← takePath fuel rest
      pure (key :: path, rest)
    | rest => pure ([key], rest)

/-! ## Numbers -/

/-- Digits of a class, with single underscores between them. -/
def takeDigits (isDigit : Char → Bool) : Nat → Taker (List Char)
  | 0, _ => none
  | _ + 1, [] => none
  | fuel + 1, c :: cs =>
    if isDigit c then
      match cs with
      | '_' :: rest => (takeDigits isDigit fuel rest).map fun (ds, rest) => (c :: ds, rest)
      | rest =>
        if (rest.head?.map isDigit).getD false then
          (takeDigits isDigit fuel rest).map fun (ds, rest) => (c :: ds, rest)
        else some ([c], rest)
    else none

/-- A whole number in base ten without sign and without zeros before it. -/
def takeWhole : Taker (List Char)
  | '0' :: cs => some (['0'], cs)
  | cs => takeDigits Binary64.isDigit (cs.length + 1) cs

/-- A sign, true for minus. -/
def takeSign : List Char → Bool × List Char
  | '-' :: cs => (true, cs)
  | '+' :: cs => (false, cs)
  | cs => (false, cs)

/-- The number within 64 bits. -/
def within (n : Int) : Option Int :=
  if -(Whole.bound 63 : Int) ≤ n ∧ n < Whole.bound 63 then some n else none

/-- The number that digits of some base mean. -/
def baseNumber (base : Nat) (cs : List Char) : Nat :=
  cs.foldl (fun n c =>
    n * base +
      (if '0' ≤ c ∧ c ≤ '9' then c.toNat - '0'.toNat
      else if 'a' ≤ c ∧ c ≤ 'f' then c.toNat - 'a'.toNat + 10
      else c.toNat - 'A'.toNat + 10)) 0

/-- Digits in a base other than ten, behind the letter of the base. -/
def takeBased (base : Nat) (isDigit : Char → Bool) (cs : List Char) :
    Option (Node × List Char) := do
  let (ds, rest) ← takeDigits isDigit (cs.length + 1) cs
  let n ← within (baseNumber base ds)
  pure (.int n, rest)

def isHexDigit (c : Char) : Bool :=
  Binary64.isDigit c || ('a' ≤ c && c ≤ 'f') || ('A' ≤ c && c ≤ 'F')

/-- A point and the digits behind it. -/
def takeFraction : List Char → Option (Option (List Char) × List Char)
  | '.' :: cs =>
    (takeDigits Binary64.isDigit (cs.length + 1) cs).map fun (ds, rest) => (some ds, rest)
  | cs => some (none, cs)

/-- A power of ten. -/
def takeExponent : List Char → Option (Option Int × List Char)
  | c :: cs =>
    if c = 'e' ∨ c = 'E' then do
      let (negative, cs) := takeSign cs
      let (ds, rest) ← takeDigits Binary64.isDigit (cs.length + 1) cs
      let n : Int := Binary64.number ds
      pure (some (if negative then -n else n), rest)
    else some (none, c :: cs)
  | [] => some (none, [])

/-- A double, which must not grow beyond the greatest one. -/
def finite (x : Binary64) : Option Node :=
  if x.isInfinite && !x.negative then none else some (.float x)

/-- A number in base ten, behind its sign. -/
def takeDecimal (negative : Bool) (cs : List Char) : Option (Node × List Char) := do
  let (whole, rest) ← takeWhole cs
  let (fraction, rest) ← takeFraction rest
  let (exponent, rest) ← takeExponent rest
  match fraction, exponent with
  | none, none =>
    let n : Int := Binary64.number whole
    let n ← within (if negative then -n else n)
    pure (.int n, rest)
  | fraction, exponent =>
    let digits := fraction.getD []
    let x := Binary64.ofDecimal negative (Binary64.number (whole ++ digits))
      (exponent.getD 0 - digits.length)
    let node ← finite x
    pure (node, rest)

/-- A number. -/
def takeNumber : Taker Node
  | '0' :: 'x' :: cs => takeBased 16 isHexDigit cs
  | '0' :: 'o' :: cs => takeBased 8 (fun c => '0' ≤ c && c ≤ '7') cs
  | '0' :: 'b' :: cs => takeBased 2 (fun c => c == '0' || c == '1') cs
  | cs =>
    match takeSign cs with
    | (negative, 'i' :: 'n' :: 'f' :: rest) =>
      some (.float ⟨negative, Binary64.infinityRank⟩, rest)
    | (negative, 'n' :: 'a' :: 'n' :: rest) =>
      some (.float ⟨negative, Binary64.infinityRank + Binary64.binade / 2⟩, rest)
    | (negative, rest) => takeDecimal negative rest

/-! ## Dates -/

/-- A number of exactly so many digits. -/
def takeFixed (digits : Nat) (cs : List Char) : Option (Nat × List Char) :=
  let ds := cs.take digits
  if ds.length = digits ∧ ds.all Binary64.isDigit then some (Binary64.number ds, cs.drop digits)
  else none

/-- The text behind a character that has to stand here. -/
def expect (c : Char) : List Char → Option (List Char)
  | d :: cs => if c = d then some cs else none
  | [] => none

def isLeapYear (year : Nat) : Bool :=
  year % 4 == 0 && (year % 100 != 0 || year % 400 == 0)

/-- The number of days of a month. -/
def daysIn (year month : Nat) : Nat :=
  if month = 2 then if isLeapYear year then 29 else 28
  else if month = 4 ∨ month = 6 ∨ month = 9 ∨ month = 11 then 30
  else 31

/-- The text behind a day. -/
def takeDay (cs : List Char) : Option (List Char) := do
  let (year, rest) ← takeFixed 4 cs
  let (month, rest) ← takeFixed 2 (← expect '-' rest)
  let (day, rest) ← takeFixed 2 (← expect '-' rest)
  if 1 ≤ month ∧ month ≤ 12 ∧ 1 ≤ day ∧ day ≤ daysIn year month then pure rest else none

/-- The text behind the fraction of a second, if there is one. -/
def skipSecondFraction : List Char → Option (List Char)
  | '.' :: cs =>
    match cs.span Binary64.isDigit with
    | ([], _) => none
    | (_, rest) => some rest
  | cs => some cs

/-- The text behind a time of day. -/
def takeTime (cs : List Char) : Option (List Char) := do
  let (hour, rest) ← takeFixed 2 cs
  let (minute, rest) ← takeFixed 2 (← expect ':' rest)
  let (second, rest) ← takeFixed 2 (← expect ':' rest)
  if hour ≤ 23 ∧ minute ≤ 59 ∧ second ≤ 60 then skipSecondFraction rest else none

/-- The text behind the distance from universal time, if there is one. -/
def skipOffset : List Char → Option (List Char)
  | c :: cs =>
    if c = 'Z' ∨ c = 'z' then some cs
    else if c = '+' ∨ c = '-' then do
      let (hour, rest) ← takeFixed 2 cs
      let (minute, rest) ← takeFixed 2 (← expect ':' rest)
      if hour ≤ 23 ∧ minute ≤ 59 then pure rest else none
    else some (c :: cs)
  | [] => some []

/-- The text begins like a day: four digits and a dash. -/
def looksLikeDay (cs : List Char) : Bool :=
  match takeFixed 4 cs with
  | some (_, '-' :: _) => true
  | _ => false

/-- The text begins like a time of day: two digits and a colon. -/
def looksLikeTime (cs : List Char) : Bool :=
  match takeFixed 2 cs with
  | some (_, ':' :: _) => true
  | _ => false

/-- The text behind a day, perhaps with a time of day, or behind a time of day alone. -/
def takeDate (cs : List Char) : Option (List Char) :=
  if looksLikeDay cs then do
    let rest ← takeDay cs
    match rest with
    | [] => pure []
    | c :: time =>
      if c = 'T' ∨ c = 't' ∨ (c = ' ' ∧ looksLikeTime time) then do
        skipOffset (← takeTime time)
      else pure (c :: time)
  else takeTime cs

/-- The text behind a word. -/
def expectWord : List Char → List Char → Option (List Char)
  | [], cs => some cs
  | w :: ws, c :: cs => if w = c then expectWord ws cs else none
  | _ :: _, [] => none

/-- A value that is no array and no table. -/
def takeScalar (cs : List Char) : Option (Node × List Char) :=
  match cs with
  | [] => none
  | c :: _ =>
    if c = '"' ∨ c = '\'' then (takeString cs).map fun (s, rest) => (.str s, rest)
    else if c = 't' then (expectWord "true".toList cs).map fun rest => (.bool true, rest)
    else if c = 'f' then (expectWord "false".toList cs).map fun rest => (.bool false, rest)
    else if looksLikeDay cs || looksLikeTime cs then (takeDate cs).map fun rest => (.date, rest)
    else takeNumber cs

end FirewallOrder.Toml
