import FirewallOrder.Json.Basic
import FirewallOrder.Json.Fault
import FirewallOrder.Number.Whole
/-!
# JSON numbers as text

`NumberText` is the spelling of a number: its sign and its digits before the point, behind it and in
the exponent. `NumberText.read` takes it off a text, `NumberText.value` says which number it means
and `JsonNumber.text` spells one.

A spelling without point and exponent is a whole number if it fits into 64 bits; minus zero is a
double. All others are doubles, read in a quick way that is not always the nearest double: the first
digits that fit into 64 bits are rounded to a double, and that is then multiplied with a power of
ten or divided by one.
-/

namespace FirewallOrder.Json

/-- The spelling of a number. -/
structure NumberText where
  negative : Bool
  whole : List Nat
  fraction : Option (List Nat)
  exponent : Option (Bool × List Nat)
  deriving DecidableEq, Repr

/-- The value of a digit. -/
def digit? (c : Char) : Option Nat :=
  if '0' ≤ c ∧ c ≤ '9' then some (c.toNat - '0'.toNat) else none

/-- The digits at the beginning of a text, and the text behind them. -/
def takeDigits : List Char → List Nat × List Char
  | [] => ([], [])
  | c :: cs =>
    match digit? c with
    | none => ([], c :: cs)
    | some d => ((takeDigits cs).map (d :: ·) id)

namespace NumberText

/-! ## Taking a number off a text -/

/-- The digits that have to stand at a place: without one the number is broken off there. -/
def someDigits (cs : List Char) : Except Flaw (List Nat × List Char) :=
  match takeDigits cs with
  | ([], []) => .error ⟨.endsInValue, some .badNumber⟩
  | ([], _ :: _) => .error (.always .badNumber)
  | taken => .ok taken

/-- The digits before the point: a zero stands there alone. -/
def takeWhole (cs : List Char) : Except Flaw (List Nat × List Char) := do
  match ← someDigits cs with
  | (0 :: _ :: _, _) => throw (.always .badNumber)
  | taken => pure taken

def takeFraction : List Char → Except Flaw (Option (List Nat) × List Char)
  | '.' :: cs => do
    let (digits, rest) ← someDigits cs
    pure (some digits, rest)
  | cs => pure (none, cs)

/-- The sign of an exponent, true for a negative one. -/
def takeSign : List Char → Bool × List Char
  | '+' :: cs => (false, cs)
  | '-' :: cs => (true, cs)
  | cs => (false, cs)

def takeExponent : List Char → Except Flaw (Option (Bool × List Nat) × List Char)
  | c :: cs =>
    if c == 'e' || c == 'E' then do
      let (negative, cs) := takeSign cs
      let (digits, rest) ← someDigits cs
      pure (some (negative, digits), rest)
    else pure (none, c :: cs)
  | [] => pure (none, [])

/-- The number at the beginning of a text, and the text behind it. -/
def read (cs : List Char) : Except Flaw (NumberText × List Char) := do
  let (negative, cs) :=
    match cs with
    | '-' :: cs => (true, cs)
    | cs => (false, cs)
  let (whole, cs) ← takeWhole cs
  let (fraction, cs) ← takeFraction cs
  let (exponent, cs) ← takeExponent cs
  pure (⟨negative, whole, fraction, exponent⟩, cs)

/-! ## The number that a spelling means -/

/-- The greatest number that is gathered from digits. -/
def gatherLimit : Nat := Whole.bound 64 - 1

/-- The number of the digits as far as it fits into 64 bits, and the digits left over. -/
def gather (sofar : Nat) : List Nat → Nat × List Nat
  | [] => (sofar, [])
  | d :: ds =>
    if sofar * 10 + d ≤ gatherLimit then gather (sofar * 10 + d) ds else (sofar, d :: ds)

/-- The number of an exponent's digits, unless it is too great for 32 bits. -/
def exponentValue? (digits : List Nat) : Option Nat :=
  let n := digits.foldl (fun n d => n * 10 + d) 0
  if n < Whole.bound 31 then some n else none

/-- A power of ten as a double. -/
def powerOfTen (n : Nat) : Binary64 :=
  .ofDecimal false 1 n

/-- A double times a power of ten: one multiplication or division, after as many divisions by the
greatest power of ten as a small number needs. -/
def scale : Nat → Binary64 → Int → Except Fault Binary64
  | 0, _, _ => .ok ⟨false, 0⟩
  | steps + 1, x, exponent =>
    if exponent.natAbs ≤ 308 then
      if 0 ≤ exponent then
        let y := x.mul (powerOfTen exponent.natAbs)
        if y.isInfinite then .error .numberOutOfRange else .ok y
      else .ok (x.div (powerOfTen exponent.natAbs))
    else if x.isZero then .ok x
    else if 0 ≤ exponent then .error .numberOutOfRange
    else scale steps (x.div (powerOfTen 308)) (exponent + 308)

/-- The double that a number of digits and a power of ten give. Two divisions by the greatest power
of ten leave nothing of any number of 64 bits. -/
def toDouble (negative : Bool) (digits : Nat) (exponent : Int) : Except Fault JsonNumber := do
  let x ← scale 4 (.ofQuotient false digits 1) exponent
  pure (.float ⟨negative, x.rank⟩)

/-- An exponent of 32 bits stays within them. -/
def clamp (exponent : Int) : Int :=
  max (-Whole.bound 31) (min (Whole.bound 31 - 1) exponent)

/-- The number that the spelling means, if it is within range. -/
def value (t : NumberText) : Except Fault JsonNumber :=
  let (w, beyond) := gather 0 t.whole
  match t.fraction, t.exponent, beyond with
  | none, none, [] =>
    if t.negative then
      if w = 0 ∨ Whole.bound 63 < w then toDouble true w 0 else .ok (.int (-w))
    else .ok (.int w)
  | _, _, _ =>
    let fraction := t.fraction.getD []
    let (digits, unused) := gather w fraction
    let point : Int := beyond.length - (fraction.length - unused.length : Nat)
    match t.exponent with
    | none => toDouble t.negative digits point
    | some (negative, ds) =>
      match exponentValue? ds with
      | some e => toDouble t.negative digits (clamp (if negative then point - e else point + e))
      | none =>
        if digits ≠ 0 ∧ !negative then .error .numberOutOfRange
        else .ok (.float ⟨t.negative, 0⟩)

end NumberText

/-! ## Spelling a number -/

/-- The digits of a number in base ten. -/
def decimalDigits (n : Nat) : List Char := Nat.toDigits 10 n

/-- A double between these powers of ten is written with its point in place, any other with an
exponent. -/
def positionalFrom : Int := -5

def positionalTo : Int := 16

/-- A finite double in JSON: the fewest digits that read back, always with a point or an
exponent. -/
def doubleText (x : Binary64) : String :=
  let sign := if x.negative then "-" else ""
  if x.isZero then sign ++ "0.0"
  else
    let d := x.shortest.normalize
    let ds := decimalDigits d.digits
    -- the point stands behind this many digits
    let point : Int := ds.length + d.exponent
    let zeros (n : Int) : List Char := List.replicate n.toNat '0'
    let body : List Char :=
      if 0 < point ∧ point ≤ positionalTo then
        if 0 ≤ d.exponent then ds ++ zeros d.exponent ++ ['.', '0']
        else ds.take point.toNat ++ '.' :: ds.drop point.toNat
      else if positionalFrom < point ∧ point ≤ 0 then '0' :: '.' :: zeros (-point) ++ ds
      else
        let power := point - 1
        let mantissa :=
          match ds with
          | first :: second :: rest => first :: '.' :: second :: rest
          | _ => ds
        mantissa ++ 'e' :: (if power < 0 then '-' else '+') :: decimalDigits power.natAbs
    sign ++ String.ofList body

end FirewallOrder.Json

namespace FirewallOrder

open Json in
/-- The number as JSON writes it. -/
def JsonNumber.text : JsonNumber → String
  | .int n => toString n
  | .float x => doubleText x

end FirewallOrder
