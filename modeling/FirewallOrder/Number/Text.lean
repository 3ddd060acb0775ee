import FirewallOrder.Number.Shortest
/-!
# Doubles as text

A double is read from decimal digits with or without point and exponent and rounded once; the names
of infinity and of what is no number are read in any case. It is shown with the fewest digits that
read back, its point always in place.
-/

namespace FirewallOrder.Binary64

/-! ## Reading -/

/-- The value of a decimal digit. -/
def digit? (c : Char) : Option Nat :=
  if '0' ≤ c ∧ c ≤ '9' then some (c.toNat - '0'.toNat) else none

def isDigit (c : Char) : Bool := (digit? c).isSome

/-- The number of decimal digits. -/
def number (cs : List Char) : Nat :=
  cs.foldl (fun n c => n * 10 + (digit? c).getD 0) 0

/-- A whole text that is an exponent: a sign, perhaps, and a digit or more. -/
def exponent? (cs : List Char) : Option Int :=
  let (negative, digits) :=
    match cs with
    | '-' :: cs => (true, cs)
    | '+' :: cs => (false, cs)
    | cs => (false, cs)
  if digits.isEmpty || !digits.all isDigit then none
  else some (if negative then -(number digits : Int) else number digits)

/-- The double that a text without sign spells. -/
def ofUnsigned? (negative : Bool) (cs : List Char) : Option Binary64 :=
  let small := cs.map Char.toLower
  if small = "inf".toList ∨ small = "infinity".toList then some ⟨negative, infinityRank⟩
  else if small = "nan".toList then some ⟨negative, infinityRank + binade / 2⟩
  else
    let (whole, rest) := cs.span isDigit
    let (fraction, rest) :=
      match rest with
      | '.' :: cs => cs.span isDigit
      | rest => ([], rest)
    let digits := number (whole ++ fraction)
    if whole.isEmpty && fraction.isEmpty then none
    else
      match rest with
      | [] => some (ofDecimal negative digits (-(fraction.length : Int)))
      | c :: cs =>
        if c = 'e' ∨ c = 'E' then
          (exponent? cs).map fun e => ofDecimal negative digits (e - fraction.length)
        else none

/-- The double nearest to the number that a text spells. -/
def ofText? : List Char → Option Binary64
  | '-' :: cs => ofUnsigned? true cs
  | '+' :: cs => ofUnsigned? false cs
  | cs => ofUnsigned? false cs

/-! ## Showing -/

/-- The double with its point in place. -/
def display (x : Binary64) : String :=
  if x.isNotANumber then "NaN"
  else
    let sign := if x.negative then "-" else ""
    if x.isInfinite then sign ++ "inf"
    else if x.isZero then sign ++ "0"
    else
      let d := x.shortest.normalize
      let ds := Nat.toDigits 10 d.digits
      -- the point stands behind this many digits
      let point : Int := ds.length + d.exponent
      let zeros (n : Int) : List Char := List.replicate n.toNat '0'
      sign ++ String.ofList
        (if 0 ≤ d.exponent then ds ++ zeros d.exponent
        else if 0 < point then ds.take point.toNat ++ '.' :: ds.drop point.toNat
        else '0' :: '.' :: zeros (-point) ++ ds)

end FirewallOrder.Binary64
