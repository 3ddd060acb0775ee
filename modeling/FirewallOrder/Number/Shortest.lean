import FirewallOrder.Number.Binary64
/-!
# The fewest digits that read back

A double is written with the fewest decimal digits from which it can be read again; of two such
decimals with equally many digits the nearer one is taken. Where the point stands is left to the
format: `Decimal` holds the digits and the power of ten only.
-/

namespace FirewallOrder

/-- The number `digits * 10 ^ exponent`. -/
structure Decimal where
  digits : Nat
  exponent : Int
  deriving DecidableEq, Repr

namespace Binary64

/-- The whole number of times that `10 ^ exponent` goes into a quotient, and the rest as a quotient
of the same unit. -/
def countPower (num den : Nat) (exponent : Int) : Nat × Nat × Nat :=
  if 0 ≤ exponent then
    let d := den * Nat.pow 10 exponent.toNat
    (num / d, num % d, d)
  else
    let n := num * Nat.pow 10 (-exponent).toNat
    (n / den, n % den, den)

/-- A quotient is at least `10 ^ exponent`. -/
def reachesPower (num den : Nat) (exponent : Int) : Bool :=
  (countPower num den exponent).1 != 0

/-- The greatest power of ten not above a quotient that is not zero: the estimate from the binary
logarithms is at most one too small. -/
def leadingPower (num den : Nat) : Int :=
  let estimate : Int := (((num.log2 : Int) - (den.log2 : Int) - 1) * 30103) / 100000
  if reachesPower num den (estimate + 2) then estimate + 2
  else if reachesPower num den (estimate + 1) then estimate + 1
  else if reachesPower num den estimate then estimate
  else estimate - 1

/-- The nearer of the value's two neighbours on the grid of multiples of `10 ^ exponent` among those
that read back as the value. -/
def onGrid? (x : Binary64) (exponent : Int) : Option Decimal :=
  let (num, den) := x.ratio
  let (q, rest, unit) := countPower num den exponent
  let readsBack (digits : Nat) : Bool := (ofDecimal false digits exponent).rank == x.rank
  let low := readsBack q
  let high := readsBack (q + 1)
  if low && high then
    if 2 * rest < unit || (2 * rest = unit && q % 2 = 0) then some ⟨q, exponent⟩
    else some ⟨q + 1, exponent⟩
  else if low then some ⟨q, exponent⟩
  else if high then some ⟨q + 1, exponent⟩
  else none

/-- The first grid, from the coarsest on, on which the value can be read back. -/
def firstGrid (x : Binary64) (leading : Int) : Nat → Nat → Decimal
  | 0, places => ⟨(countPower x.ratio.1 x.ratio.2 (leading - places)).1, leading - places⟩
  | fuel + 1, places =>
    match onGrid? x (leading - places) with
    | some d => d
    | none => firstGrid x leading fuel (places + 1)

/-- The decimal with the fewest digits that reads back as a finite double; zeros at the end of its
digits count as part of the power of ten. -/
def shortest (x : Binary64) : Decimal :=
  if x.isZero then ⟨0, 0⟩
  else firstGrid x (leadingPower x.ratio.1 x.ratio.2) 17 0

end Binary64

/-- The same number without zeros at the end of its digits. -/
def Decimal.normalize (d : Decimal) : Decimal :=
  go d.digits d.digits d.exponent
where
  /-- At most as many zeros as the digits have in all can be taken off. -/
  go : Nat → Nat → Int → Decimal
    | 0, digits, exponent => ⟨digits, exponent⟩
    | fuel + 1, digits, exponent =>
      if digits % 10 = 0 ∧ digits ≠ 0 then go fuel (digits / 10) (exponent + 1)
      else ⟨digits, exponent⟩

end FirewallOrder
