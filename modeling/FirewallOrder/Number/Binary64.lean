/-!
# Binary floating point in exact arithmetic

A double is its sign and its *rank*: its place among the doubles that are not negative, counted from
zero in ascending order. The rank is the word of the usual encoding without the sign bit, so
neighbours have neighbouring ranks. All arithmetic here is on natural numbers: a result is computed
exactly as a quotient and then rounded once, to the nearest double, and to the one with even rank
when two are equally near.
-/

namespace FirewallOrder

/-- A double, given by its sign and its place among the doubles from zero upwards. -/
structure Binary64 where
  negative : Bool
  rank : Nat
  deriving DecidableEq, Repr

namespace Binary64

/-- The doubles between two neighbouring powers of two. -/
def binade : Nat := Nat.pow 2 52

/-- The rank of infinity; what lies above it is no number. -/
def infinityRank : Nat := 2047 * binade

/-- The whole number that the value is a power of two times of. -/
def significand (x : Binary64) : Nat :=
  if x.rank < binade then x.rank else binade + x.rank % binade

/-- The power of two that goes with the significand, less its least value -1074. -/
def shift (x : Binary64) : Nat :=
  x.rank / binade - 1

/-- The value without its sign as a quotient. -/
def ratio (x : Binary64) : Nat × Nat :=
  if 1074 ≤ x.shift then (x.significand * Nat.pow 2 (x.shift - 1074), 1)
  else (x.significand, Nat.pow 2 (1074 - x.shift))

def isInfinite (x : Binary64) : Bool := x.rank == infinityRank

def isNotANumber (x : Binary64) : Bool := infinityRank < x.rank

def isZero (x : Binary64) : Bool := x.rank == 0

/-! ## Rounding -/

/-- The whole number nearest to a quotient, the even one of two that are equally near. -/
def roundQuotient (num den : Nat) : Nat :=
  let q := num / den
  let twice := 2 * (num % den)
  if twice < den then q
  else if den < twice then q + 1
  else if q % 2 = 0 then q else q + 1

/-- The power of two, counted from -1074, of the doubles around a quotient that is not zero. -/
def shiftFor (num den : Nat) : Nat :=
  -- `num / den` lies between `2 ^ (a - b - 1)` and `2 ^ (a - b + 1)`
  let a := num.log2 + 1074
  let b := den.log2 + 52
  let s := a - b
  if s = 0 then 0
  else
    let exact :=
      if 1074 ≤ s then num / (den * Nat.pow 2 (s - 1074)) else num * Nat.pow 2 (1074 - s) / den
    if exact < binade then s - 1 else s

/-- The rank of the double nearest to a quotient; a value beyond the greatest double is infinite. -/
def rankOfQuotient (num den : Nat) : Nat :=
  if num = 0 then 0
  else
    let s := shiftFor num den
    let q :=
      if 1074 ≤ s then roundQuotient num (den * Nat.pow 2 (s - 1074))
      else roundQuotient (num * Nat.pow 2 (1074 - s)) den
    min (s * binade + q) infinityRank

/-- The double nearest to a quotient. -/
def ofQuotient (negative : Bool) (num den : Nat) : Binary64 :=
  ⟨negative, rankOfQuotient num den⟩

/-- The double nearest to `digits * 10 ^ exponent`. A number with so many digits before or after its
point that it lies outside the range of doubles needs no power of ten to be computed. -/
def ofDecimal (negative : Bool) (digits : Nat) (exponent : Int) : Binary64 :=
  let size : Int := (digits.log2 : Int) * 3 / 10 + exponent
  if digits = 0 then ⟨negative, 0⟩
  else if 400 < size then ⟨negative, infinityRank⟩
  else if size < -400 then ⟨negative, 0⟩
  else if 0 ≤ exponent then ofQuotient negative (digits * Nat.pow 10 exponent.toNat) 1
  else ofQuotient negative digits (Nat.pow 10 (-exponent).toNat)

/-! ## Arithmetic -/

/-- The nearest double to a product of two finite doubles. -/
def mul (x y : Binary64) : Binary64 :=
  let (a, b) := x.ratio
  let (c, d) := y.ratio
  ofQuotient (x.negative != y.negative) (a * c) (b * d)

/-- The nearest double to a quotient of two finite doubles, the second not zero. -/
def div (x y : Binary64) : Binary64 :=
  let (a, b) := x.ratio
  let (c, d) := y.ratio
  ofQuotient (x.negative != y.negative) (a * d) (b * c)

end Binary64

end FirewallOrder
