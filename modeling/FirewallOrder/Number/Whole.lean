/-!
# Whole numbers within limits, as text

A whole number is an optional sign and one digit of ASCII or more. Its digits are read from the
left, and the first that is none, or that takes the number beyond its limits, decides what is wrong.
-/

namespace FirewallOrder

/-- Why a text is no whole number within the limits. -/
inductive WholeFault
  | empty
  | badDigit
  | tooLarge
  | tooSmall
  deriving DecidableEq, Repr

def WholeFault.message : WholeFault → String
  | .empty => "cannot parse integer from empty string"
  | .badDigit => "invalid digit found in string"
  | .tooLarge => "number too large to fit in target type"
  | .tooSmall => "number too small to fit in target type"

namespace Whole

/-- The least number that takes more than so many bits. -/
def bound (bits : Nat) : Nat := Nat.pow 2 bits

/-- The number of the digits, unless it exceeds a limit. -/
def magnitude (limit : Nat) (beyond : WholeFault) (sofar : Nat) :
    List Char → Except WholeFault Nat
  | [] => .ok sofar
  | c :: cs =>
    if '0' ≤ c ∧ c ≤ '9' then
      let n := sofar * 10 + (c.toNat - '0'.toNat)
      if n ≤ limit then magnitude limit beyond n cs else .error beyond
    else .error .badDigit

/-- One digit or more. -/
def digits (limit : Nat) (beyond : WholeFault) : List Char → Except WholeFault Nat
  | [] => .error .badDigit
  | cs => magnitude limit beyond 0 cs

/-- A number from zero to `high`; it may have a plus sign. -/
def readNat (high : Nat) : List Char → Except WholeFault Nat
  | [] => .error .empty
  | '+' :: cs => digits high .tooLarge cs
  | cs => digits high .tooLarge cs

/-- A number from `-low` to `high`. -/
def readInt (low high : Nat) : List Char → Except WholeFault Int
  | [] => .error .empty
  | '-' :: cs => (digits low .tooSmall cs).map fun n => -Int.ofNat n
  | '+' :: cs => (digits high .tooLarge cs).map Int.ofNat
  | cs => (digits high .tooLarge cs).map Int.ofNat

end Whole

end FirewallOrder
