import FirewallOrder.Number.Whole
import FirewallOrder.Proofs.Result

/-!
# Which texts say whole numbers

A text says a whole number if it is a sign, perhaps, and digits (`Whole.Spells`). It is read if the
number is within the limits, whatever is made of the digits on the way (`Whole.readInt_eq_ok_iff`),
and what a number is written as says it (`Whole.spells_toString`).
-/

namespace FirewallOrder.Whole

variable {limit low high : Nat} {beyond : WholeFault} {cs : List Char}

/-! ## Digits -/

/-- Digits of ASCII, one at least, that say the number. -/
def Digits (cs : List Char) (n : Nat) : Prop :=
  cs ≠ [] ∧ (∀ c ∈ cs, c.isDigit = true) ∧ Nat.ofDigitChars 10 cs 0 = n

theorem isDigit_iff {c : Char} : c.isDigit = true ↔ '0' ≤ c ∧ c ≤ '9' := by
  simp [Char.isDigit, Char.le_def]

theorem le_ofDigitChars (cs : List Char) (sofar : Nat) : sofar ≤ Nat.ofDigitChars 10 cs sofar := by
  induction cs generalizing sofar with
  | nil => exact Nat.le_refl _
  | cons c cs ih =>
    rw [Nat.ofDigitChars_cons]
    have := ih (10 * sofar + (c.toNat - '0'.toNat))
    omega

/-- Digits never take a number back, so one that fits in the end was never beyond its limit. -/
theorem magnitude_eq_ok_iff {sofar n : Nat} (within : sofar ≤ limit) :
    magnitude limit beyond sofar cs = .ok n ↔
    (∀ c ∈ cs, c.isDigit = true) ∧ Nat.ofDigitChars 10 cs sofar = n ∧ n ≤ limit := by
  induction cs generalizing sofar with
  | nil =>
    rw [magnitude, Nat.ofDigitChars_nil, Except.ok.injEq]
    constructor
    · rintro rfl
      exact ⟨nofun, rfl, within⟩
    · exact fun h => h.2.1
  | cons c cs ih =>
    rw [magnitude, List.forall_mem_cons, isDigit_iff, Nat.ofDigitChars_cons, Nat.mul_comm 10 sofar]
    by_cases digit : '0' ≤ c ∧ c ≤ '9'
    · rw [if_pos digit]
      dsimp only
      by_cases fits : sofar * 10 + (c.toNat - '0'.toNat) ≤ limit
      · rw [if_pos fits, ih fits]
        simp [digit]
      · have grows := le_ofDigitChars cs (sofar * 10 + (c.toNat - '0'.toNat))
        rw [if_neg fits]
        constructor
        · intro h
          cases h
        · rintro ⟨-, rfl, h⟩
          omega
    · rw [if_neg digit]
      constructor
      · intro h
        cases h
      · exact fun h => absurd h.1.1 digit

theorem digits_eq_ok_iff {n : Nat} : digits limit beyond cs = .ok n ↔ Digits cs n ∧ n ≤ limit := by
  cases cs with
  | nil =>
    constructor
    · intro h
      cases h
    · exact fun h => absurd rfl h.1.1
  | cons c cs =>
    rw [digits, magnitude_eq_ok_iff (Nat.zero_le _), Digits]
    · simp [and_assoc]
    · exact List.cons_ne_nil c cs

theorem digits_toDigits (n : Nat) : Digits (Nat.toDigits 10 n) n :=
  ⟨Nat.toDigits_ne_nil, fun _ => Nat.isDigit_of_mem_toDigits (by decide) (by decide),
    Nat.ofDigitChars_ten_toDigits⟩

/-! ## Signs -/

/-- The text says the number. -/
inductive Spells : List Char → Int → Prop
  | plain {cs : List Char} {n : Nat} (digits : Digits cs n) : Spells cs n
  | plus {cs : List Char} {n : Nat} (digits : Digits cs n) : Spells ('+' :: cs) n
  | minus {cs : List Char} {n : Nat} (digits : Digits cs n) : Spells ('-' :: cs) (-n)

/-- Digits do not begin with a sign. -/
theorem not_digits_cons {c : Char} {n : Nat} (sign : c.isDigit = false) : ¬ Digits (c :: cs) n := by
  intro h
  have digit := h.2.1 c List.mem_cons_self
  rw [sign] at digit
  cases digit

theorem spells_plus_iff {n : Int} : Spells ('+' :: cs) n ↔ ∃ m : Nat, Digits cs m ∧ m = n := by
  constructor
  · intro h
    cases h with
    | plain digits => exact absurd digits (not_digits_cons rfl)
    | plus digits => exact ⟨_, digits, rfl⟩
  · rintro ⟨m, digits, rfl⟩
    exact .plus digits

theorem spells_minus_iff {n : Int} : Spells ('-' :: cs) n ↔
    ∃ m : Nat, Digits cs m ∧ -(m : Int) = n := by
  constructor
  · intro h
    cases h with
    | plain digits => exact absurd digits (not_digits_cons rfl)
    | minus digits => exact ⟨_, digits, rfl⟩
  · rintro ⟨m, digits, rfl⟩
    exact .minus digits

theorem spells_iff {n : Int} (noMinus : ∀ ds, cs ≠ '-' :: ds) (noPlus : ∀ ds, cs ≠ '+' :: ds) :
    Spells cs n ↔ ∃ m : Nat, Digits cs m ∧ m = n := by
  constructor
  · intro h
    cases h with
    | plain digits => exact ⟨_, digits, rfl⟩
    | plus digits => exact absurd rfl (noPlus _)
    | minus digits => exact absurd rfl (noMinus _)
  · rintro ⟨m, digits, rfl⟩
    exact .plain digits

/-- A number without a minus cannot be too small. -/
theorem map_digits_eq_ok_iff {n : Int} : (digits high beyond cs).map Int.ofNat = .ok n ↔
    (∃ m : Nat, Digits cs m ∧ m = n) ∧ -(low : Int) ≤ n ∧ n ≤ high := by
  rw [map_eq_ok_iff]
  simp only [digits_eq_ok_iff, Int.ofNat_eq_natCast]
  constructor
  · rintro ⟨m, ⟨digits, within⟩, rfl⟩
    exact ⟨⟨m, digits, rfl⟩, by omega, by omega⟩
  · rintro ⟨⟨m, digits, rfl⟩, -, within⟩
    exact ⟨m, ⟨digits, by omega⟩, rfl⟩

/-- **A whole number is read from the texts that say it,** if it keeps to the limits. -/
theorem readInt_eq_ok_iff {n : Int} : readInt low high cs = .ok n ↔
    Spells cs n ∧ -(low : Int) ≤ n ∧ n ≤ high := by
  unfold readInt
  split
  · constructor
    · intro h
      cases h
    · rintro ⟨h, -⟩
      cases h with
      | plain digits => exact absurd rfl digits.1
  · rw [spells_minus_iff, map_eq_ok_iff]
    simp only [digits_eq_ok_iff, Int.ofNat_eq_natCast]
    constructor
    · rintro ⟨m, ⟨digits, within⟩, rfl⟩
      exact ⟨⟨m, digits, rfl⟩, by omega, by omega⟩
    · rintro ⟨⟨m, digits, rfl⟩, within, -⟩
      exact ⟨m, ⟨digits, by omega⟩, rfl⟩
  · rw [spells_plus_iff, map_digits_eq_ok_iff]
  · next noMinus noPlus =>
      rw [spells_iff (fun ds => noMinus ds) (fun ds => noPlus ds), map_digits_eq_ok_iff]

/-- A number is said by what it is written as. -/
theorem spells_toString (n : Int) : Spells (toString n).toList n := by
  cases n with
  | ofNat m =>
    have written : (toString (Int.ofNat m)).toList = Nat.toDigits 10 m := Nat.toList_repr
    rw [written]
    exact .plain (digits_toDigits m)
  | negSucc m =>
    have written : (toString (Int.negSucc m)).toList = '-' :: Nat.toDigits 10 (m + 1) := by
      show ("-" ++ (m + 1).repr).toList = _
      rw [String.toList_append, Nat.toList_repr]
      rfl
    rw [written]
    exact .minus (digits_toDigits (m + 1))

end FirewallOrder.Whole
