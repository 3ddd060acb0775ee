import Mathlib.Data.List.Forall2

/-!
# Results that may fail

When a computation in several parts that may fail succeeds, and with what, and when it fails.
-/

namespace FirewallOrder

theorem bind_eq_ok_iff {ε α β : Type} {x : Except ε α} {f : α → Except ε β} {b : β} :
    x >>= f = .ok b ↔ ∃ a, x = .ok a ∧ f a = .ok b := by
  cases x with
  | error e =>
    constructor
    · intro h
      cases h
    · rintro ⟨a, h, -⟩
      cases h
  | ok a =>
    constructor
    · intro h
      exact ⟨a, rfl, h⟩
    · rintro ⟨a', h, hf⟩
      cases h
      exact hf

theorem bind_eq_error_iff {ε α β : Type} {x : Except ε α} {f : α → Except ε β} {e : ε} :
    x >>= f = .error e ↔ x = .error e ∨ ∃ a, x = .ok a ∧ f a = .error e := by
  cases x with
  | error e' =>
    constructor
    · intro h
      cases h
      exact .inl rfl
    · rintro (h | ⟨a, h, -⟩)
      · cases h
        rfl
      · cases h
  | ok a =>
    constructor
    · intro h
      exact .inr ⟨a, rfl, h⟩
    · rintro (h | ⟨a', h, hf⟩)
      · cases h
      · cases h
        exact hf

theorem map_eq_ok_iff {ε α β : Type} {x : Except ε α} {f : α → β} {b : β} :
    x.map f = .ok b ↔ ∃ a, x = .ok a ∧ f a = b := by
  cases x with
  | error e => simp [Except.map]
  | ok a => simp [Except.map]

theorem map_eq_error_iff {ε α β : Type} {x : Except ε α} {f : α → β} {e : ε} :
    x.map f = .error e ↔ x = .error e := by
  cases x <;> simp [Except.map]

/-- Every part succeeds, and the results are listed in the order of the parts. -/
theorem mapM_eq_ok_iff {ε α β : Type} {f : α → Except ε β} {xs : List α} {ys : List β} :
    xs.mapM f = .ok ys ↔ List.Forall₂ (fun x y => f x = .ok y) xs ys := by
  induction xs generalizing ys with
  | nil =>
    rw [List.mapM_nil, List.forall₂_nil_left_iff]
    constructor
    · intro h
      exact (Except.ok.inj h).symm
    · rintro rfl
      rfl
  | cons x xs ih =>
    rw [List.mapM_cons, List.forall₂_cons_left_iff]
    constructor
    · intro h
      obtain ⟨y, hy, h⟩ := bind_eq_ok_iff.1 h
      obtain ⟨rest, hrest, h⟩ := bind_eq_ok_iff.1 h
      exact ⟨y, rest, hy, ih.1 hrest, (Except.ok.inj h).symm⟩
    · rintro ⟨y, rest, hy, hrest, rfl⟩
      exact bind_eq_ok_iff.2 ⟨y, hy, bind_eq_ok_iff.2 ⟨rest, ih.2 hrest, rfl⟩⟩

theorem exists_forall₂_iff {α β : Type} {r : α → β → Prop} {xs : List α} :
    (∃ ys, List.Forall₂ r xs ys) ↔ ∀ x ∈ xs, ∃ y, r x y := by
  induction xs with
  | nil => simp
  | cons x xs ih =>
    rw [List.forall_mem_cons, ← ih]
    simp only [List.forall₂_cons_left_iff]
    constructor
    · rintro ⟨_, y, rest, hy, hrest, rfl⟩
      exact ⟨⟨y, hy⟩, rest, hrest⟩
    · rintro ⟨⟨y, hy⟩, rest, hrest⟩
      exact ⟨y :: rest, y, rest, hy, hrest, rfl⟩

/-! ## The first condition that does not hold -/

/-- Of these conditions `c` is the first that does not hold. -/
def FirstUnmet {κ : Type} (holds : κ → Prop) (conditions : List κ) (c : κ) : Prop :=
  ∃ before after, conditions = before ++ c :: after ∧ (∀ b ∈ before, holds b) ∧ ¬ holds c

/-- Each check decides whether its condition holds, and says what is wrong with one that does
not. -/
structure Decides {ε κ : Type} (check : κ → Except ε Unit) (holds : κ → Prop)
    (reports : κ → ε → Prop) : Prop where
  passed : ∀ c, check c = .ok () ↔ holds c
  told : ∀ {c e}, check c = .error e → reports c e
  unique : ∀ {c e e'}, reports c e → reports c e' → e = e'

section Checks

variable {ε κ : Type} {check : κ → Except ε Unit} {holds : κ → Prop} {reports : κ → ε → Prop}
  {b c : κ} {e : ε} {conditions : List κ}

theorem firstUnmet_cons_iff : FirstUnmet holds (b :: conditions) c ↔
    ¬ holds b ∧ c = b ∨ holds b ∧ FirstUnmet holds conditions c := by
  constructor
  · rintro ⟨before, after, split, met, unmet⟩
    cases before with
    | nil =>
      obtain ⟨rfl, rfl⟩ := List.cons.inj split
      exact .inl ⟨unmet, rfl⟩
    | cons first before =>
      obtain ⟨rfl, rfl⟩ := List.cons.inj split
      obtain ⟨first, met⟩ := List.forall_mem_cons.1 met
      exact .inr ⟨first, before, after, rfl, met, unmet⟩
  · rintro (⟨unmet, rfl⟩ | ⟨met, before, after, rfl, rest, unmet⟩)
    · exact ⟨[], conditions, rfl, nofun, unmet⟩
    · exact ⟨b :: before, after, rfl, List.forall_mem_cons.2 ⟨met, rest⟩, unmet⟩

theorem Decides.error_iff (decides : Decides check holds reports) :
    check c = .error e ↔ ¬ holds c ∧ reports c e := by
  rw [← decides.passed]
  cases checked : check c with
  | ok u => simp
  | error e' =>
    have told := decides.told checked
    constructor
    · rintro ⟨⟩
      exact ⟨nofun, told⟩
    · rintro ⟨-, told'⟩
      rw [decides.unique told told']

/-- Checks one after the other are passed if every condition holds. -/
theorem Decides.forM_eq_ok_iff (decides : Decides check holds reports) :
    forM conditions check = .ok () ↔ ∀ c ∈ conditions, holds c := by
  induction conditions with
  | nil => exact iff_of_true rfl nofun
  | cons b conditions ih =>
    rw [List.forM_cons, List.forall_mem_cons, ← decides.passed b, ← ih]
    constructor
    · intro h
      obtain ⟨_, first, rest⟩ := bind_eq_ok_iff.1 h
      exact ⟨first, rest⟩
    · rintro ⟨first, rest⟩
      exact bind_eq_ok_iff.2 ⟨(), first, rest⟩

theorem Decides.forM_eq_ok_iff_forall (decides : Decides check holds reports)
    (complete : ∀ c, c ∈ conditions) : forM conditions check = .ok () ↔ ∀ c, holds c := by
  rw [decides.forM_eq_ok_iff]
  exact forall_congr' fun c => forall_prop_of_true (complete c)

/-- **Checks one after the other report the first condition that does not hold.** -/
theorem Decides.forM_eq_error_iff (decides : Decides check holds reports) :
    forM conditions check = .error e ↔ ∃ c, FirstUnmet holds conditions c ∧ reports c e := by
  induction conditions with
  | nil =>
    constructor
    · intro h
      cases h
    · rintro ⟨c, ⟨before, after, split, -⟩, -⟩
      exact absurd split.symm (List.append_ne_nil_of_right_ne_nil _ (List.cons_ne_nil _ _))
  | cons b conditions ih =>
    rw [List.forM_cons, bind_eq_error_iff, decides.error_iff]
    simp only [firstUnmet_cons_iff]
    constructor
    · rintro (⟨unmet, told⟩ | ⟨_, passed, h⟩)
      · exact ⟨b, .inl ⟨unmet, rfl⟩, told⟩
      · obtain ⟨c, first, told⟩ := ih.1 h
        exact ⟨c, .inr ⟨(decides.passed b).1 passed, first⟩, told⟩
    · rintro ⟨c, ⟨unmet, rfl⟩ | ⟨met, first⟩, told⟩
      · exact .inl ⟨unmet, told⟩
      · exact .inr ⟨(), (decides.passed b).2 met, ih.2 ⟨c, first, told⟩⟩

end Checks

end FirewallOrder
