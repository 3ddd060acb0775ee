import FirewallOrder.Text.Blank
import Mathlib.Data.List.DropRight

/-!
# Texts without the blanks around them

A text is *tight* if it neither begins nor ends with a blank. What trimming leaves is the tight text
inside, and there is only one (`trimChars_eq_iff`): it does not matter how many blanks stand around
it, or which.
-/

namespace FirewallOrder.Text

/-- The text neither begins nor ends with a blank. -/
def Tight (cs : List Char) : Prop :=
  (∀ c ∈ cs.head?, isBlank c = false) ∧ ∀ c ∈ cs.getLast?, isBlank c = false

/-- Around `core`, which is tight, stand blanks only. -/
def Surrounds (cs core : List Char) : Prop :=
  ∃ before after, cs = before ++ core ++ after ∧
  (∀ c ∈ before ++ after, isBlank c = true) ∧ Tight core

variable {cs core before after : List Char}

/-! ## The end of a text -/

theorem dropEnd_eq_rdropWhile {α : Type} (p : α → Bool) (xs : List α) :
    dropEnd p xs = xs.rdropWhile p :=
  rfl

theorem dropEnd_append_of_all {α : Type} {p : α → Bool} {xs ys : List α}
    (h : ∀ y ∈ ys, p y = true) : dropEnd p (xs ++ ys) = dropEnd p xs := by
  have behind : ∀ y ∈ ys.reverse, p y = true := fun y hy => h y (List.mem_reverse.1 hy)
  rw [dropEnd, List.reverse_append, List.dropWhile_append_of_pos behind, dropEnd]

/-- The last element that is left does not satisfy the predicate. -/
theorem not_of_getLast?_dropEnd {α : Type} {p : α → Bool} {xs : List α} {x : α}
    (last : x ∈ (dropEnd p xs).getLast?) : p x = false := by
  obtain ⟨nonempty, rfl⟩ := List.mem_getLast?_eq_getLast last
  exact Bool.not_eq_true _ ▸ List.rdropWhile_last_not p xs nonempty

/-! ## Trimming -/

theorem trimChars_append_of_blank (hbefore : ∀ c ∈ before, isBlank c = true)
    (hafter : ∀ c ∈ after, isBlank c = true) :
    trimChars (before ++ cs ++ after) = trimChars cs := by
  rw [trimChars, List.append_assoc, List.dropWhile_append_of_pos hbefore, List.dropWhile_append]
  split
  · -- The text is blank as well, so nothing is left on either side.
    next empty =>
    rw [trimChars, List.isEmpty_iff.1 empty, List.dropWhile_eq_nil_iff.2 hafter]
  · exact dropEnd_append_of_all hafter

theorem trimChars_of_tight (tight : Tight cs) : trimChars cs = cs := by
  have front : cs.dropWhile isBlank = cs := by
    cases cs with
    | nil => rfl
    | cons c cs => exact List.dropWhile_cons_of_neg (by simp [tight.1 c (by simp)])
  rw [trimChars, front, dropEnd_eq_rdropWhile, List.rdropWhile_eq_self_iff]
  exact fun nonempty => by simp [tight.2 _ (List.getLast_mem_getLast? nonempty)]

theorem tight_of_not_blank (h : ∀ c ∈ cs, isBlank c = false) : Tight cs :=
  ⟨fun c hc => h c (List.mem_of_mem_head? hc), fun c hc => h c (List.mem_of_getLast? hc)⟩

theorem tight_singleton {c : Char} (h : isBlank c = false) : Tight [c] :=
  tight_of_not_blank (List.forall_mem_singleton.2 h)

/-- **What trimming leaves** is the tight text inside. -/
theorem trimChars_eq_iff : trimChars cs = core ↔ Surrounds cs core := by
  constructor
  · intro h
    subst h
    have split : cs.dropWhile isBlank = trimChars cs ++ (cs.dropWhile isBlank).rtakeWhile isBlank :=
      List.rdropWhile_append_rtakeWhile.symm
    refine ⟨cs.takeWhile isBlank, (cs.dropWhile isBlank).rtakeWhile isBlank, ?_, ?_, ?_, fun c =>
      not_of_getLast?_dropEnd⟩
    · rw [List.append_assoc, ← split, List.takeWhile_append_dropWhile]
    · intro c hc
      rcases List.mem_append.1 hc with hbefore | hbehind
      · exact List.mem_takeWhile_imp hbefore
      · exact List.mem_rtakeWhile_imp hbehind
    · intro c hc
      -- The first character that is left was the first behind the blanks.
      have first := List.head?_dropWhile_not isBlank cs
      have begins : (cs.dropWhile isBlank).head? = some c := by
        rw [split, List.head?_append]
        rw [Option.mem_def.1 hc]
        rfl
      rw [begins] at first
      simpa using first
  · rintro ⟨before, after, rfl, blank, tight⟩
    obtain ⟨hbefore, hafter⟩ := List.forall_mem_append.1 blank
    rw [trimChars_append_of_blank hbefore hafter, trimChars_of_tight tight]

theorem surrounds_trimChars (cs : List Char) : Surrounds cs (trimChars cs) := trimChars_eq_iff.1 rfl

theorem tight_trimChars (cs : List Char) : Tight (trimChars cs) := by
  obtain ⟨-, -, -, -, tight⟩ := surrounds_trimChars cs
  exact tight

/-- Only the blanks count for what is tight. -/
theorem tight_congr {cs ds : List Char} (h : cs.map isBlank = ds.map isBlank) :
    Tight cs ↔ Tight ds := by
  have heads := congrArg List.head? h
  have lasts := congrArg List.getLast? h
  rw [List.head?_map, List.head?_map] at heads
  rw [List.getLast?_map, List.getLast?_map] at lasts
  have at_end (o : Option Char) : (∀ c ∈ o, isBlank c = false) ↔
      ∀ b ∈ o.map isBlank, b = false := by cases o <;> simp
  rw [Tight, Tight, at_end, at_end cs.getLast?, heads, lasts, ← at_end, ← at_end]

/-! ## Texts -/

theorem toList_trim (s : String) : (trim s).toList = trimChars s.toList := String.toList_ofList

theorem trim_eq_iff {s t : String} : trim s = t ↔ Surrounds s.toList t.toList := by
  rw [← String.toList_inj, toList_trim, trimChars_eq_iff]

theorem isBlankText_iff {s : String} : isBlankText s = true ↔ trim s = "" := by
  rw [isBlankText, List.all_eq_true, trim_eq_iff]
  constructor
  · intro blank
    exact ⟨s.toList, [], by simp, by simpa using blank, by simp [Tight]⟩
  · rintro ⟨before, after, split, blank, -⟩ c hc
    rw [split] at hc
    exact blank c (by simpa using hc)

end FirewallOrder.Text
