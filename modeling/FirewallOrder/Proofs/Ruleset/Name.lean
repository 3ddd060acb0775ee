import FirewallOrder.Ruleset

/-!
# Names of rulesets and of sites

A name is not compared with the spellings of the rulesets as it is: it is written in capital letters
first, and the first `V` is made small again. This comes to the same as to ignore blanks around the
name and the case of its letters (`Ruleset.ofName?_eq_some_iff`), because all spellings are of one
pattern.

The name of a site holds no reserved characters and is no dot segment (`Site.IsName`).
-/

namespace FirewallOrder

open Text

/-! ## ASCII case -/

namespace Text

theorem exists_of_small {c : Char} (h : 'a' ≤ c ∧ c ≤ 'z') : ∃ n < 26, c = Char.ofNat (97 + n) := by
  have low : 97 ≤ c.toNat := h.1
  have high : c.toNat ≤ 122 := h.2
  refine ⟨c.toNat - 97, by omega, ?_⟩
  rw [Nat.add_sub_cancel' low, Char.ofNat_toNat]

theorem exists_of_capital {c : Char} (h : 'A' ≤ c ∧ c ≤ 'Z') :
    ∃ n < 26, c = Char.ofNat (65 + n) := by
  have low : 65 ≤ c.toNat := h.1
  have high : c.toNat ≤ 90 := h.2
  refine ⟨c.toNat - 65, by omega, ?_⟩
  rw [Nat.add_sub_cancel' low, Char.ofNat_toNat]

@[simp] theorem lower_upper (c : Char) : lower (upper c) = lower c := by
  by_cases small : 'a' ≤ c ∧ c ≤ 'z'
  · obtain ⟨n, hn, rfl⟩ := exists_of_small small
    revert n
    decide
  · rw [upper, if_neg small]

@[simp] theorem upper_lower (c : Char) : upper (lower c) = upper c := by
  by_cases capital : 'A' ≤ c ∧ c ≤ 'Z'
  · obtain ⟨n, hn, rfl⟩ := exists_of_capital capital
    revert n
    decide
  · rw [lower, if_neg capital]

/-- Two texts are the same in small letters if they are the same in capital ones. -/
theorem map_lower_eq_iff {cs ds : List Char} :
    cs.map lower = ds.map lower ↔ cs.map upper = ds.map upper := by
  constructor
  · intro h
    simpa [Function.comp_def] using congrArg (List.map upper) h
  · intro h
    simpa [Function.comp_def] using congrArg (List.map lower) h

end Text

/-! ## Names of rulesets -/

namespace Ruleset

theorem ofSpelling?_spelling (r : Ruleset) : ofSpelling? r.spelling = some r := by
  obtain ⟨zone, family, direction⟩ := r
  cases zone <;> cases family <;> cases direction <;> decide

theorem spelling_injective {r r' : Ruleset} (h : r.spelling = r'.spelling) : r = r' := by
  have found := ofSpelling?_spelling r
  rw [h, ofSpelling?_spelling r'] at found
  exact (Option.some.inj found).symm

theorem ofSpelling?_eq_some_iff {s : String} {r : Ruleset} :
    ofSpelling? s = some r ↔ s = r.spelling := by
  constructor
  · intro h
    rw [ofSpelling?] at h
    have same := List.find?_some h
    exact (beq_iff_eq.1 same).symm
  · rintro rfl
    exact ofSpelling?_spelling r

/-- The text is a name of the ruleset: its spelling, but for blanks around it and the case of ASCII
letters. -/
def IsCalled (r : Ruleset) (raw : String) : Prop := lowerText (trim raw) = lowerText r.spelling

instance (r : Ruleset) (raw : String) : Decidable (r.IsCalled raw) :=
  inferInstanceAs (Decidable (_ = _))

/-- What does not tell the two characters apart does not see that one was replaced. -/
theorem map_replaceFirst {β : Type} {f : Char → β} {old new : Char} (same : f new = f old)
    (cs : List Char) : (replaceFirst old new cs).map f = cs.map f := by
  induction cs with
  | nil => rfl
  | cons c cs ih =>
    rw [replaceFirst]
    by_cases found : c = old
    · rw [if_pos found, List.map_cons, List.map_cons, same, found]
    · rw [if_neg found, List.map_cons, List.map_cons, ih]

/-- The `V` of the version is the first of a spelling in capital letters, and the only letter that
is small. -/
theorem replaceFirst_spelling (r : Ruleset) :
    replaceFirst 'V' 'v' (r.spelling.toList.map upper) = r.spelling.toList := by
  obtain ⟨zone, family, direction⟩ := r
  cases zone <;> cases family <;> cases direction <;> decide

/-- **Which ruleset a name means.** -/
theorem ofName?_eq_some_iff {raw : String} {r : Ruleset} :
    ofName? raw = some r ↔ r.IsCalled raw := by
  have letters (s : String) : (lowerText s).toList = s.toList.map lower := String.toList_ofList
  have trimmed : (trim raw).toList = trimChars raw.toList := String.toList_ofList
  rw [ofName?, ofSpelling?_eq_some_iff, canonicalName, IsCalled, ← String.toList_inj,
    ← String.toList_inj, String.toList_ofList, letters, letters, trimmed]
  constructor
  · intro h
    have lowered := congrArg (List.map lower) h
    rw [map_replaceFirst (by decide), List.map_map] at lowered
    simpa only [Function.comp_def, lower_upper] using lowered
  · intro h
    rw [map_lower_eq_iff.1 h, replaceFirst_spelling]

theorem isCalled_spelling (r : Ruleset) : r.IsCalled r.spelling := by
  obtain ⟨zone, family, direction⟩ := r
  cases zone <;> cases family <;> cases direction <;> decide

end Ruleset

/-! ## Names of sites -/

namespace Site.IsName

variable {site : String}

theorem not_reserved (named : IsName site) : ∀ c ∈ site.toList, isReserved c = false := by
  simp only [IsName, fault?] at named
  split at named
  · cases named
  split at named
  · cases named
  simpa using named

theorem not_blank (named : IsName site) : ∀ c ∈ site.toList, isBlank c = false := by
  intro c hc
  have := named.not_reserved c hc
  simp only [isReserved, Bool.or_eq_false_iff] at this
  exact this.1.2

theorem no_colon (named : IsName site) : ':' ∉ site.toList := by
  intro h
  cases named.not_reserved ':' h

theorem nonempty (named : IsName site) : site ≠ "" := by
  rintro rfl
  exact absurd named (by decide)

theorem noDot (named : IsName site) : site ≠ "." := by
  rintro rfl
  exact absurd named (by decide)

theorem noDots (named : IsName site) : site ≠ ".." := by
  rintro rfl
  exact absurd named (by decide)

end Site.IsName

end FirewallOrder
