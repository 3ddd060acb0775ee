import FirewallOrder.Proofs.Ruleset.Name
import FirewallOrder.Proofs.Text.Trim

/-!
# Canonical names of rulesets

A name in its canonical form has no blanks around it, capital letters, and a small `v` where the
first of them was a `V`. This form stays as it is when it is taken again, however many letters `v`
there are (`Ruleset.canonicalName_canonicalName`). The rulesets of which no text names two are told
by it (`Ruleset.names_resolve`).
-/

namespace FirewallOrder

open Text

/-! ## Capital letters -/

namespace Text

@[simp] theorem upper_upper (c : Char) : upper (upper c) = upper c := by
  rw [← upper_lower (upper c), lower_upper, upper_lower]

theorem isBlank_upper (c : Char) : isBlank (upper c) = isBlank c := by
  by_cases small : 'a' ≤ c ∧ c ≤ 'z'
  · obtain ⟨n, hn, rfl⟩ := exists_of_small small
    revert n
    decide
  · rw [upper, if_neg small]

end Text

namespace Ruleset

/-! ## The canonical form -/

theorem toList_canonicalName (raw : String) :
    (canonicalName raw).toList = replaceFirst 'V' 'v' ((trimChars raw.toList).map upper) :=
      String.toList_ofList

/-- Nothing is left to trim. -/
theorem trimChars_canonicalName (raw : String) :
    trimChars (canonicalName raw).toList = (canonicalName raw).toList := by
  apply trimChars_of_tight
  have blanks : (canonicalName raw).toList.map isBlank = (trimChars raw.toList).map isBlank := by
    rw [toList_canonicalName, map_replaceFirst (by decide), List.map_map]
    exact List.map_congr_left fun c _ => isBlank_upper c
  exact (tight_congr blanks).2 (tight_trimChars raw.toList)

/-- In capital letters the canonical form is the text that the first `V` was replaced in. -/
theorem map_upper_canonicalName (raw : String) :
    (canonicalName raw).toList.map upper = (trimChars raw.toList).map upper := by
  rw [toList_canonicalName, map_replaceFirst (by decide), List.map_map]
  exact List.map_congr_left fun c _ => upper_upper c

/-- **The canonical form of a name stays as it is.** -/
theorem canonicalName_canonicalName (raw : String) :
    canonicalName (canonicalName raw) = canonicalName raw := by
  rw [← String.toList_inj, toList_canonicalName (canonicalName raw), trimChars_canonicalName,
    map_upper_canonicalName, ← toList_canonicalName]

/-! ## What a name means -/

theorem isCalled_iff {r : Ruleset} {raw : String} :
    r.IsCalled raw ↔ ∃ name, Surrounds raw.toList name.toList ∧
    lowerText name = lowerText r.spelling := by
  simp only [← trim_eq_iff, exists_eq_left', IsCalled]

theorem ofName_eq_ok_iff {raw : String} {r : Ruleset} : ofName raw = .ok r ↔ r.IsCalled raw := by
  rw [← ofName?_eq_some_iff, ofName]
  cases ofName? raw <;> simp

theorem ofName_eq_error_iff {raw : String} {fault : Unknown} :
    ofName raw = .error fault ↔ fault.raw = raw ∧ ∀ r : Ruleset, ¬ r.IsCalled raw := by
  simp only [← ofName?_eq_some_iff, ofName]
  cases ofName? raw with
  | none =>
    obtain ⟨given⟩ := fault
    simp [eq_comm]
  | some r => simp

/-- **Which ruleset a text names.** For every text:

* it names the ruleset whose spelling it is, but for the blanks around it and the case of ASCII
  letters;
* no other ruleset;
* if there is none, the text is handed back as it was given, and only then;
* its canonical form is the canonical form of itself. -/
theorem names_resolve (raw : String) :
    (∀ r : Ruleset, ofName raw = .ok r ↔
      ∃ name, Surrounds raw.toList name.toList ∧ lowerText name = lowerText r.spelling) ∧
    (∀ r r' : Ruleset, r.IsCalled raw → r'.IsCalled raw → r = r') ∧
    (∀ fault, ofName raw = .error fault ↔ fault.raw = raw ∧ ∀ r : Ruleset, ¬ r.IsCalled raw) ∧
    canonicalName (canonicalName raw) = canonicalName raw := by
  refine ⟨fun r => ofName_eq_ok_iff.trans isCalled_iff, ?_, fun fault => ofName_eq_error_iff,
    canonicalName_canonicalName raw⟩
  intro r r' called called'
  have found := ofName?_eq_some_iff.2 called
  rw [ofName?_eq_some_iff.2 called'] at found
  exact (Option.some.inj found).symm

theorem names_resolve_wide :
    let wan : Ruleset := ⟨.wan, .v6, .inbound⟩
    let wide := "\u3000wanV6_iN "
    let other := "lanv6_vÄn"
    wan.IsCalled wide ∧ ofName wide = .ok wan ∧ (∀ r : Ruleset, r.IsCalled wide → r = wan) ∧
      (∀ r : Ruleset, ¬ r.IsCalled other) ∧ ofName other = .error ⟨other⟩ ∧
      canonicalName other = "LANv6_VÄN" ∧ canonicalName (canonicalName other) =
        canonicalName other := by
  intro wan wide other
  obtain ⟨names, unique, -, -⟩ := names_resolve wide
  obtain ⟨-, -, unnamed, again⟩ := names_resolve other
  have called : wan.IsCalled wide := by decide
  have uncalled : ∀ r : Ruleset, ¬ r.IsCalled other := by
    rintro ⟨zone, family, direction⟩
    cases zone <;> cases family <;> cases direction <;> decide
  exact ⟨called, (names wan).2 (isCalled_iff.1 called),
    fun r called' => unique r wan called' called, uncalled,
    (unnamed _).2 ⟨rfl, uncalled⟩, by decide, again⟩

end Ruleset

end FirewallOrder
