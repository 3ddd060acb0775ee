import FirewallOrder.Proofs.Ruleset.Name
import Mathlib.Data.List.TakeDrop
import Mathlib.Data.List.TakeWhile

/-!
# Identifiers of rulesets

An identifier is cut at its first colon. The name of a site holds no colon, so that an identifier is
read back from what is written for it if, and only if, its site has the name of a site
(`RulesetId.ofText_display_iff`).
-/

namespace FirewallOrder

open Text

namespace RulesetId

/-- The text is this site, a colon, and this name. -/
def Joins (raw site name : String) : Prop := raw = site ++ ":" ++ name

theorem joins_iff {raw site name : String} :
    Joins raw site name ↔ raw.toList = site.toList ++ ':' :: name.toList := by
  rw [Joins, ← String.toList_inj, String.toList_append, String.toList_append, List.append_assoc]
  rfl

/-- A text is cut at its first colon. -/
theorem span_eq_of_joins {raw site name : String} (joins : Joins raw site name)
    (whole : ':' ∉ site.toList) :
    raw.toList.span (· != ':') = (site.toList, ':' :: name.toList) := by
  have before : ∀ c ∈ site.toList, (c != ':') = true := by
    rintro c hc
    exact bne_iff_ne.2 fun colon => whole (colon ▸ hc)
  rw [List.span_eq_takeWhile_dropWhile, joins_iff.1 joins, List.takeWhile_append_of_pos before,
    List.dropWhile_append_of_pos before]
  simp

theorem joins_of_span {raw : String} {before after : List Char} {c : Char}
    (cut : raw.toList.span (· != ':') = (before, c :: after)) :
    Joins raw (String.ofList before) (String.ofList after) ∧ ':' ∉ before := by
  rw [List.span_eq_takeWhile_dropWhile, Prod.mk.injEq] at cut
  obtain ⟨rfl, behind⟩ := cut
  have colon : c = ':' := by
    have first := List.head?_dropWhile_not (· != ':') raw.toList
    rw [behind] at first
    simpa using first
  subst colon
  refine ⟨?_, fun h => ?_⟩
  · rw [joins_iff, String.toList_ofList, String.toList_ofList, ← behind,
      List.takeWhile_append_dropWhile]
  · simpa using List.mem_takeWhile_imp h

/-- **What is an identifier.** -/
theorem ofText_eq_ok_iff {raw : String} {id : RulesetId} :
    ofText raw = .ok id ↔ ∃ name, Joins raw id.site name ∧ ':' ∉ id.site.toList ∧
    Site.IsName id.site ∧
      id.ruleset.IsCalled name := by
  obtain ⟨site, ruleset⟩ := id
  constructor
  · intro h
    rcases cut : raw.toList.span (· != ':') with ⟨before, _ | ⟨c, after⟩⟩
    · rw [ofText, cut] at h
      cases h
    · obtain ⟨joins, whole⟩ := joins_of_span cut
      simp only [ofText, cut] at h
      cases fault : Site.fault? (String.ofList before) with
      | some _ =>
        simp only [fault] at h
        cases h
      | none =>
        cases called : Ruleset.ofName? (String.ofList after) with
        | none =>
          simp only [fault, called] at h
          cases h
        | some _ =>
          simp only [fault, called] at h
          cases h
          refine ⟨String.ofList after, joins, ?_, fault, Ruleset.ofName?_eq_some_iff.1 called⟩
          rwa [String.toList_ofList]
  · rintro ⟨name, joins, whole, named, called⟩
    have fault : Site.fault? site = none := named
    simp only [ofText, span_eq_of_joins joins whole, String.ofList_toList, fault,
      Ruleset.ofName?_eq_some_iff.2 called]

/-- **Which identifiers are read back** from what is written for them. -/
theorem ofText_display_iff (id : RulesetId) : ofText id.display = .ok id ↔ Site.IsName id.site := by
  rw [ofText_eq_ok_iff]
  constructor
  · rintro ⟨name, -, -, named, -⟩
    exact named
  · intro named
    exact ⟨id.ruleset.spelling, rfl, named.no_colon, named, id.ruleset.isCalled_spelling⟩

theorem isName_of_ofText {raw : String} {id : RulesetId} (h : ofText raw = .ok id) :
    Site.IsName id.site := by
  obtain ⟨name, -, -, named, -⟩ := ofText_eq_ok_iff.1 h
  exact named

end RulesetId

end FirewallOrder
