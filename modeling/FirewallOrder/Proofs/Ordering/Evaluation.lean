import Mathlib
import FirewallOrder.Proofs.Ordering.Snapshot

/-!
# The order of evaluation

A snapshot keeps what the order of evaluation is made of: of the rules listed, those with an index
in a band, by ascending index, and by their order in the list where the index is the same
(`bands_of_rules`). An identity can occur more than once there. A look-up finds the last rule that
has it (`get?_eq_some_iff`), whichever way the places are kept: a table that is filled with them one
by one holds the same place (`getElem?_table`).
-/

namespace FirewallOrder

open scoped List

/-- An index falls into the band that holds it. -/
theorem Band.ofIndex?_eq_some_iff {n : Int} {b : Band} : Band.ofIndex? n = some b ↔ b.Holds n := by
  constructor
  · intro found
    have holds := List.find?_some found
    exact of_decide_eq_true holds
  · intro holds
    have mem : b ∈ [before, after] := by
      cases b with
      | before => exact List.mem_cons_self
      | after => exact List.mem_cons_of_mem _ List.mem_cons_self
    exact find?_eq_some_of_unique mem (decide_eq_true holds) fun b' _ holds' =>
      eq_of_holds (of_decide_eq_true holds') holds

namespace Snapshot

variable {s : Snapshot} {id : String}

/-! ## What is in the bands -/

theorem holds_of_mem_band {rules : List Rule} {b : Band} {p : PlacedRule}
    (mem : p ∈ (ofRules rules).band b) : b.Holds p.index := by
  rw [band_ofRules, (layOut_perm b rules).mem_iff] at mem
  obtain ⟨r, hr, rfl⟩ := List.mem_map.1 mem
  exact of_decide_eq_true (List.mem_filter.1 hr).2

theorem ids_append (s : Snapshot) : s.ids true true = s.ids true false ++ s.ids false true := by
  simp [ids]

theorem length_ids (s : Snapshot) : (s.ids true true).length = s.size := by
  simp [ids, size]

/-- **What a snapshot holds.** For every list of rules,

* an index falls into a band exactly if it is one of the thousand from the first index of the band
  on;
* each band ascends by index, and holds the rules listed whose index falls into it, each as often as
  it is listed, and reduced to its identity and its index; those of one index stand there in the
  order of the list;
* a rule whose index falls into no band is in none;
* the identities are those of the rules before and then those of the rules after, as many as the
  size says. -/
theorem bands_of_rules (rules : List Rule) :
    let s := ofRules rules
    (∀ (b : Band) n, Band.ofIndex? n = some b ↔ b.base ≤ n ∧ n < b.base + 1000) ∧
    (∀ b : Band,
      (s.band b).Pairwise (fun x y => x.index ≤ y.index) ∧
      s.band b ~ (rules.filter fun r => Band.ofIndex? r.index = some b).map Rule.placed ∧
      ∀ n, Band.ofIndex? n = some b →
        (s.band b).filter (fun p => p.index = n) =
          (rules.filter fun r => r.index = n).map Rule.placed) ∧
    (∀ r : Rule, Band.ofIndex? r.index = none → ∀ b, r.placed ∉ s.band b) ∧
    s.ids true true = s.ids true false ++ s.ids false true ∧
    s.size = (s.ids true true).length := by
  intro s
  refine ⟨fun b n => Band.ofIndex?_eq_some_iff, fun b => ?_, fun r outside b mem => ?_,
    ids_append s, (length_ids s).symm⟩
  · simp only [s, Band.ofIndex?_eq_some_iff, band_ofRules]
    exact ⟨layOut_ascends b rules, layOut_perm b rules, fun n holds => filter_layOut holds rules⟩
  · have inside := Band.ofIndex?_eq_some_iff.2 (holds_of_mem_band mem)
    cases outside.symm.trans inside

/-- A rule with nothing but an identity and an index. -/
def bare (id : String) (index : Int) : Rule :=
  ⟨id, none, none, "", index, none, false, none, false, .empty⟩

/-- Rules at the ends of the bands and beyond, with a tie of three, and an identity that is in both
bands. -/
def around : List Rule :=
  [bare "b" 2010, bare "x" 1999, bare "a" 4000, bare "c" 2010, bare "y" 3000, bare "b" 2010,
    bare "d" 2000, bare "e" 2999, bare "b" 4999, bare "z" 5000, bare "v" 2147483647,
    bare "w" (-2147483648)]

theorem bands_of_rules_around :
    let s := ofRules around
    let tied : List PlacedRule := [⟨"b", 2010⟩, ⟨"c", 2010⟩, ⟨"b", 2010⟩]
    s.before = ⟨"d", 2000⟩ :: tied ++ [⟨"e", 2999⟩] ∧ s.after = [⟨"a", 4000⟩, ⟨"b", 4999⟩] ∧
      Band.ofIndex? 2010 = some .before ∧ s.before.filter (fun p => p.index = 2010) = tied ∧
      Band.ofIndex? 3000 = none ∧ ⟨"y", 3000⟩ ∉ s.before := by
  intro s tied
  obtain ⟨-, bands, absent, -⟩ := bands_of_rules around
  have inside : Band.ofIndex? 2010 = some .before := by decide
  have outside : Band.ofIndex? 3000 = none := by decide
  exact ⟨by cbv, by cbv, inside, (bands .before).2.2 2010 inside, outside,
    absent (bare "y" 3000) outside .before⟩

/-! ## Looking rules up -/

/-- The rule is the last of these that has the identity. -/
def IsLast (id : String) (rules : List PlacedRule) (r : PlacedRule) : Prop :=
  r.id = id ∧ ∃ front back, rules = front ++ r :: back ∧ ∀ x ∈ back, x.id ≠ id

theorem findRev?_eq_some_iff {rules : List PlacedRule} {r : PlacedRule} :
    rules.findRev? (·.id == id) = some r ↔ IsLast id rules r := by
  rw [List.findRev?_eq_find?_reverse, List.find?_eq_some_iff_append, IsLast, beq_iff_eq]
  refine and_congr_right fun _ => ?_
  constructor
  · rintro ⟨back, front, split, none⟩
    refine ⟨front.reverse, back.reverse, ?_, fun x hx => ?_⟩
    · rw [← List.reverse_reverse rules, split]
      simp
    · simpa using none x (List.mem_reverse.1 hx)
  · rintro ⟨front, back, rfl, none⟩
    refine ⟨back.reverse, front.reverse, by simp, fun x hx => ?_⟩
    simpa using none x (List.mem_reverse.1 hx)

theorem get?_eq_some_iff {r : PlacedRule} : s.get? id = some r ↔ IsLast id s.all r := by
  rw [get?_eq, findRev?_eq_some_iff]

theorem isSome_get?_iff : (s.get? id).isSome ↔ id ∈ s.ids true true := by
  rw [get?_eq, List.findRev?_eq_find?_reverse, List.find?_isSome, ids_eq_map_all, List.mem_map]
  simp

theorem indexOf?_eq_some_iff_last {n : Int} : s.indexOf? id = some n ↔ IsLast id s.all ⟨id, n⟩ := by
  rw [indexOf?, Option.map_eq_some_iff]
  constructor
  · rintro ⟨r, found, rfl⟩
    have last := get?_eq_some_iff.1 found
    have same : (⟨id, r.index⟩ : PlacedRule) = r := by rw [← last.1]
    rw [same]
    exact last
  · intro last
    exact ⟨_, get?_eq_some_iff.2 last, rfl⟩

/-- The place of an identity is inside its band, and the rule that is found sits there. -/
theorem get?_of_locate? {b : Band} {i : Nat} (place : s.locate? id = some (b, i)) :
    ∃ inside : i < (s.band b).length, s.get? id = some (s.band b)[i] := by
  rcases locate?_cases s id with ⟨nowhere, -⟩ | ⟨b', i', r, place', sits, found⟩
  · cases nowhere.symm.trans place
  · cases place'.symm.trans place
    obtain ⟨inside, rfl⟩ := List.getElem?_eq_some_iff.1 sits
    exact ⟨inside, by rw [get?_eq, found]⟩

theorem getElem?_table (s : Snapshot) (id : String) :
    (Std.HashMap.ofList s.places)[id]? = s.locate? id := by
  rw [Std.HashMap.ofList_eq_insertMany_empty, Std.HashMap.getElem?_insertMany_list,
    Std.HashMap.getElem?_empty, Option.or_none, locate?, List.findRev?_eq_find?_reverse,
    List.findSomeRev?_eq_findSome?_reverse]
  induction s.places.reverse with
  | nil => rfl
  | cons p places ih =>
    rw [List.findSome?_cons, List.find?_cons, ih]
    cases h : p.1 == id with
    | true => simp [h]
    | false => simp [h]

/-- **What a look-up finds.** For every list of rules and every identity,

* a rule is found if and only if the identity is one of those of the snapshot;
* it is the last in the order of evaluation that has the identity, and the index of the identity is
  its index;
* the place of the identity is inside its band, and the rule found sits there;
* a table that is filled with all places in the order of evaluation, a later one over an earlier one
  of the same identity, holds this place. -/
theorem lookups_of_rules (rules : List Rule) (id : String) :
    let s := ofRules rules
    ((s.get? id).isSome ↔ id ∈ s.ids true true) ∧
    (∀ r, s.get? id = some r ↔ IsLast id (s.before ++ s.after) r) ∧
    (∀ n, s.indexOf? id = some n ↔ IsLast id (s.before ++ s.after) ⟨id, n⟩) ∧
    (∀ b i, s.locate? id = some (b, i) →
      ∃ inside : i < (s.band b).length, s.get? id = some (s.band b)[i]) ∧
    (Std.HashMap.ofList s.places)[id]? = s.locate? id := by
  intro s
  exact ⟨isSome_get?_iff, fun _ => get?_eq_some_iff, fun _ => indexOf?_eq_some_iff_last,
    fun _ _ => get?_of_locate?, getElem?_table s id⟩

theorem lookups_of_rules_around :
    let s := ofRules around
    s.get? "b" = some ⟨"b", 4999⟩ ∧ s.indexOf? "b" = some 4999 ∧
      s.locate? "c" = some (.before, 2) ∧ s.get? "c" = some ⟨"c", 2010⟩ := by
  intro s
  obtain ⟨-, found, index, -, -⟩ := lookups_of_rules around "b"
  obtain ⟨-, -, -, sits, -⟩ := lookups_of_rules around "c"
  have last : IsLast "b" (s.before ++ s.after) ⟨"b", 4999⟩ :=
    ⟨rfl, s.before ++ [⟨"a", 4000⟩], [], by cbv, by simp⟩
  have place : s.locate? "c" = some (.before, 2) := by cbv
  obtain ⟨inside, atPlace⟩ := sits .before 2 place
  have third : (s.band .before)[2]? = some ⟨"c", 2010⟩ := by cbv
  rw [← List.getElem?_eq_getElem inside, third] at atPlace
  exact ⟨(found _).2 last, (index _).2 last, place, atPlace⟩

end Snapshot

end FirewallOrder
