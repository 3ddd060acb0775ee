import Mathlib.Data.List.Sort
import Mathlib.Data.List.Nodup
import Mathlib.Data.List.Induction
import FirewallOrder.Ordering.Reconcile

/-!
# What a snapshot holds

A snapshot of a ruleset holds the ruleset's rules whose index lies in a band, each reduced to its
identity and its index (`Ruleset.places`), and nothing else: `places_perm`. Each band ascends, so a
list that strictly ascends and holds the same rules is the band itself (`layOut_eq`). Rules of one
index stand as they are listed (`filter_layOut`).

`get?_eq` says which rule a look-up finds. When no identity occurs twice it is the only one of that
identity (`indexOf?_eq_some_iff`).
-/

namespace FirewallOrder

open scoped List

/-- A search finds the only element that it can find. -/
theorem find?_eq_some_of_unique {α : Type} {p : α → Bool} {xs : List α} {a : α} (mem : a ∈ xs)
    (holds : p a = true) (one : ∀ b ∈ xs, p b = true → b = a) : xs.find? p = some a := by
  have hsome : (xs.find? p).isSome := by
    rw [List.find?_isSome]
    exact ⟨a, mem, holds⟩
  obtain ⟨b, hb⟩ := Option.isSome_iff_exists.1 hsome
  rw [hb, one b (List.mem_of_find?_eq_some hb) (List.find?_some hb)]

/-! ## Bands -/

namespace Band

@[simp] theorem holds_before_iff {n : Int} : before.Holds n ↔ 2000 ≤ n ∧ n < 3000 := by
  simp [Holds, base, width]

@[simp] theorem holds_after_iff {n : Int} : after.Holds n ↔ 4000 ≤ n ∧ n < 5000 := by
  simp [Holds, base, width]

/-- The index lies in one of the two bands. -/
def Covers (n : Int) : Prop := (2000 ≤ n ∧ n < 3000) ∨ (4000 ≤ n ∧ n < 5000)

instance (n : Int) : Decidable (Covers n) := inferInstanceAs (Decidable (_ ∨ _))

theorem covers_iff {n : Int} : Covers n ↔ ∃ b : Band, b.Holds n := by
  constructor
  · rintro (h | h)
    · exact ⟨before, holds_before_iff.2 h⟩
    · exact ⟨after, holds_after_iff.2 h⟩
  · rintro ⟨b, h⟩
    cases b with
    | before => exact .inl (holds_before_iff.1 h)
    | after => exact .inr (holds_after_iff.1 h)

/-- No index lies in both bands. -/
theorem eq_of_holds {b b' : Band} {n : Int} (h : b.Holds n) (h' : b'.Holds n) : b = b' := by
  cases b with
  | before =>
    cases b' with
    | before => rfl
    | after =>
      rw [holds_before_iff] at h
      rw [holds_after_iff] at h'
      omega
  | after =>
    cases b' with
    | before =>
      rw [holds_after_iff] at h
      rw [holds_before_iff] at h'
      omega
    | after => rfl

/-- The rules in a band are among those in the bands. -/
theorem filter_holds_covered (b : Band) (rules : List Rule) :
    (rules.filter fun r => Covers r.index).filter (fun r => b.Holds r.index) =
      rules.filter fun r => b.Holds r.index := by
  rw [List.filter_filter]
  refine List.filter_congr fun r _ => ?_
  by_cases h : b.Holds r.index
  · have hcovers : Covers r.index := covers_iff.2 ⟨b, h⟩
    simp only [h, hcovers, decide_true, Bool.and_self]
  · simp only [h, decide_false, Bool.false_and]

end Band

/-! ## The rules of a ruleset -/

namespace Ruleset

/-- The rules of a site that belong to a ruleset. -/
def own (ruleset : Ruleset) (rules : List Rule) : List Rule :=
  rules.filter fun rule => rule.ruleset == ruleset.spelling

/-- Those of them that can be put in order. -/
def managed (ruleset : Ruleset) (rules : List Rule) : List Rule :=
  (ruleset.own rules).filter fun rule => Band.Covers rule.index

/-- Where the rules that can be put in order sit. -/
def places (ruleset : Ruleset) (rules : List Rule) : List PlacedRule :=
  (ruleset.managed rules).map Rule.placed

theorem mem_own {ruleset : Ruleset} {rules : List Rule} {rule : Rule} :
    rule ∈ ruleset.own rules ↔ rule ∈ rules ∧ rule.ruleset = ruleset.spelling := by
  simp [own]

theorem mem_managed {ruleset : Ruleset} {rules : List Rule} {rule : Rule} :
    rule ∈ ruleset.managed rules ↔
      rule ∈ rules ∧ rule.ruleset = ruleset.spelling ∧ Band.Covers rule.index := by
  simp [managed, mem_own, and_assoc]

theorem map_id_places (ruleset : Ruleset) (rules : List Rule) :
    (ruleset.places rules).map (·.id) = (ruleset.managed rules).map (·.id) := by
  rw [places, List.map_map]
  rfl

/-- The rules in a band are among those that can be put in order. -/
theorem filter_holds_managed (b : Band) (ruleset : Ruleset) (rules : List Rule) :
    (ruleset.managed rules).filter (fun r => b.Holds r.index) =
      (ruleset.own rules).filter fun r => b.Holds r.index :=
  Band.filter_holds_covered b (ruleset.own rules)

theorem managed_sublist_own (ruleset : Ruleset) (rules : List Rule) :
    (ruleset.managed rules).Sublist (ruleset.own rules) :=
  List.filter_sublist

end Ruleset

/-! ## Sorting -/

namespace Snapshot

theorem le_trans_index (a b c : PlacedRule) : decide (a.index ≤ b.index) = true →
    decide (b.index ≤ c.index) = true → decide (a.index ≤ c.index) = true := by
  simpa using Int.le_trans

theorem le_total_index (a b : PlacedRule) :
    (decide (a.index ≤ b.index) || decide (b.index ≤ a.index)) = true := by
  simpa using Int.le_total a.index b.index

theorem layOut_perm (b : Band) (rules : List Rule) :
    (layOut b rules).Perm ((rules.filter fun r => b.Holds r.index).map Rule.placed) :=
  List.mergeSort_perm _ _

theorem layOut_ascends (b : Band) (rules : List Rule) :
    (layOut b rules).Pairwise fun x y => x.index ≤ y.index := by
  rw [layOut]
  simpa using List.pairwise_mergeSort le_trans_index le_total_index _

/-- Sorting keeps the order of the rules of one index. -/
theorem filter_mergeSort (rules : List PlacedRule) (n : Int) :
    ((rules.mergeSort fun r s => r.index ≤ s.index).filter fun p => p.index = n) =
      rules.filter fun p => p.index = n := by
  have equal : (rules.filter fun p => p.index = n).Pairwise
      fun r s => decide (r.index ≤ s.index) = true := by
    refine List.pairwise_of_forall_mem_list fun r hr s hs => ?_
    have left : r.index = n := by simpa using (List.mem_filter.1 hr).2
    have right : s.index = n := by simpa using (List.mem_filter.1 hs).2
    simp [left, right]
  have inside := List.sublist_mergeSort le_trans_index le_total_index equal List.filter_sublist
  -- It is a sublist of those of this index among the sorted ones, and there are as many of them.
  have part := inside.filter fun p => p.index = n
  rw [List.filter_filter] at part
  simp only [Bool.and_self] at part
  exact (part.eq_of_length ((List.mergeSort_perm rules _).filter _).length_eq.symm).symm

/-- In a band the rules of one index stand as they are listed. -/
theorem filter_layOut {b : Band} {n : Int} (holds : b.Holds n) (rules : List Rule) :
    (layOut b rules).filter (fun p => p.index = n) =
      (rules.filter fun r => r.index = n).map Rule.placed := by
  rw [layOut, filter_mergeSort, List.filter_map, List.filter_filter]
  refine congrArg (List.map Rule.placed) (List.filter_congr fun r _ => ?_)
  by_cases hr : r.index = n
  · subst hr
    simp [Rule.placed, holds]
  · simp [Rule.placed, hr]

/-- A band is the only list of its rules that strictly ascends, if there is one. -/
theorem layOut_eq {b : Band} {rules : List Rule} {sorted : List PlacedRule}
    (ascends : sorted.Pairwise fun x y => x.index < y.index)
    (perm : sorted.Perm ((rules.filter fun r => b.Holds r.index).map Rule.placed)) :
    layOut b rules = sorted := by
  have same : (layOut b rules).Perm sorted := (layOut_perm b rules).trans perm.symm
  have distinct : (sorted.map (·.index)).Nodup := by
    rw [List.Nodup, List.pairwise_map]
    exact ascends.imp fun h => Int.ne_of_lt h
  refine same.eq_of_pairwise ?_ (layOut_ascends b rules) (ascends.imp Int.le_of_lt)
  intro x y hx hy hxy hyx
  exact List.inj_on_of_nodup_map distinct (same.subset hx) hy (Int.le_antisymm hxy hyx)

/-! ## The snapshot of a site -/

/-- The snapshot that the rules of a site give of a ruleset. -/
def ofSite (ruleset : Ruleset) (rules : List Rule) : Snapshot := ofRules (ruleset.own rules)

theorem band_ofRules (b : Band) (rules : List Rule) : (ofRules rules).band b = layOut b rules := by
  cases b with
  | before => rfl
  | after => rfl

/-- The rules of both bands in the order of evaluation. -/
def all (s : Snapshot) : List PlacedRule := s.before ++ s.after

theorem ids_eq_map_all (s : Snapshot) : s.ids true true = s.all.map (·.id) := rfl

/-- Both bands together hold the rules in the bands. -/
theorem all_perm (rules : List Rule) :
    (ofRules rules).all.Perm ((rules.filter fun r => Band.Covers r.index).map Rule.placed) := by
  have after :
      (rules.filter fun r => Band.Covers r.index).filter (fun r => Band.after.Holds r.index) =
      (rules.filter fun r => Band.Covers r.index).filter
        fun r => !decide (Band.before.Holds r.index) := by
    refine List.filter_congr fun r hr => ?_
    obtain ⟨b, hb⟩ := Band.covers_iff.1 (of_decide_eq_true (List.mem_filter.1 hr).2)
    cases b with
    | before =>
      have hafter : ¬ Band.after.Holds r.index := by
        intro h
        cases Band.eq_of_holds hb h
      simp only [hb, hafter, decide_true, decide_false, Bool.not_true]
    | after =>
      have hbefore : ¬ Band.before.Holds r.index := by
        intro h
        cases Band.eq_of_holds hb h
      simp only [hb, hbefore, decide_true, decide_false, Bool.not_false]
  calc (ofRules rules).all
      = layOut .before rules ++ layOut .after rules := rfl
    _ ~ ((rules.filter fun r => Band.Covers r.index).filter
            fun r => Band.before.Holds r.index).map Rule.placed ++
          ((rules.filter fun r => Band.Covers r.index).filter
            fun r => !decide (Band.before.Holds r.index)).map Rule.placed := by
        rw [← after, Band.filter_holds_covered, Band.filter_holds_covered]
        exact (layOut_perm _ _).append (layOut_perm _ _)
    _ ~ (rules.filter fun r => Band.Covers r.index).map Rule.placed := by
        rw [← List.map_append]
        exact (List.filter_append_perm _ _).map _

/-- Both bands together hold the rules that can be put in order. -/
theorem places_perm (ruleset : Ruleset) (rules : List Rule) :
    (ofSite ruleset rules).all.Perm (ruleset.places rules) :=
  all_perm (ruleset.own rules)

/-- The identities of a snapshot are those of the rules in the bands. -/
theorem all_ids_perm (rules : List Rule) :
    ((ofRules rules).ids true true).Perm
      ((rules.filter fun r => Band.Covers r.index).map (·.id)) := by
  have perm := (all_perm rules).map (·.id)
  rw [List.map_map] at perm
  exact perm

/-- The identities of a snapshot are those of the rules that can be put in order. -/
theorem ids_perm (ruleset : Ruleset) (rules : List Rule) :
    ((ofSite ruleset rules).ids true true).Perm ((ruleset.managed rules).map (·.id)) :=
  all_ids_perm (ruleset.own rules)

/-! ## Looking rules up -/

/-- The last entry of an identity in a band is where the last rule of that identity sits, and there
is none if no rule has it. -/
theorem findRev?_mapIdx (b : Band) (rules : List PlacedRule) (id : String) :
    ((rules.mapIdx fun i r => (r.id, b, i)).findRev? (·.1 == id) = none ∧
        rules.findRev? (·.id == id) = none) ∨
      ∃ i r, (rules.mapIdx fun i r => (r.id, b, i)).findRev? (·.1 == id) = some (r.id, b, i) ∧
        rules[i]? = some r ∧ rules.findRev? (·.id == id) = some r := by
  induction rules using List.reverseRecOn with
  | nil => exact .inl ⟨rfl, rfl⟩
  | append_singleton rules r ih =>
    simp only [List.findRev?_eq_find?_reverse, List.mapIdx_concat, List.reverse_append,
      List.reverse_singleton, List.singleton_append, List.find?_cons] at ih ⊢
    cases hr : r.id == id with
    | true => exact .inr ⟨rules.length, r, rfl, List.getElem?_concat_length, rfl⟩
    | false =>
      rcases ih with hnone | ⟨i, r', hplace, hget, hrule⟩
      · exact .inl hnone
      · have hi : i < rules.length := (List.getElem?_eq_some_iff.1 hget).1
        refine .inr ⟨i, r', hplace, ?_, hrule⟩
        rw [List.getElem?_append_left hi, hget]

theorem findRev?_append {α : Type} (p : α → Bool) (xs ys : List α) :
    (xs ++ ys).findRev? p = (ys.findRev? p).or (xs.findRev? p) := by
  simp only [List.findRev?_eq_find?_reverse, List.reverse_append, List.find?_append]

/-- The place of an identity is where the last rule of that identity sits, and there is none if no
rule has it. -/
theorem locate?_cases (s : Snapshot) (id : String) :
    (s.locate? id = none ∧ s.all.findRev? (·.id == id) = none) ∨
      ∃ b i r, s.locate? id = some (b, i) ∧ (s.band b)[i]? = some r ∧
      s.all.findRev? (·.id == id) = some r := by
  rw [locate?, places, all, findRev?_append, findRev?_append]
  rcases findRev?_mapIdx .after s.after id with ⟨ha, ha'⟩ | ⟨i, r, ha, hget, ha'⟩
  · rw [ha, ha', Option.none_or, Option.none_or]
    rcases findRev?_mapIdx .before s.before id with ⟨hb, hb'⟩ | ⟨i, r, hb, hget, hb'⟩
    · exact .inl ⟨by rw [hb, Option.map_none], hb'⟩
    · exact .inr ⟨.before, i, r, by rw [hb, Option.map_some], hget, hb'⟩
  · rw [ha, ha', Option.some_or, Option.some_or]
    exact .inr ⟨.after, i, r, rfl, hget, rfl⟩

/-- A look-up finds the last rule of the identity in the order of evaluation. -/
theorem get?_eq (s : Snapshot) (id : String) : s.get? id = s.all.findRev? (·.id == id) := by
  rw [get?]
  rcases locate?_cases s id with ⟨nowhere, none⟩ | ⟨b, i, r, place, hget, found⟩
  · rw [nowhere, none]
    rfl
  · rw [place, found]
    exact hget

/-- When no identity occurs twice, a look-up finds the index of just the rules that there are. -/
theorem indexOf?_eq_some_iff {s : Snapshot} (distinct : (s.ids true true).Nodup)
    {id : String} {n : Int} : s.indexOf? id = some n ↔ ⟨id, n⟩ ∈ s.all := by
  rw [indexOf?, get?_eq, List.findRev?_eq_find?_reverse, Option.map_eq_some_iff]
  constructor
  · rintro ⟨r, hr, rfl⟩
    have hid : r.id = id := by simpa using List.find?_some hr
    rw [← hid]
    exact List.mem_reverse.1 (List.mem_of_find?_eq_some hr)
  · intro h
    refine ⟨⟨id, n⟩, ?_, rfl⟩
    refine find?_eq_some_of_unique (List.mem_reverse.2 h) (beq_self_eq_true id) fun r hr hid => ?_
    exact List.inj_on_of_nodup_map distinct (List.mem_reverse.1 hr) h (beq_iff_eq.1 hid)

end Snapshot

end FirewallOrder
