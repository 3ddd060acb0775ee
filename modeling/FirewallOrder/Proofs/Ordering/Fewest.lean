import Mathlib.Data.List.Perm.Subperm
import FirewallOrder.Proofs.Ordering.Layout

/-!
# The fewest changes

A plan takes the rules of a snapshot to the slots of an order, and no other choice of new indices
does so with fewer. Which rules have to move is fixed by where they sit: a rule that is not in its
slot has to be given the index of this slot, and only the rules in their slots can be left alone
(`RuleOrder.Reached.assigns`). A plan moves just the former (`Snapshot.plan_fewest`).

New indices are a function here that knows the index of some identities. It need not be a plan, nor
keep to the bands, nor to the rules of the snapshot.
-/

namespace FirewallOrder

open scoped List

/-- The new index of an identity, if a list of changes has one. -/
def IndexUpdate.newIndex? (updates : List IndexUpdate) (id : String) : Option Int :=
  (updates.find? fun u => u.id == id).map (·.index)

/-- The index of an identity when some identities have got new ones. -/
def Snapshot.indexAfter? (s : Snapshot) (new? : String → Option Int) (id : String) : Option Int :=
  (new? id).or (s.indexOf? id)

namespace RuleOrder

/-- Every identity of the order has the index of its slot. -/
structure Reached (o : RuleOrder) (index? : String → Option Int) : Prop where
  before : ∀ (i : Nat) id, o.before[i]? = some id → index? id = some (2000 + (i : Int))
  after : ∀ (j : Nat) id, o.after[j]? = some id → index? id = some (4000 + (j : Int))

variable {o : RuleOrder} {s : Snapshot}

theorem reached_iff {index? : String → Option Int} :
    o.Reached index? ↔ ∀ u ∈ o.layout, index? u.id = some u.index := by
  constructor
  · rintro ⟨before, after⟩ u hu
    rcases List.mem_append.1 hu with hu | hu
    · obtain ⟨i, hi, hindex⟩ := mem_slots.1 hu
      rw [before i u.id hi, hindex]
    · obtain ⟨j, hj, hindex⟩ := mem_slots.1 hu
      rw [after j u.id hj, hindex]
  · intro h
    refine ⟨fun i id hi => ?_, fun j id hj => ?_⟩
    · exact h ⟨id, 2000 + i⟩ (List.mem_append_left _ (mem_slots.2 ⟨i, hi, rfl⟩))
    · exact h ⟨id, 4000 + j⟩ (List.mem_append_right _ (mem_slots.2 ⟨j, hj, rfl⟩))

/-- **A rule that is not in its slot has to be given the index of the slot.** -/
theorem Reached.assigns {new? : String → Option Int} (reached : o.Reached (s.indexAfter? new?))
    (distinct : (s.ids true true).Nodup) {u : IndexUpdate} (hu : u ∈ o.pending s.all) :
    new? u.id = some u.index := by
  rw [← Snapshot.filter_indexOf?_eq_pending distinct, List.mem_filter] at hu
  obtain ⟨hlayout, elsewhere⟩ := hu
  have hafter := reached_iff.1 reached u hlayout
  rw [Snapshot.indexAfter?] at hafter
  cases hnew : new? u.id with
  | none =>
    rw [hnew, Option.none_or] at hafter
    exact absurd hafter (of_decide_eq_true elsewhere)
  | some n =>
    rw [hnew, Option.some_or] at hafter
    exact hafter

/-- It is enough to fill the slots that are pending. -/
theorem reached_pending (fits : o.Fits (s.ids true true)) :
    o.Reached (s.indexAfter? (IndexUpdate.newIndex? (o.pending s.all))) := by
  rw [reached_iff]
  intro u hu
  rw [Snapshot.indexAfter?, IndexUpdate.newIndex?]
  by_cases waits : u ∈ o.pending s.all
  · have found : ((o.pending s.all).find? fun v => v.id == u.id) = some u := by
      refine find?_eq_some_of_unique waits (beq_self_eq_true u.id) fun v hv same => ?_
      exact eq_of_mem_layout fits.nodup_ids (pending_subset o _ hv) hu (beq_iff_eq.1 same)
    rw [found, Option.map_some, Option.some_or]
  · have none : ((o.pending s.all).find? fun v => v.id == u.id) = none := by
      rw [List.find?_eq_none]
      intro v hv same
      rw [eq_of_mem_layout fits.nodup_ids (pending_subset o _ hv) hu (beq_iff_eq.1 same)] at hv
      exact waits hv
    rw [none, Option.map_none, Option.none_or]
    by_contra elsewhere
    rw [← Snapshot.filter_indexOf?_eq_pending fits.distinct] at waits
    exact waits (List.mem_filter.2 ⟨hu, decide_eq_true elsewhere⟩)

/-! ## How many slots are pending -/

theorem mem_map_placed {us : List IndexUpdate} {r : PlacedRule} :
    r ∈ us.map IndexUpdate.placed ↔ (⟨r.id, r.index⟩ : IndexUpdate) ∈ us := by
  constructor
  · intro h
    obtain ⟨u, hu, rfl⟩ := List.mem_map.1 h
    exact hu
  · intro h
    exact List.mem_map.2 ⟨_, h, rfl⟩

/-- There are as many slots to be filled as rules that are not in their slots. -/
theorem length_pending (fits : o.Fits (s.ids true true)) :
    (o.pending s.all).length =
      s.all.countP fun r => (⟨r.id, r.index⟩ : IndexUpdate) ∉ o.layout := by
  have rules : s.all.Nodup := .of_map PlacedRule.id fits.distinct
  have placed : (o.layout.map IndexUpdate.placed).Nodup := by
    refine .of_map (·.id) ?_
    rw [map_id_placed, map_id_layout]
    exact fits.nodup_ids
  -- The slots that are filled are the rules that sit in their slots, and there are as many slots as
  -- rules.
  have filled : (o.layout.map IndexUpdate.placed).countP (· ∈ s.all) =
      s.all.countP (· ∈ o.layout.map IndexUpdate.placed) := by
    rw [List.countP_eq_length_filter, List.countP_eq_length_filter]
    refine ((List.perm_ext_iff_of_nodup (placed.filter _) (rules.filter _)).2 fun r => ?_).length_eq
    rw [List.mem_filter, List.mem_filter, decide_eq_true_iff, decide_eq_true_iff]
    exact and_comm
  have same : (o.layout.map IndexUpdate.placed).length = s.all.length := by
    have perm := fits.perm.length_eq
    rwa [Snapshot.ids_eq_map_all, List.length_map, ← map_id_layout, List.length_map, eq_comm,
      ← List.length_map IndexUpdate.placed] at perm
  have slots := List.length_eq_countP_add_countP (l := o.layout.map IndexUpdate.placed) (· ∈ s.all)
  have all := List.length_eq_countP_add_countP (l := s.all) (· ∈ o.layout.map IndexUpdate.placed)
  have waiting : (o.pending s.all).length =
      (o.layout.map IndexUpdate.placed).countP fun r => r ∉ s.all := by
    rw [List.countP_map, pending, ← List.countP_eq_length_filter]
    rfl
  simp only [decide_eq_true_iff, mem_map_placed] at slots all filled waiting ⊢
  omega

/-- A slot of an order lies in the band of the list that its identity is from. -/
theorem holds_of_mem_layout {ids : List String} (fits : o.Fits ids) {u : IndexUpdate}
    (hu : u ∈ o.layout) :
    (u.id ∈ o.before ∧ Band.before.Holds u.index) ∨
    (u.id ∈ o.after ∧ Band.after.Holds u.index) := by
  rcases List.mem_append.1 hu with hu | hu
  · obtain ⟨i, hi, -⟩ := mem_slots.1 hu
    exact .inl ⟨List.mem_of_getElem? hi, holds_of_mem_slots fits.before_le hu⟩
  · obtain ⟨j, hj, -⟩ := mem_slots.1 hu
    exact .inr ⟨List.mem_of_getElem? hj, holds_of_mem_slots fits.after_le hu⟩

end RuleOrder

/-! ## Plans -/

/-- **A plan holds the changes that are needed and no others.** With the slot of every identity of
the order: its place in its list, counted from the first index of the list's band,

* the changes are the slots of the identities that have another index now, in the order of the
  lists;
* no identity and no index occurs in two of them, and each index lies in the band of the list;
* the changes bring every identity to its slot, and whatever new indices do so hold all of them, so
  that nothing less would do;
* there are as many changes as rules that are not in their slots, and no more than rules. -/
theorem Snapshot.plan_fewest {s : Snapshot} {id : RulesetId} {o : RuleOrder}
    {updates : List IndexUpdate} (planned : s.plan id o = .ok updates) :
    let slots : List IndexUpdate :=
      o.before.mapIdx (fun i x => ⟨x, 2000 + i⟩) ++ o.after.mapIdx (fun j x => ⟨x, 4000 + j⟩)
    updates = slots.filter (fun u => s.indexOf? u.id ≠ some u.index) ∧
    (updates.map (·.id)).Nodup ∧ (updates.map (·.index)).Nodup ∧
    (∀ u ∈ updates,
      (u.id ∈ o.before ∧ Band.before.Holds u.index) ∨ (u.id ∈ o.after ∧ Band.after.Holds u.index)) ∧
    o.Reached (s.indexAfter? (IndexUpdate.newIndex? updates)) ∧
    (∀ new? : String → Option Int, o.Reached (s.indexAfter? new?) →
      (∀ u ∈ updates, new? u.id = some u.index) ∧
      ∀ ids : List String, (∀ x, (new? x).isSome → x ∈ ids) → updates.length ≤ ids.length) ∧
    updates.length =
      (s.before ++ s.after).countP (fun r => (⟨r.id, r.index⟩ : IndexUpdate) ∉ slots) ∧
    updates.length ≤ s.size := by
  obtain ⟨fits, rfl⟩ := plan_eq_ok_iff.1 planned
  intro slots
  have layout : o.layout = slots := congrArg₂ _ (slots_eq_mapIdx _ _) (slots_eq_mapIdx _ _)
  have sub : (o.pending s.all).Sublist o.layout := List.filter_sublist
  have ids : ((o.pending s.all).map (·.id)).Nodup := by
    refine (sub.map _).nodup ?_
    rw [RuleOrder.map_id_layout]
    exact fits.nodup_ids
  have indices : ((o.pending s.all).map (·.index)).Nodup := by
    rw [List.Nodup, List.pairwise_map]
    exact ((RuleOrder.layout_ascends fits).sublist sub).imp fun h => Int.ne_of_lt h
  have count : (o.pending s.all).length =
      s.all.countP fun r => (⟨r.id, r.index⟩ : IndexUpdate) ∉ slots := by
    rw [RuleOrder.length_pending fits, layout]
  refine ⟨?_, ids, indices, ?_, RuleOrder.reached_pending fits, ?_, count, ?_⟩
  · rw [← layout, filter_indexOf?_eq_pending fits.distinct]
  · exact fun u hu => RuleOrder.holds_of_mem_layout fits (sub.subset hu)
  · intro new? reached
    have assigns : ∀ u ∈ o.pending s.all, new? u.id = some u.index :=
      fun u hu => reached.assigns fits.distinct hu
    refine ⟨assigns, fun named covers => ?_⟩
    have subset : (o.pending s.all).map (·.id) ⊆ named := by
      intro x hx
      obtain ⟨u, hu, rfl⟩ := List.mem_map.1 hx
      exact covers u.id (by rw [assigns u hu, Option.isSome_some])
    have le := (List.subperm_of_subset ids subset).length_le
    rwa [List.length_map] at le
  · rw [count]
    refine List.countP_le_length.trans_eq ?_
    rw [all, List.length_append, size]

/-- Two rules share an index, and one of the bands is left for the other by two rules; only `a` may
stay. -/
theorem Snapshot.plan_fewest_scattered :
    let s : Snapshot := ⟨[⟨"a", 2000⟩, ⟨"b", 2005⟩, ⟨"c", 2005⟩], [⟨"d", 4000⟩]⟩
    let o : RuleOrder := ⟨["a", "d"], ["c", "b"]⟩
    let updates : List IndexUpdate := [⟨"d", 2001⟩, ⟨"c", 4000⟩, ⟨"b", 4001⟩]
    s.plan ⟨"default", ⟨.lan, .v4, .inbound⟩⟩ o = .ok updates ∧
      ∀ new? : String → Option Int, o.Reached (s.indexAfter? new?) →
        ∀ u ∈ updates, new? u.id = some u.index := by
  intro s o updates
  have planned : s.plan ⟨"default", ⟨.lan, .v4, .inbound⟩⟩ o = .ok updates := rfl
  exact ⟨planned, fun new? reached => ((plan_fewest planned).2.2.2.2.2.1 new? reached).1⟩

end FirewallOrder
