import FirewallOrder.Proofs.Ordering.Snapshot
import FirewallOrder.Proofs.Ordering.Drift
import FirewallOrder.Proofs.Result

/-!
# What a plan sends

An order gives every identity its slot: the indices of a band from its first one on
(`RuleOrder.layout`). There is a plan exactly when the order lists the rules of the snapshot, each
once, and no band overflows (`RuleOrder.Fits`); the plan is then the list of the slots where no rule
sits yet (`RuleOrder.pending`): `Snapshot.plan_eq_ok_iff`. For the rules of a site, all of this can
be read off the rules that can be put in order: `Snapshot.plan_ofSite_eq_ok_iff`.
-/

namespace FirewallOrder

open scoped List

/-! ## Slots -/

/-- Identities with the indices from some index on. -/
def slots : Int → List String → List IndexUpdate
  | _, [] => []
  | index, id :: ids => ⟨id, index⟩ :: slots (index + 1) ids

theorem map_id_slots (index : Int) (ids : List String) : (slots index ids).map (·.id) = ids := by
  induction ids generalizing index with
  | nil => rfl
  | cons id ids ih => rw [slots, List.map_cons, ih]

theorem slots_eq_mapIdx (base : Int) (ids : List String) :
    slots base ids = ids.mapIdx fun i id => ⟨id, base + i⟩ := by
  induction ids generalizing base with
  | nil => rfl
  | cons id ids ih =>
    rw [slots, List.mapIdx_cons, ih]
    refine congrArg₂ List.cons (by simp) ?_
    refine congrArg (List.mapIdx · ids) (funext fun i => funext fun x => ?_)
    rw [Int.natCast_add, Int.natCast_one, Int.add_assoc, Int.add_comm 1]

theorem mem_slots {index : Int} {ids : List String} {u : IndexUpdate} :
    u ∈ slots index ids ↔ ∃ i : Nat, ids[i]? = some u.id ∧ u.index = index + i := by
  induction ids generalizing index with
  | nil => simp [slots]
  | cons id ids ih =>
    rw [slots, List.mem_cons, ih]
    constructor
    · rintro (rfl | ⟨i, hi, hu⟩)
      · exact ⟨0, rfl, by simp⟩
      · exact ⟨i + 1, hi, by omega⟩
    · rintro ⟨i, hi, hu⟩
      cases i with
      | zero =>
        obtain ⟨x, n⟩ := u
        simp only [List.getElem?_cons_zero, Option.some.injEq] at hi
        have hn : n = index := by simpa using hu
        exact .inl (by rw [hi, hn])
      | succ i => exact .inr ⟨i, hi, by omega⟩

theorem index_of_mem_slots {index : Int} {ids : List String} {u : IndexUpdate}
    (h : u ∈ slots index ids) : index ≤ u.index ∧ u.index < index + ids.length := by
  obtain ⟨i, hi, hu⟩ := mem_slots.1 h
  have hlt : i < ids.length := (List.getElem?_eq_some_iff.1 hi).1
  omega

/-- Slots from the beginning of a band on lie in the band, as long as they do not overflow it. -/
theorem holds_of_mem_slots {b : Band} {ids : List String} (hle : ids.length ≤ 1000)
    {u : IndexUpdate} (h : u ∈ slots b.base ids) : b.Holds u.index := by
  have hindex := index_of_mem_slots h
  have hwidth : (Band.width : Int) = 1000 := rfl
  exact ⟨hindex.1, by omega⟩

theorem slots_ascend (index : Int) (ids : List String) :
    (slots index ids).Pairwise fun u v => u.index < v.index := by
  induction ids generalizing index with
  | nil => exact .nil
  | cons id ids ih =>
    rw [slots, List.pairwise_cons]
    refine ⟨fun u hu => ?_, ih (index + 1)⟩
    have hle : index + 1 ≤ u.index := (index_of_mem_slots hu).1
    exact Int.lt_of_add_one_le hle

/-- The rule as it sits after the update. -/
def IndexUpdate.placed (u : IndexUpdate) : PlacedRule := ⟨u.id, u.index⟩

namespace RuleOrder

/-- Every identity of the order with the index that it is to have. -/
def layout (o : RuleOrder) : List IndexUpdate := slots 2000 o.before ++ slots 4000 o.after

/-- The order lists these identities, each once, and no part of it overflows its band. -/
structure Fits (o : RuleOrder) (ids : List String) : Prop where
  distinct : ids.Nodup
  perm : ids ~ o.ids
  before_le : o.before.length ≤ 1000
  after_le : o.after.length ≤ 1000

/-- The slots where the rule that belongs there does not sit yet. -/
def pending (o : RuleOrder) (places : List PlacedRule) : List IndexUpdate :=
  o.layout.filter fun u => u.placed ∉ places

variable {o : RuleOrder}

theorem map_id_layout (o : RuleOrder) : o.layout.map (·.id) = o.ids := by
  rw [layout, List.map_append, map_id_slots, map_id_slots, ids]

theorem pending_subset (o : RuleOrder) (places : List PlacedRule) : o.pending places ⊆ o.layout :=
  List.filter_sublist.subset

theorem Fits.nodup_ids {ids : List String} (fits : o.Fits ids) : o.ids.Nodup :=
  fits.perm.nodup_iff.1 fits.distinct

theorem Fits.of_perm {ids ids' : List String} (fits : o.Fits ids) (same : ids ~ ids') :
    o.Fits ids' :=
  ⟨same.nodup_iff.1 fits.distinct, same.symm.trans fits.perm, fits.before_le, fits.after_le⟩

/-- An identity has one slot. -/
theorem eq_of_mem_layout (distinct : o.ids.Nodup) {u v : IndexUpdate} (hu : u ∈ o.layout)
    (hv : v ∈ o.layout) (same : u.id = v.id) : u = v := by
  rw [← map_id_layout] at distinct
  exact List.inj_on_of_nodup_map distinct hu hv same

/-- No slot lies outside the bands. -/
theorem covers_of_mem_layout {ids : List String} (fits : o.Fits ids) {u : IndexUpdate}
    (h : u ∈ o.layout) : Band.Covers u.index := by
  rcases List.mem_append.1 h with h | h
  · exact Band.covers_iff.2 ⟨.before, holds_of_mem_slots fits.before_le h⟩
  · exact Band.covers_iff.2 ⟨.after, holds_of_mem_slots fits.after_le h⟩

theorem pending_congr {places places' : List PlacedRule} (same : places ~ places') :
    o.pending places = o.pending places' := by
  refine List.filter_congr fun u _ => ?_
  rw [decide_eq_decide, same.mem_iff]

end RuleOrder

/-! ## Which plans there are -/

namespace Snapshot

variable {s : Snapshot} {o : RuleOrder}

/-- Nothing is changed but the indices of rules that do not have their index yet. -/
theorem moveFrom_eq {ruleset : Ruleset} {index : Int} {ids : List String}
    (found : ∀ id ∈ ids, ∃ n, s.indexOf? id = some n) :
    s.moveFrom ruleset index ids =
      .ok ((slots index ids).filter fun u => s.indexOf? u.id ≠ some u.index) := by
  induction ids generalizing index with
  | nil => rfl
  | cons id ids ih =>
    obtain ⟨n, hn⟩ := found id List.mem_cons_self
    have hrest := @ih (index + 1) fun x hx => found x (List.mem_cons_of_mem _ hx)
    rw [moveFrom, move, hn, hrest, slots, List.filter_cons, hn]
    by_cases h : n = index
    · simp [h, bind, Except.bind, pure, Except.pure]
    · simp [h, bind, Except.bind, pure, Except.pure]

theorem updatesIn_eq_ok_iff {ruleset : Ruleset} {b : Band} {ids : List String}
    {updates : List IndexUpdate} (found : ∀ id ∈ ids, ∃ n, s.indexOf? id = some n) :
    s.updatesIn ruleset b ids = .ok updates ↔
      ids.length ≤ 1000 ∧
        updates = (slots b.base ids).filter fun u => s.indexOf? u.id ≠ some u.index := by
  rw [updatesIn, moveFrom_eq found]
  by_cases h : Band.width < ids.length
  · rw [if_pos h]
    have hlt : 1000 < ids.length := h
    constructor
    · intro hupdates
      cases hupdates
    · rintro ⟨hle, -⟩
      omega
  · rw [if_neg h]
    have hle : ids.length ≤ 1000 := Nat.not_lt.1 h
    constructor
    · intro hupdates
      cases hupdates
      exact ⟨hle, rfl⟩
    · rintro ⟨-, rfl⟩
      rfl

theorem updates_eq_ok_iff {ruleset : Ruleset} {updates : List IndexUpdate}
    (found : ∀ id ∈ o.ids, ∃ n, s.indexOf? id = some n) :
    s.updates ruleset o = .ok updates ↔
      o.before.length ≤ 1000 ∧ o.after.length ≤ 1000 ∧
        updates = o.layout.filter fun u => s.indexOf? u.id ≠ some u.index := by
  have before (us : List IndexUpdate) := @updatesIn_eq_ok_iff s ruleset .before o.before us
    fun id h => found id (List.mem_append_left _ h)
  have after (us : List IndexUpdate) := @updatesIn_eq_ok_iff s ruleset .after o.after us
    fun id h => found id (List.mem_append_right _ h)
  rw [RuleOrder.layout, List.filter_append]
  constructor
  · intro h
    obtain ⟨first, hfirst, h⟩ := bind_eq_ok_iff.1 h
    obtain ⟨second, hsecond, h⟩ := bind_eq_ok_iff.1 h
    obtain ⟨hbefore, rfl⟩ := (before first).1 hfirst
    obtain ⟨hafter, rfl⟩ := (after second).1 hsecond
    cases h
    exact ⟨hbefore, hafter, rfl⟩
  · rintro ⟨hbefore, hafter, rfl⟩
    rw [updates, (before _).2 ⟨hbefore, rfl⟩, (after _).2 ⟨hafter, rfl⟩]
    rfl

/-- A look-up finds every identity of an order that lists the rules of the snapshot. -/
theorem exists_indexOf?_of_perm (distinct : (s.ids true true).Nodup)
    (perm : s.ids true true ~ o.ids) : ∀ x ∈ o.ids, ∃ n, s.indexOf? x = some n := by
  intro x hx
  rw [← perm.mem_iff, ids_eq_map_all] at hx
  obtain ⟨r, hr, rfl⟩ := List.mem_map.1 hx
  exact ⟨r.index, (indexOf?_eq_some_iff distinct).2 hr⟩

/-- A slot is pending if a look-up of its identity finds another index. -/
theorem filter_indexOf?_eq_pending (distinct : (s.ids true true).Nodup) :
    (o.layout.filter fun u => s.indexOf? u.id ≠ some u.index) = o.pending s.all := by
  refine List.filter_congr fun u _ => ?_
  rw [decide_eq_decide, Ne, indexOf?_eq_some_iff distinct]
  rfl

/-- There is a plan exactly if the order fits the rules, and it then fills the slots that are
pending. -/
theorem plan_eq_ok_iff {id : RulesetId} {updates : List IndexUpdate} :
    s.plan id o = .ok updates ↔ o.Fits (s.ids true true) ∧ updates = o.pending s.all := by
  rw [plan, drift]
  by_cases h : (Drift.compare (s.ids true true) o.ids).isEmpty = true
  · obtain ⟨distinct, -, perm⟩ := Drift.isEmpty_compare_iff.1 h
    rw [if_pos h, updates_eq_ok_iff (exists_indexOf?_of_perm distinct perm),
      filter_indexOf?_eq_pending distinct]
    constructor
    · rintro ⟨hbefore, hafter, hupdates⟩
      exact ⟨⟨distinct, perm, hbefore, hafter⟩, hupdates⟩
    · rintro ⟨fits, hupdates⟩
      exact ⟨fits.before_le, fits.after_le, hupdates⟩
  · rw [if_neg h]
    constructor
    · intro hplan
      cases hplan
    · rintro ⟨fits, -⟩
      exact absurd (Drift.isEmpty_compare_iff.2 ⟨fits.distinct, fits.nodup_ids, fits.perm⟩) h

/-- The plan for the rules of a site, read off where the rules of the ruleset sit. -/
theorem plan_ofSite_eq_ok_iff {id : RulesetId} {rules : List Rule} {updates : List IndexUpdate} :
    (ofSite id.ruleset rules).plan id o = .ok updates ↔
      o.Fits ((id.ruleset.managed rules).map (·.id)) ∧
        updates = o.pending (id.ruleset.places rules) := by
  have same := ids_perm id.ruleset rules
  rw [plan_eq_ok_iff, RuleOrder.pending_congr (places_perm id.ruleset rules)]
  exact and_congr_left fun _ => ⟨fun fits => fits.of_perm same, fun fits => fits.of_perm same.symm⟩

end Snapshot

end FirewallOrder
