import FirewallOrder.Proofs.Ordering.Plan

/-!
# Rules in their slots

`RuleOrder.arranged` is the snapshot in which every rule of an order sits in its slot. A site has
this snapshot exactly when nothing is pending (`ofSite_eq_arranged`), and filling slots takes just
these slots off what is pending (`pending_moved`). So whatever part of a plan takes effect, the rest
of it is the plan for what was reached.
-/

namespace FirewallOrder

open scoped List

namespace RuleOrder

variable {o : RuleOrder}

/-- The snapshot in which every rule sits in its slot. -/
def arranged (o : RuleOrder) : Snapshot :=
  ⟨(slots 2000 o.before).map IndexUpdate.placed, (slots 4000 o.after).map IndexUpdate.placed⟩

theorem map_id_placed (us : List IndexUpdate) :
    (us.map IndexUpdate.placed).map (·.id) = us.map (·.id) := by
  rw [List.map_map]
  rfl

/-- The order of the rules in their slots is the order. -/
theorem order_arranged (o : RuleOrder) : o.arranged.order = o := by
  have before : o.arranged.ids true false = o.before := by
    simp only [arranged, Snapshot.ids, if_true, Bool.false_eq_true, if_false, List.append_nil,
      map_id_placed, map_id_slots]
  have after : o.arranged.ids false true = o.after := by
    simp only [arranged, Snapshot.ids, if_true, Bool.false_eq_true, if_false, List.nil_append,
      map_id_placed, map_id_slots]
  rw [Snapshot.order, before, after]

theorem placed_injective {u v : IndexUpdate} (h : u.placed = v.placed) : u = v := by
  obtain ⟨x, m⟩ := u
  obtain ⟨y, n⟩ := v
  cases h
  rfl

theorem pending_eq_nil_iff {places : List PlacedRule} :
    o.pending places = [] ↔ ∀ u ∈ o.layout, u.placed ∈ places := by
  rw [pending, List.filter_eq_nil_iff]
  exact forall₂_congr fun u _ => by simp

/-- If nothing is pending, the rules sit in their slots and nowhere else. -/
theorem perm_of_pending_eq_nil {places : List PlacedRule} (fits : o.Fits (places.map (·.id)))
    (none : o.pending places = []) : o.layout.map IndexUpdate.placed ~ places := by
  have distinct : (o.layout.map IndexUpdate.placed).Nodup := by
    apply List.Nodup.of_map (·.id)
    rw [map_id_placed, map_id_layout]
    exact fits.nodup_ids
  have sub : o.layout.map IndexUpdate.placed ⊆ places := by
    intro p hp
    obtain ⟨u, hu, rfl⟩ := List.mem_map.1 hp
    exact pending_eq_nil_iff.1 none u hu
  refine (List.subperm_of_subset distinct sub).perm_of_length_le ?_
  have same := fits.perm.length_eq
  rw [← map_id_layout, List.length_map, List.length_map] at same
  rw [List.length_map, same]

/-! ## Filling slots -/

/-- A place after some updates. -/
def moved (updates : List IndexUpdate) (p : PlacedRule) : PlacedRule :=
  match updates.find? fun u => u.id == p.id with
  | some u => u.placed
  | none => p

theorem moved_of_mem {updates : List IndexUpdate} {p : PlacedRule} {u : IndexUpdate}
    (distinct : o.ids.Nodup) (sub : updates ⊆ o.layout) (hu : u ∈ updates) (same : u.id = p.id) :
    moved updates p = u.placed := by
  have hfind : (updates.find? fun u => u.id == p.id) = some u := by
    refine find?_eq_some_of_unique hu (beq_iff_eq.2 same) fun v hv hid => ?_
    exact eq_of_mem_layout distinct (sub hv) (sub hu) ((beq_iff_eq.1 hid).trans same.symm)
  rw [moved, hfind]

theorem moved_of_not_mem {updates : List IndexUpdate} {p : PlacedRule}
    (h : ∀ u ∈ updates, u.id ≠ p.id) : moved updates p = p := by
  have hnone : (updates.find? fun u => u.id == p.id) = none := by
    rw [List.find?_eq_none]
    intro u hu
    simpa using h u hu
  rw [moved, hnone]

/-- A slot is filled afterwards if it was filled by an update, or before. -/
theorem placed_mem_map_moved {places : List PlacedRule} {updates : List IndexUpdate}
    (fits : o.Fits (places.map (·.id))) (sub : updates ⊆ o.layout) {u : IndexUpdate}
    (hu : u ∈ o.layout) :
    u.placed ∈ places.map (moved updates) ↔ u ∈ updates ∨ u.placed ∈ places := by
  have distinct := fits.nodup_ids
  constructor
  · intro h
    obtain ⟨p, hp, hmoved⟩ := List.mem_map.1 h
    by_cases hany : ∃ v ∈ updates, v.id = p.id
    · obtain ⟨v, hv, same⟩ := hany
      rw [moved_of_mem distinct sub hv same] at hmoved
      rw [← placed_injective hmoved]
      exact .inl hv
    · have hnone : ∀ v ∈ updates, v.id ≠ p.id := fun v hv same => hany ⟨v, hv, same⟩
      rw [moved_of_not_mem hnone] at hmoved
      rw [← hmoved]
      exact .inr hp
  · intro h
    by_cases hmem : u ∈ updates
    · have hid : u.id ∈ places.map (·.id) := by
        rw [fits.perm.mem_iff, ← map_id_layout]
        exact List.mem_map_of_mem hu
      obtain ⟨p, hp, same⟩ := List.mem_map.1 hid
      exact List.mem_map.2 ⟨p, hp, moved_of_mem distinct sub hmem same.symm⟩
    · have hplace : u.placed ∈ places := h.resolve_left hmem
      refine List.mem_map.2 ⟨u.placed, hplace, moved_of_not_mem fun v hv same => hmem ?_⟩
      rwa [← eq_of_mem_layout distinct (sub hv) hu same]

/-- **Filling slots takes these slots off what is pending**, and leaves the others in their
order. -/
theorem pending_moved {places : List PlacedRule} {updates : List IndexUpdate}
    (fits : o.Fits (places.map (·.id))) (sub : updates ⊆ o.layout) :
    o.pending (places.map (moved updates)) = (o.pending places).filter fun u => u ∉ updates := by
  rw [pending, pending, List.filter_filter]
  refine List.filter_congr fun u hu => ?_
  rw [← Bool.decide_and, decide_eq_decide, placed_mem_map_moved fits sub hu, not_or]

/-! ## The snapshot that is reached -/

/-- The slots ascend, from one band to the other too. -/
theorem layout_ascends {ids : List String} (fits : o.Fits ids) :
    o.layout.Pairwise fun u v => u.index < v.index := by
  have hbefore := fits.before_le
  rw [layout, List.pairwise_append]
  refine ⟨slots_ascend _ _, slots_ascend _ _, fun u hu v hv => ?_⟩
  have hlt := (index_of_mem_slots hu).2
  have hle := (index_of_mem_slots hv).1
  omega

/-- The part of an order that belongs to a band. -/
def part (o : RuleOrder) : Band → List String
  | .before => o.before
  | .after => o.after

/-- The slots from the beginning of a band on are all in this band. -/
theorem filter_holds_slots (b b' : Band) {ids : List String} (hle : ids.length ≤ 1000) :
    (slots b'.base ids).filter (fun u => b.Holds u.index) =
      if b' = b then slots b'.base ids else [] := by
  by_cases same : b' = b
  · rw [if_pos same, List.filter_eq_self]
    intro u hu
    rw [← same]
    exact decide_eq_true (holds_of_mem_slots hle hu)
  · rw [if_neg same, List.filter_eq_nil_iff]
    intro u hu holds
    exact same (Band.eq_of_holds (holds_of_mem_slots hle hu) (of_decide_eq_true holds))

/-- The slots in a band are those of one part of the order. -/
theorem filter_holds_layout {ids : List String} (fits : o.Fits ids) (b : Band) :
    o.layout.filter (fun u => b.Holds u.index) = slots b.base (o.part b) := by
  have hbefore := filter_holds_slots b .before fits.before_le
  have hafter := filter_holds_slots b .after fits.after_le
  rw [layout, List.filter_append]
  cases b with
  | before => exact (congrArg₂ _ hbefore hafter).trans (List.append_nil _)
  | after => exact (congrArg₂ _ hbefore hafter).trans (List.nil_append _)

end RuleOrder

/-- If the rules in the bands are those in the slots, the snapshot is the one with every rule in its
slot. -/
theorem ofRules_eq_arranged {o : RuleOrder} {rules : List Rule} {ids : List String}
    (fits : o.Fits ids) (filled : o.layout.map IndexUpdate.placed ~
      (rules.filter fun r => Band.Covers r.index).map Rule.placed) :
    Snapshot.ofRules rules = o.arranged := by
  have band : ∀ b, Snapshot.layOut b rules = (slots b.base (o.part b)).map IndexUpdate.placed := by
    intro b
    apply Snapshot.layOut_eq
    · rw [List.pairwise_map]
      exact slots_ascend b.base (o.part b)
    · have perm := filled.filter fun p => b.Holds p.index
      rw [List.filter_map, List.filter_map] at perm
      rw [← RuleOrder.filter_holds_layout fits b, ← Band.filter_holds_covered]
      exact perm
  exact congrArg₂ Snapshot.mk (band .before) (band .after)

/-! ## Rules with nothing pending -/

section Settled

open RuleOrder

variable {ruleset : Ruleset} {o : RuleOrder} {rules : List Rule}
  (fits : o.Fits ((ruleset.managed rules).map (·.id)))
  (none : o.pending (ruleset.places rules) = [])

include fits none

theorem layout_perm_places : o.layout.map IndexUpdate.placed ~ ruleset.places rules := by
  rw [← Ruleset.map_id_places] at fits
  exact perm_of_pending_eq_nil fits none

/-- **If nothing is pending, every rule that can be put in order sits in its slot.** -/
theorem ofSite_eq_arranged : Snapshot.ofSite ruleset rules = o.arranged :=
  ofRules_eq_arranged fits (layout_perm_places fits none)

omit fits in
/-- Every slot has its rule. -/
theorem exists_rule_of_slot {base : Int} {xs : List String}
    (sub : slots base xs ⊆ o.layout) {i : Nat} {x : String} (hi : xs[i]? = some x) :
    ∃ r ∈ rules, r.ruleset = ruleset.spelling ∧ r.id = x ∧ r.index = base + i := by
  have hslot : (⟨x, base + i⟩ : IndexUpdate) ∈ o.layout := sub (mem_slots.2 ⟨i, hi, rfl⟩)
  have hplace : (⟨x, base + i⟩ : PlacedRule) ∈ ruleset.places rules :=
    pending_eq_nil_iff.1 none _ hslot
  obtain ⟨r, hr, same⟩ := List.mem_map.1 hplace
  obtain ⟨hmem, own, -⟩ := Ruleset.mem_managed.1 hr
  exact ⟨r, hmem, own, congrArg PlacedRule.id same, congrArg PlacedRule.index same⟩

/-- No two rules that can be put in order share an index. -/
theorem nodup_index_managed : ((ruleset.managed rules).map (·.index)).Nodup := by
  have same : (ruleset.places rules).map (·.index) = (ruleset.managed rules).map (·.index) := by
    rw [Ruleset.places, List.map_map]
    rfl
  have slots : (o.layout.map IndexUpdate.placed).map (·.index) = o.layout.map (·.index) := by
    rw [List.map_map]
    rfl
  have perm := (layout_perm_places fits none).map (·.index)
  rw [same, slots] at perm
  rw [← perm.nodup_iff, List.Nodup, List.pairwise_map]
  exact (layout_ascends fits).imp fun h => Int.ne_of_lt h

end Settled

end FirewallOrder
