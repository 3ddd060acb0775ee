import FirewallOrder.Proofs.Ordering.Layout

/-!
# Bands without gaps

A band is compact if its rules sit at its first indices, one at each. This is so exactly if no index
of the band is left free before a rule of it, and none is shared (`Band.compact_iff`). A plan is
empty exactly for the order that the rules are in, and only if both bands are compact
(`Snapshot.plan_eq_nil_iff`).
-/

namespace FirewallOrder

open scoped List

/-- Integers that ascend from a base count on from it if none is repeated and none is left out. -/
theorem eq_add_of_gapless {base : Int} {ns : List Int} (ascends : ns.Pairwise (· < ·))
    (low : ∀ n ∈ ns, base ≤ n) (gapless : ∀ n, base ≤ n → (∃ m ∈ ns, n < m) → n ∈ ns)
    {i : Nat} {n : Int} (hi : ns[i]? = some n) : n = base + i := by
  induction ns generalizing base i with
  | nil => cases hi
  | cons x xs ih =>
    obtain ⟨first, rest⟩ := List.pairwise_cons.1 ascends
    have hx : x = base := by
      by_contra hne
      have hle := low x List.mem_cons_self
      have hlt : base < x := by omega
      rcases List.mem_cons.1 (gapless base (Int.le_refl base) ⟨x, List.mem_cons_self, hlt⟩) with
        same | behind
      · omega
      · have := first base behind
        omega
    subst hx
    cases i with
    | zero =>
      cases hi
      simp
    | succ i =>
      have hn : n = x + 1 + i := by
        refine ih rest first (fun m hm ⟨k, hk, hmk⟩ => ?_) hi
        have among := gapless m (by omega) ⟨k, List.mem_cons_of_mem x hk, hmk⟩
        rcases List.mem_cons.1 among with rfl | h
        · omega
        · exact h
      omega

namespace Band

/-- An index of the band is free, and a rule of the band sits behind it. -/
def HasGap (b : Band) (rules : List Rule) : Prop :=
  ∃ n, b.base ≤ n ∧ n ∉ rules.map (·.index) ∧ ∃ r ∈ rules, b.Holds r.index ∧ n < r.index

/-- Two rules share an index of the band. -/
def HasTie (b : Band) (rules : List Rule) : Prop :=
  ∃ n, b.Holds n ∧ 1 < (rules.map (·.index)).count n

variable {b : Band} {rules : List Rule}

theorem map_index_layOut_perm (b : Band) (rules : List Rule) :
    (Snapshot.layOut b rules).map (·.index) ~ (rules.map (·.index)).filter fun n => b.Holds n := by
  have perm := (Snapshot.layOut_perm b rules).map (·.index)
  rw [List.map_map] at perm
  rw [List.filter_map]
  exact perm

theorem mem_index_iff {n : Int} :
    n ∈ (Snapshot.layOut b rules).map (·.index) ↔ n ∈ rules.map (·.index) ∧ b.Holds n := by
  rw [(map_index_layOut_perm b rules).mem_iff, List.mem_filter, decide_eq_true_iff]

theorem count_index_eq {n : Int} (holds : b.Holds n) :
    ((Snapshot.layOut b rules).map (·.index)).count n = (rules.map (·.index)).count n := by
  rw [(map_index_layOut_perm b rules).count_eq]
  exact List.count_filter (decide_eq_true holds)

theorem nodup_index_iff : ((Snapshot.layOut b rules).map (·.index)).Nodup ↔ ¬ b.HasTie rules := by
  rw [List.nodup_iff_count_le_one]
  constructor
  · rintro distinct ⟨n, hn, tie⟩
    have hle := distinct n
    rw [count_index_eq hn] at hle
    omega
  · intro untied n
    by_contra tie
    have hmem := List.count_pos_iff.1 (Nat.zero_lt_of_lt (Nat.not_le.1 tie))
    have hn := (mem_index_iff.1 hmem).2
    rw [count_index_eq hn, Nat.not_le] at tie
    exact untied ⟨n, hn, tie⟩

/-- The rules of a band count on from its first index exactly if it has no gap and no tie. -/
theorem compact_iff (b : Band) (rules : List Rule) :
    (∀ (i : Nat) r, (Snapshot.layOut b rules)[i]? = some r → r.index = b.base + i) ↔
      ¬ b.HasGap rules ∧ ¬ b.HasTie rules := by
  rw [← nodup_index_iff]
  constructor
  · intro compact
    refine ⟨?_, ?_⟩
    · rintro ⟨n, hbase, free, r, hr, holds, hlt⟩
      -- The rule is at some place, so there is one at the place that belongs to the free index.
      have hmem := mem_index_iff.2 ⟨List.mem_map_of_mem hr, holds⟩
      obtain ⟨p, hp, same⟩ := List.mem_map.1 hmem
      obtain ⟨k, hk, rfl⟩ := List.getElem_of_mem hp
      have hindex := compact k _ (List.getElem?_eq_getElem hk)
      have hj : (n - b.base).toNat < (Snapshot.layOut b rules).length := by omega
      have hfree := compact _ _ (List.getElem?_eq_getElem hj)
      refine free (mem_index_iff.1 (List.mem_map.2 ⟨_, List.getElem_mem hj, ?_⟩)).1
      omega
    · rw [List.Nodup, List.pairwise_map, List.pairwise_iff_getElem]
      intro i j hi hj hij same
      have hfirst := compact i _ (List.getElem?_eq_getElem hi)
      have hsecond := compact j _ (List.getElem?_eq_getElem hj)
      omega
  · rintro ⟨gapless, distinct⟩ i r hi
    have ascends : ((Snapshot.layOut b rules).map (·.index)).Pairwise (· < ·) := by
      have weakly := List.pairwise_map.2 (Snapshot.layOut_ascends b rules)
      exact weakly.imp₂ (fun _ _ hle hne => Int.lt_iff_le_and_ne.2 ⟨hle, hne⟩) distinct
    refine eq_add_of_gapless ascends (fun n hn => (mem_index_iff.1 hn).2.1) ?_
      (by rw [List.getElem?_map, hi, Option.map_some])
    rintro n hbase ⟨m, hm, hlt⟩
    obtain ⟨hmem, holds⟩ := mem_index_iff.1 hm
    by_contra free
    obtain ⟨r, hr, rfl⟩ := List.mem_map.1 hmem
    refine gapless ⟨n, hbase, fun hn => free (mem_index_iff.2 ⟨hn, hbase, ?_⟩), r, hr, holds, hlt⟩
    exact Int.lt_trans hlt holds.2

end Band

namespace Snapshot

/-- In both bands the rules sit at the first indices, one at each. -/
def Compact (s : Snapshot) : Prop :=
  ∀ (b : Band) (i : Nat) (r : PlacedRule), (s.band b)[i]? = some r → r.index = b.base + i

variable {rules : List Rule} {id : RulesetId} {o : RuleOrder}

theorem compact_ofRules_iff :
    (ofRules rules).Compact ↔ ∀ b : Band, ¬ b.HasGap rules ∧ ¬ b.HasTie rules := by
  refine forall_congr' fun b => ?_
  rw [band_ofRules]
  exact b.compact_iff rules

theorem order_eq (s : Snapshot) : s.order = ⟨s.before.map (·.id), s.after.map (·.id)⟩ := by
  simp [order, ids]

theorem ids_order (s : Snapshot) : s.order.ids = s.ids true true := by
  simp [order, ids, RuleOrder.ids]

/-- A compact band does not overflow. -/
theorem length_le_of_compact (compact : (ofRules rules).Compact) (b : Band) :
    (layOut b rules).length ≤ 1000 := by
  by_contra overflow
  have hlast : 1000 < (layOut b rules).length := Nat.not_le.1 overflow
  have hget : ((ofRules rules).band b)[1000]? = some (layOut b rules)[1000] := by
    rw [band_ofRules]
    exact List.getElem?_eq_getElem hlast
  have hindex := compact b 1000 _ hget
  have hmem := List.mem_map_of_mem (f := (·.index)) (List.getElem_mem hlast)
  have holds := (Band.mem_index_iff.1 hmem).2.2
  have hwidth : (Band.width : Int) = 1000 := rfl
  omega

theorem compact_arranged (o : RuleOrder) : o.arranged.Compact := by
  have placed (base : Int) (ids : List String) (i : Nat) (r : PlacedRule)
      (hi : ((slots base ids).map IndexUpdate.placed)[i]? = some r) : r.index = base + i := by
    rw [slots_eq_mapIdx, List.getElem?_map, List.getElem?_mapIdx, Option.map_map,
      Option.map_eq_some_iff] at hi
    obtain ⟨x, -, rfl⟩ := hi
    rfl
  intro b i r hi
  cases b with
  | before => exact placed 2000 o.before i r hi
  | after => exact placed 4000 o.after i r hi

/-- In compact bands every rule sits in its slot of the order that the rules are in. -/
theorem pending_order_of_compact {s : Snapshot} (compact : s.Compact) :
    s.order.pending s.all = [] := by
  have placed (b : Band) {i : Nat} {u : IndexUpdate} (hi : ((s.band b).map (·.id))[i]? = some u.id)
      (hu : u.index = b.base + i) : u.placed ∈ s.band b := by
    rw [List.getElem?_map, Option.map_eq_some_iff] at hi
    obtain ⟨r, hr, hid⟩ := hi
    have same : r = u.placed := congrArg₂ PlacedRule.mk hid ((compact b i r hr).trans hu.symm)
    exact same ▸ List.mem_of_getElem? hr
  rw [RuleOrder.pending_eq_nil_iff, order_eq]
  intro u hu
  rcases List.mem_append.1 hu with hu | hu
  · obtain ⟨i, hi, hindex⟩ := mem_slots.1 hu
    exact List.mem_append_left _ (placed .before hi hindex)
  · obtain ⟨i, hi, hindex⟩ := mem_slots.1 hu
    exact List.mem_append_right _ (placed .after hi hindex)

/-- **A plan is empty exactly if** no identity in the bands is repeated, the order is the one that
the rules are in, and both bands are compact. -/
theorem plan_eq_nil_iff : (ofRules rules).plan id o = .ok [] ↔
    ((rules.filter fun r => Band.Covers r.index).map (·.id)).Nodup ∧
      o = (ofRules rules).order ∧ (ofRules rules).Compact := by
  rw [plan_eq_ok_iff, ← (all_ids_perm rules).nodup_iff]
  constructor
  · rintro ⟨fits, none⟩
    have filled := RuleOrder.perm_of_pending_eq_nil (by rwa [← ids_eq_map_all]) none.symm
    have reached : ofRules rules = o.arranged :=
      ofRules_eq_arranged fits (filled.trans (all_perm rules))
    rw [reached]
    exact ⟨reached ▸ fits.distinct, o.order_arranged.symm, compact_arranged o⟩
  · rintro ⟨distinct, rfl, compact⟩
    refine ⟨⟨distinct, .of_eq (ids_order _).symm, ?_, ?_⟩, (pending_order_of_compact compact).symm⟩
    · rw [order_eq, List.length_map]
      exact length_le_of_compact compact .before
    · rw [order_eq, List.length_map]
      exact length_le_of_compact compact .after

end Snapshot

end FirewallOrder
