import FirewallOrder.Controller.Memory
import FirewallOrder.Proofs.Ordering.Layout

/-!
# Rules with new indices

What updates do to the rules of a site (`Reindexed`), and what this does to a plan. Updates within
the bands, of rules that can be put in order, move these rules and no others
(`Ruleset.places_map_reindex`). If they are part of a plan, the rest of it is the plan for the rules
as they are then (`plan_of_reindexed`): whether the whole plan took effect, or nothing of it, or
something between.
-/

namespace FirewallOrder

open RuleOrder

/-! ## Rules with new indices -/

/-- The rules of a site after updates to a ruleset: the rule that an update names has the new index,
and all else is as it was. -/
structure Reindexed (ruleset : Ruleset) (updates : List IndexUpdate) (old new : List Rule) :
    Prop where
  /-- A rule is as it was, except for its index if an update names it. -/
  kept : List.Forall₂ (fun r r' => r' = r ∨ r.ruleset = ruleset.spelling ∧
    ∃ u ∈ updates, u.id = r.id ∧ r' = { r with index := u.index }) old new
  /-- An update takes effect if its rule is there and no other update is for it. -/
  set : ∀ u ∈ updates, (∀ v ∈ updates, v.id = u.id → v = u) →
    (∃ r ∈ old, r.ruleset = ruleset.spelling ∧ r.id = u.id) →
    ∃ r ∈ new, r.ruleset = ruleset.spelling ∧ r.id = u.id ∧ r.index = u.index

namespace Memory

variable {ruleset : Ruleset} {updates : List IndexUpdate} {rule : Rule}

theorem reindex_of_foreign (h : rule.ruleset ≠ ruleset.spelling) :
    reindex ruleset updates rule = rule := by
  rw [reindex, if_neg (by simpa using h)]

/-- An update takes effect on its rule if no other update is for that rule. -/
theorem reindex_of_mem (own : rule.ruleset = ruleset.spelling) {u : IndexUpdate} (hu : u ∈ updates)
    (one : ∀ v ∈ updates, v.id = u.id → v = u) (same : u.id = rule.id) :
    reindex ruleset updates rule = { rule with index := u.index } := by
  have hfind : (updates.find? fun u => u.id == rule.id) = some u := by
    refine find?_eq_some_of_unique hu (beq_iff_eq.2 same) fun v hv hid => ?_
    exact one v hv ((beq_iff_eq.1 hid).trans same.symm)
  rw [reindex, if_pos (beq_iff_eq.2 own), hfind]

/-- A rule stays, or it has the index of an update that names it. -/
theorem reindex_cases (ruleset : Ruleset) (updates : List IndexUpdate) (rule : Rule) :
    reindex ruleset updates rule = rule ∨ rule.ruleset = ruleset.spelling ∧
      ∃ u ∈ updates, u.id = rule.id ∧
        reindex ruleset updates rule = { rule with index := u.index } := by
  by_cases own : rule.ruleset = ruleset.spelling
  · cases hfind : updates.find? fun u => u.id == rule.id with
    | none =>
      refine .inl ?_
      rw [reindex, hfind]
      exact ite_self rule
    | some u =>
      have hid : u.id = rule.id := by simpa using List.find?_some hfind
      refine .inr ⟨own, u, List.mem_of_find?_eq_some hfind, hid, ?_⟩
      rw [reindex, if_pos (beq_iff_eq.2 own), hfind]
  · exact .inl (reindex_of_foreign own)

@[simp] theorem reindex_id : (reindex ruleset updates rule).id = rule.id := by
  rcases reindex_cases ruleset updates rule with h | ⟨-, u, -, -, h⟩
  · rw [h]
  · rw [h]

@[simp] theorem reindex_ruleset : (reindex ruleset updates rule).ruleset = rule.ruleset := by
  rcases reindex_cases ruleset updates rule with h | ⟨-, u, -, -, h⟩
  · rw [h]
  · rw [h]

theorem reindexed (ruleset : Ruleset) (updates : List IndexUpdate) (rules : List Rule) :
    Reindexed ruleset updates rules (rules.map (reindex ruleset updates)) := by
  refine ⟨?_, ?_⟩
  · rw [List.forall₂_map_right_iff, List.forall₂_same]
    exact fun r _ => reindex_cases ruleset updates r
  · rintro u hu one ⟨r, hr, own, same⟩
    refine ⟨reindex ruleset updates r, List.mem_map_of_mem hr, ?_⟩
    rw [reindex_of_mem own hu one same.symm]
    exact ⟨own, same, rfl⟩

end Memory

namespace Ruleset

variable (ruleset : Ruleset) (updates : List IndexUpdate) (rules : List Rule)

theorem own_map_reindex (r : Ruleset) : r.own (rules.map (Memory.reindex ruleset updates)) =
    (r.own rules).map (Memory.reindex ruleset updates) := by
  rw [own, List.filter_map]
  refine congrArg _ (List.filter_congr fun r _ => ?_)
  rw [Function.comp, Memory.reindex_ruleset]

theorem map_id_own_map_reindex :
    (ruleset.own (rules.map (Memory.reindex ruleset updates))).map (·.id) =
      (ruleset.own rules).map (·.id) := by
  rw [own_map_reindex, List.map_map]
  exact List.map_congr_left fun r _ => Memory.reindex_id

variable {ruleset updates rules}

/-- An identity of a rule that can be put in order is that of no other rule of the ruleset. -/
theorem mem_managed_of_id (distinct : ((ruleset.own rules).map (·.id)).Nodup) {r : Rule}
    (hr : r ∈ ruleset.own rules) (hid : r.id ∈ (ruleset.managed rules).map (·.id)) :
    r ∈ ruleset.managed rules := by
  obtain ⟨m, hm, same⟩ := List.mem_map.1 hid
  have hown : m ∈ ruleset.own rules := (managed_sublist_own ruleset rules).subset hm
  rwa [← List.inj_on_of_nodup_map distinct hown hr same]

/-- Updates within the bands, of rules that can be put in order, move these rules and leave every
other rule of the ruleset where it is. -/
theorem managed_map_reindex (distinct : ((ruleset.own rules).map (·.id)).Nodup)
    (covered : ∀ u ∈ updates, Band.Covers u.index ∧ u.id ∈ (ruleset.managed rules).map (·.id)) :
    ruleset.managed (rules.map (Memory.reindex ruleset updates)) =
      (ruleset.managed rules).map (Memory.reindex ruleset updates) := by
  rw [managed, own_map_reindex, List.filter_map, managed]
  refine congrArg _ (List.filter_congr fun r hr => ?_)
  rw [Function.comp, decide_eq_decide]
  rcases Memory.reindex_cases ruleset updates r with h | ⟨-, u, hu, hid, h⟩
  · rw [h]
  · obtain ⟨hindex, hmanaged⟩ := covered u hu
    rw [hid] at hmanaged
    have hcovers : Band.Covers r.index :=
      (mem_managed.1 (mem_managed_of_id distinct hr hmanaged)).2.2
    rw [h]
    exact ⟨fun _ => hcovers, fun _ => hindex⟩

theorem placed_reindex {r : Rule} (own : r.ruleset = ruleset.spelling) :
    (Memory.reindex ruleset updates r).placed = moved updates r.placed := by
  rw [Memory.reindex, if_pos (beq_iff_eq.2 own), moved, Rule.placed, Rule.placed]
  cases hfind : updates.find? fun u => u.id == r.id with
  | none => rfl
  | some u =>
    have hid : u.id = r.id := by simpa using List.find?_some hfind
    simp only [IndexUpdate.placed, hid]

theorem places_map_reindex (distinct : ((ruleset.own rules).map (·.id)).Nodup)
    (covered : ∀ u ∈ updates, Band.Covers u.index ∧ u.id ∈ (ruleset.managed rules).map (·.id)) :
    ruleset.places (rules.map (Memory.reindex ruleset updates)) =
      (ruleset.places rules).map (moved updates) := by
  rw [places, managed_map_reindex distinct covered, places, List.map_map, List.map_map]
  exact List.map_congr_left fun r hr => placed_reindex (mem_managed.1 hr).2.1

end Ruleset

/-- Every rule afterwards was there before, with the same identity, in the same ruleset. -/
theorem Reindexed.exists_old {ruleset : Ruleset} {updates : List IndexUpdate} {old new : List Rule}
    (h : Reindexed ruleset updates old new) {r' : Rule} (hr' : r' ∈ new) :
    ∃ r ∈ old, r.id = r'.id ∧ r.ruleset = r'.ruleset := by
  obtain ⟨i, hi, rfl⟩ := List.getElem_of_mem hr'
  have hold : i < old.length := by rwa [h.kept.length_eq]
  refine ⟨old[i], List.getElem_mem hold, ?_⟩
  rcases h.kept.get hold hi with heq | ⟨-, u, -, -, heq⟩
  · exact ⟨(congrArg Rule.id heq).symm, (congrArg Rule.ruleset heq).symm⟩
  · exact ⟨(congrArg Rule.id heq).symm, (congrArg Rule.ruleset heq).symm⟩

/-- The first rule of a list without the others: no other rule of the ruleset has its identity. -/
theorem Ruleset.id_ne_of_nodup_cons {ruleset : Ruleset} {r s : Rule} {rules : List Rule}
    (distinct : ((ruleset.own (r :: rules)).map (·.id)).Nodup) (hr : r.ruleset = ruleset.spelling)
    (hs : s ∈ rules) (own : s.ruleset = ruleset.spelling) : s.id ≠ r.id := by
  have first : ruleset.own (r :: rules) = r :: ruleset.own rules :=
    List.filter_cons_of_pos (beq_iff_eq.2 hr)
  rw [first, List.map_cons, List.nodup_cons] at distinct
  intro same
  exact distinct.1 (List.mem_map.2 ⟨s, Ruleset.mem_own.2 ⟨hs, own⟩, same⟩)

/-- When no identity occurs twice, there is only one way for the rules to be after the updates. -/
theorem Reindexed.eq_map {ruleset : Ruleset} {updates : List IndexUpdate} {old new : List Rule}
    (h : Reindexed ruleset updates old new)
    (one : ∀ u ∈ updates, ∀ v ∈ updates, v.id = u.id → v = u)
    (distinct : ((ruleset.own old).map (·.id)).Nodup) :
    new = old.map (Memory.reindex ruleset updates) := by
  obtain ⟨kept, set⟩ := h
  -- By the rules one after the other. What `set` promises of the whole list holds of its rest too:
  -- the rule that an update names is not the first one if it is in the rest, since identities
  -- differ.
  induction kept with
  | nil => rfl
  | @cons r r' old new hr kept ih =>
    have rest : Reindexed ruleset updates old new := by
      refine ⟨kept, ?_⟩
      rintro u hu honly ⟨s, hs, own, hid⟩
      obtain ⟨t, ht, town, tid, tindex⟩ := set u hu honly ⟨s, List.mem_cons_of_mem r hs, own, hid⟩
      rcases List.mem_cons.1 ht with rfl | ht
      · have same : t.id = r.id ∧ t.ruleset = r.ruleset := by
          rcases hr with rfl | ⟨-, v, -, -, rfl⟩
          · exact ⟨rfl, rfl⟩
          · exact ⟨rfl, rfl⟩
        have hne := Ruleset.id_ne_of_nodup_cons distinct (same.2.symm.trans town) hs own
        exact absurd (hid.trans (tid.symm.trans same.1)) hne
      · exact ⟨t, ht, town, tid, tindex⟩
    have distinctRest : ((ruleset.own old).map (·.id)).Nodup :=
      distinct.sublist (((List.sublist_cons_self r old).filter _).map _)
    have head : r' = Memory.reindex ruleset updates r := by
      rcases hr with rfl | ⟨own, u, hu, hid, rfl⟩
      · rcases Memory.reindex_cases ruleset updates r' with h | ⟨own, u, hu, hid, h⟩
        · exact h.symm
        · obtain ⟨t, ht, town, tid, tindex⟩ :=
            set u hu (one u hu) ⟨r', List.mem_cons_self, own, hid.symm⟩
          rcases List.mem_cons.1 ht with rfl | ht
          · rw [h, ← tindex]
          · obtain ⟨s, hs, sid, sown⟩ := rest.exists_old ht
            have hne := Ruleset.id_ne_of_nodup_cons distinct own hs (sown.trans town)
            exact absurd (sid.trans (tid.trans hid)) hne
      · exact (Memory.reindex_of_mem own hu (one u hu) hid).symm
    rw [List.map_cons, ← head, ← ih distinctRest rest.set]

/-! ## What is left of a plan -/

section Plan

variable {id : RulesetId} {o : RuleOrder} {rules rules' : List Rule}
  {updates taken : List IndexUpdate}

theorem covered_of_plan (planned : (Snapshot.ofSite id.ruleset rules).plan id o = .ok updates)
    {u : IndexUpdate} (hu : u ∈ updates) :
    Band.Covers u.index ∧ u.id ∈ (id.ruleset.managed rules).map (·.id) := by
  obtain ⟨fits, rfl⟩ := Snapshot.plan_ofSite_eq_ok_iff.1 planned
  have hlayout := pending_subset o _ hu
  refine ⟨covers_of_mem_layout fits hlayout, ?_⟩
  rw [fits.perm.mem_iff, ← map_id_layout]
  exact List.mem_map_of_mem hlayout

theorem eq_of_mem_plan (planned : (Snapshot.ofSite id.ruleset rules).plan id o = .ok updates)
    (sub : taken ⊆ updates) : ∀ u ∈ taken, ∀ v ∈ taken, v.id = u.id → v = u := by
  obtain ⟨fits, rfl⟩ := Snapshot.plan_ofSite_eq_ok_iff.1 planned
  intro u hu v hv same
  exact eq_of_mem_layout fits.nodup_ids (pending_subset o _ (sub hv))
    (pending_subset o _ (sub hu)) same

/-- The rules after part of a plan took effect. -/
theorem Reindexed.eq_map_of_plan (distinct : ((id.ruleset.own rules).map (·.id)).Nodup)
    (planned : (Snapshot.ofSite id.ruleset rules).plan id o = .ok updates) (sub : taken ⊆ updates)
    (h : Reindexed id.ruleset taken rules rules') :
    rules' = rules.map (Memory.reindex id.ruleset taken) :=
  h.eq_map (eq_of_mem_plan planned sub) distinct

/-- **If part of a plan took effect, the rest of it is the plan for the rules as they are then.** -/
theorem plan_of_reindexed (distinct : ((id.ruleset.own rules).map (·.id)).Nodup)
    (planned : (Snapshot.ofSite id.ruleset rules).plan id o = .ok updates) (sub : taken ⊆ updates)
    (h : Reindexed id.ruleset taken rules rules') :
    (Snapshot.ofSite id.ruleset rules').plan id o = .ok (updates.filter fun u => u ∉ taken) := by
  have covered : ∀ u ∈ taken,
      Band.Covers u.index ∧ u.id ∈ (id.ruleset.managed rules).map (·.id) :=
    fun u hu => covered_of_plan planned (sub hu)
  rw [h.eq_map_of_plan distinct planned sub, Snapshot.plan_ofSite_eq_ok_iff,
    Ruleset.managed_map_reindex distinct covered, Ruleset.places_map_reindex distinct covered]
  obtain ⟨fits, rfl⟩ := Snapshot.plan_ofSite_eq_ok_iff.1 planned
  have sub' : taken ⊆ o.layout := fun u hu => pending_subset o _ (sub hu)
  have same : ((id.ruleset.managed rules).map (Memory.reindex id.ruleset taken)).map (·.id) =
      (id.ruleset.managed rules).map (·.id) := by
    rw [List.map_map]
    exact List.map_congr_left fun r _ => Memory.reindex_id
  rw [same]
  refine ⟨fits, ?_⟩
  rw [← Ruleset.map_id_places] at fits
  exact (pending_moved fits sub').symm

/-- If a whole plan took effect, the order still fits the rules, and nothing is pending. -/
theorem settled_of_reindexed (distinct : ((id.ruleset.own rules).map (·.id)).Nodup)
    (planned : (Snapshot.ofSite id.ruleset rules).plan id o = .ok updates)
    (h : Reindexed id.ruleset updates rules rules') :
    o.Fits ((id.ruleset.managed rules').map (·.id)) ∧
    o.pending (id.ruleset.places rules') = [] := by
  have rest : (updates.filter fun u => u ∉ updates) = [] := by
    rw [List.filter_eq_nil_iff]
    intro u hu
    simpa using hu
  have planned' := plan_of_reindexed distinct planned (List.Subset.refl updates) h
  rw [rest] at planned'
  obtain ⟨fits, none⟩ := Snapshot.plan_ofSite_eq_ok_iff.1 planned'
  exact ⟨fits, none.symm⟩

end Plan

end FirewallOrder
