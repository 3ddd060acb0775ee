import Mathlib.Data.List.Nodup
import FirewallOrder.Ordering.Drift

/-!
# When nothing differs

The drift between the rules that there are and an order is empty exactly when both hold the same
identities, each once: `Drift.isEmpty_compare_iff`. It does not depend on how the rules are listed
(`Drift.compare_congr`).
-/

namespace FirewallOrder

theorem mem_insertOnce {id x : String} {ids : List String} :
    x ∈ insertOnce id ids ↔ x = id ∨ x ∈ ids := by
  induction ids with
  | nil => simp [insertOnce]
  | cons y ys ih =>
    unfold insertOnce
    split
    · exact List.mem_cons
    · split
      · rename_i h
        rw [h, List.mem_cons]
        exact ⟨.inr, fun hx => hx.elim .inl fun hmem => hmem⟩
      · rw [List.mem_cons, List.mem_cons, ih]
        exact or_left_comm

theorem mem_sortedSet {x : String} {ids : List String} : x ∈ sortedSet ids ↔ x ∈ ids := by
  induction ids with
  | nil => rfl
  | cons y ys ih =>
    have step : sortedSet (y :: ys) = insertOnce y (sortedSet ys) := rfl
    rw [step, mem_insertOnce, ih, List.mem_cons]

theorem isEmpty_sortedSet_iff {ids : List String} :
    (sortedSet ids).isEmpty = true ↔ ∀ x, x ∉ ids := by
  rw [List.isEmpty_iff, List.eq_nil_iff_forall_not_mem]
  exact forall_congr' fun x => not_congr mem_sortedSet

theorem insertOnce_ascends {id : String} {ids : List String} (h : ids.Pairwise (· < ·)) :
    (insertOnce id ids).Pairwise (· < ·) := by
  induction h with
  | nil => exact List.pairwise_singleton _ id
  | @cons x xs first rest ih =>
    unfold insertOnce
    split
    · next before =>
      refine List.pairwise_cons.2 ⟨fun y hy => ?_, List.pairwise_cons.2 ⟨first, rest⟩⟩
      rcases List.mem_cons.1 hy with rfl | hy
      · exact before
      · exact String.lt_trans before (first y hy)
    · next behind =>
      split
      · exact List.pairwise_cons.2 ⟨first, rest⟩
      · next hne =>
        refine List.pairwise_cons.2 ⟨fun y hy => ?_, ih⟩
        rcases mem_insertOnce.1 hy with rfl | hy
        · exact Std.lt_of_le_of_ne (String.not_lt.1 behind) (Ne.symm hne)
        · exact first y hy

theorem sortedSet_ascends (ids : List String) : (sortedSet ids).Pairwise (· < ·) := by
  induction ids with
  | nil => exact .nil
  | cons id ids ih => exact insertOnce_ascends ih

/-- Only what is in a list counts. -/
theorem sortedSet_congr {ids ids' : List String} (same : ∀ x, x ∈ ids ↔ x ∈ ids') :
    sortedSet ids = sortedSet ids' := by
  have distinct (xs : List String) : (sortedSet xs).Nodup := by
    refine (sortedSet_ascends xs).imp ?_
    rintro a _ h rfl
    exact String.lt_irrefl a h
  have perm : (sortedSet ids).Perm (sortedSet ids') := by
    refine (List.perm_ext_iff_of_nodup (distinct ids) (distinct ids')).2 fun x => ?_
    rw [mem_sortedSet, mem_sortedSet]
    exact same x
  refine perm.eq_of_pairwise ?_ (sortedSet_ascends ids) (sortedSet_ascends ids')
  intro a b _ _ hab hba
  exact absurd hba (String.lt_asymm hab)

namespace Drift

theorem mem_repeated {x : String} {ids : List String} : x ∈ repeated ids ↔ 1 < ids.count x := by
  rw [repeated, List.mem_filter, decide_eq_true_iff, and_iff_right_iff_imp]
  intro h
  exact List.count_pos_iff.1 (by omega)

theorem not_mem_repeated_iff {ids : List String} : (∀ x, x ∉ repeated ids) ↔ ids.Nodup := by
  rw [List.nodup_iff_count_le_one]
  exact forall_congr' fun x => by rw [mem_repeated, Nat.not_lt]

/-- Nothing differs exactly when the order lists each of the identities once and nothing else. -/
theorem isEmpty_compare_iff {current desired : List String} :
    (compare current desired).isEmpty = true ↔
      current.Nodup ∧ desired.Nodup ∧ current.Perm desired := by
  rw [isEmpty, Bool.and_eq_true, Bool.and_eq_true, compare, isEmpty_sortedSet_iff,
    isEmpty_sortedSet_iff, isEmpty_sortedSet_iff]
  simp only [List.mem_filter, Bool.not_eq_true', List.contains_eq_mem, decide_eq_false_iff_not,
    List.mem_append, not_and, not_or, not_not, forall_and, not_mem_repeated_iff]
  constructor
  · rintro ⟨⟨hsub, hsup⟩, hcurrent, hdesired⟩
    exact ⟨hcurrent, hdesired,
      (List.perm_ext_iff_of_nodup hcurrent hdesired).2 fun x => ⟨hsub x, hsup x⟩⟩
  · rintro ⟨hcurrent, hdesired, same⟩
    exact ⟨⟨fun x => same.mem_iff.1, fun x => same.mem_iff.2⟩, hcurrent, hdesired⟩

/-- What differs from an order is the same however the rules are listed. -/
theorem compare_congr {current current' : List String} (same : current.Perm current')
    (desired : List String) : compare current desired = compare current' desired := by
  have unmanaged (x : String) : x ∈ (current.filter fun id => !desired.contains id) ↔
      x ∈ (current'.filter fun id => !desired.contains id) := by
    rw [List.mem_filter, List.mem_filter, same.mem_iff]
  have unknown (x : String) : x ∈ (desired.filter fun id => !current.contains id) ↔
      x ∈ (desired.filter fun id => !current'.contains id) := by
    rw [List.mem_filter, List.mem_filter, same.contains_eq]
  have duplicated (x : String) : x ∈ repeated current ++ repeated desired ↔
      x ∈ repeated current' ++ repeated desired := by
    rw [List.mem_append, List.mem_append, mem_repeated, same.count_eq, ← mem_repeated]
  rw [compare, compare, sortedSet_congr unmanaged, sortedSet_congr unknown,
    sortedSet_congr duplicated]

end Drift

end FirewallOrder
