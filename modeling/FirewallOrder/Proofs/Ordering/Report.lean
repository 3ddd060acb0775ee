import FirewallOrder.Proofs.Text.ByteOrder
import FirewallOrder.Proofs.Ordering.Drift

/-!
# What a drift reports

Each list of a drift is the ascending list of the identities that it is about (`mem_unmanaged_iff`,
`mem_unknown_iff`, `mem_duplicated_iff`). So a drift depends on the two lists of identities only as
far as they are multisets (`compare_of_perm`), and exchanging them exchanges the identities that
only one of them holds (`compare_comm`).
-/

namespace FirewallOrder.Drift

variable {current desired : List String} {id : String}

theorem mem_unmanaged_iff : id ∈ (compare current desired).unmanaged ↔
    id ∈ current ∧ id ∉ desired := by
  rw [compare, mem_sortedSet, List.mem_filter, Bool.not_eq_true', List.contains_eq_mem,
    decide_eq_false_iff_not]

theorem mem_duplicated_iff :
    id ∈ (compare current desired).duplicated ↔ 1 < current.count id ∨ 1 < desired.count id := by
  rw [compare, mem_sortedSet, List.mem_append, mem_repeated, mem_repeated]

/-- Seen from the other side, what only one list holds is what only the other one holds. -/
theorem compare_comm (current desired : List String) :
    compare desired current =
      ⟨(compare current desired).unknown, (compare current desired).unmanaged,
        (compare current desired).duplicated⟩ := by
  have duplicated (id : String) :
      id ∈ repeated desired ++ repeated current ↔ id ∈ repeated current ++ repeated desired := by
    rw [List.mem_append, List.mem_append, or_comm]
  rw [compare, compare, sortedSet_congr duplicated]

theorem mem_unknown_iff : id ∈ (compare current desired).unknown ↔ id ∈ desired ∧ id ∉ current := by
  rw [compare_comm desired current]
  exact mem_unmanaged_iff

/-- The order of neither list matters. -/
theorem compare_of_perm {current' desired' : List String} (hcurrent : current'.Perm current)
    (hdesired : desired'.Perm desired) : compare current' desired' = compare current desired := by
  rw [compare_congr hcurrent, compare_comm desired', compare_congr hdesired, ← compare_comm]

theorem sortedSet_ascends_bytes (ids : List String) :
    (sortedSet ids).Pairwise fun x y => Text.bytes x < Text.bytes y :=
  (sortedSet_ascends ids).imp Text.bytes_lt_of_lt

/-- **What a drift reports.** For every list of the identities that there are and every order,

* the unmanaged are those that the order does not hold, the unknown those that only the order holds,
  and the duplicated those that occur more than once on one of the sides; each list strictly ascends
  by the bytes of the identities;
* nothing is reported exactly if the order rearranges the identities and none of these is repeated;
* exchanging the sides exchanges the unmanaged and the unknown, and nothing else;
* rearranging a side changes nothing. -/
theorem compare_reports (current desired : List String) :
    let report := compare current desired
    (∀ id, id ∈ report.unmanaged ↔ id ∈ current ∧ id ∉ desired) ∧
    (∀ id, id ∈ report.unknown ↔ id ∈ desired ∧ id ∉ current) ∧
    (∀ id, id ∈ report.duplicated ↔ 1 < current.count id ∨ 1 < desired.count id) ∧
    (∀ ids ∈ [report.unmanaged, report.unknown, report.duplicated],
      ids.Pairwise fun x y => Text.bytes x < Text.bytes y) ∧
    (report.isEmpty = true ↔ desired.Perm current ∧ current.Nodup) ∧
    compare desired current = ⟨report.unknown, report.unmanaged, report.duplicated⟩ ∧
    ∀ current' desired', current'.Perm current → desired'.Perm desired →
      compare current' desired' = report := by
  intro report
  have ascends : ∀ ids ∈ [report.unmanaged, report.unknown, report.duplicated],
      ids.Pairwise fun x y => Text.bytes x < Text.bytes y := by
    intro ids hids
    simp only [List.mem_cons, List.not_mem_nil, or_false] at hids
    rcases hids with rfl | rfl | rfl
    · exact sortedSet_ascends_bytes _
    · exact sortedSet_ascends_bytes _
    · exact sortedSet_ascends_bytes _
  have empty : report.isEmpty = true ↔ desired.Perm current ∧ current.Nodup := by
    rw [isEmpty_compare_iff]
    constructor
    · rintro ⟨distinct, -, perm⟩
      exact ⟨perm.symm, distinct⟩
    · rintro ⟨perm, distinct⟩
      exact ⟨distinct, perm.nodup_iff.2 distinct, perm.symm⟩
  exact ⟨fun _ => mem_unmanaged_iff, fun _ => mem_unknown_iff, fun _ => mem_duplicated_iff,
    ascends, empty, compare_comm current desired, fun _ _ => compare_of_perm⟩

/-- A repeated identity stands in for a missing one: the lists are of one length, and yet they
differ. -/
theorem compare_reports_balanced :
    ["ö", "z", "a"].Perm ["a", "ö", "z"] ∧ ["z", "a", "z"].Perm ["a", "z", "z"] ∧
      compare ["ö", "z", "a"] ["z", "a", "z"] = compare ["a", "ö", "z"] ["a", "z", "z"] ∧
      compare ["a", "ö", "z"] ["a", "z", "z"] = ⟨["ö"], [], ["z"]⟩ := by
  have hcurrent : ["ö", "z", "a"].Perm ["a", "ö", "z"] := by decide
  have hdesired : ["z", "a", "z"].Perm ["a", "z", "z"] := by decide
  obtain ⟨-, -, -, -, -, -, rearranged⟩ := compare_reports ["a", "ö", "z"] ["a", "z", "z"]
  exact ⟨hcurrent, hdesired, rearranged _ _ hcurrent hdesired, by decide⟩

end FirewallOrder.Drift
