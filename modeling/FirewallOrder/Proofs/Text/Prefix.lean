import Mathlib.Data.List.Basic
import FirewallOrder.Text.Prefix

/-!
# Longest beginnings

The boundaries of a text are the byte counts of its beginnings (`isBoundary_iff`). No character
takes more than four bytes, so of four bytes in a row one is a boundary, and the way back to it is
short (`exists_boundaryBack?`). A cut therefore never fails, and what it leaves is the longest
beginning within the limit (`exists_cut?`).
-/

namespace FirewallOrder.Text

variable {s p q : String} {m n limit : Nat}

/-! ## Beginnings -/

theorem prefix_iff : p.toList <+: s.toList ↔ ∃ rest, s = p ++ rest := by
  constructor
  · rintro ⟨rest, h⟩
    refine ⟨String.ofList rest, ?_⟩
    rw [← String.toList_inj, String.toList_append, String.toList_ofList, h]
  · rintro ⟨rest, rfl⟩
    rw [String.toList_append]
    exact List.prefix_append _ _

/-- The shorter of two beginnings of a text is a beginning of the other. -/
theorem prefix_of_utf8ByteSize_le (hp : p.toList <+: s.toList) (hq : q.toList <+: s.toList)
    (le : p.utf8ByteSize ≤ q.utf8ByteSize) : p.toList <+: q.toList := by
  rcases List.prefix_or_prefix_of_prefix hp hq with h | h
  · exact h
  · obtain ⟨rest, rfl⟩ := prefix_iff.1 h
    -- What one has beyond the other takes no byte.
    have nothing : rest = "" := by
      rw [← String.utf8ByteSize_eq_zero_iff]
      rw [String.utf8ByteSize_append] at le
      omega
    simp only [nothing, String.append_empty, List.prefix_refl]

theorem eq_of_prefix_of_prefix (forth : p.toList <+: q.toList) (back : q.toList <+: p.toList) :
    p = q :=
  String.toList_inj.1 (forth.eq_of_length_le back.length_le)

/-- `p` is the longest beginning of `s` that takes at most `limit` bytes. -/
structure LongestWithin (limit : Nat) (s p : String) : Prop where
  begins : p.toList <+: s.toList
  within : p.utf8ByteSize ≤ limit
  longest : ∀ q : String, q.toList <+: s.toList → q.utf8ByteSize ≤ limit → q.toList <+: p.toList

theorem LongestWithin.unique (hp : LongestWithin limit s p) (hq : LongestWithin limit s q) :
    p = q :=
  eq_of_prefix_of_prefix (hq.longest p hp.begins hp.within) (hp.longest q hq.begins hq.within)

theorem longestWithin_self (fits : s.utf8ByteSize ≤ limit) : LongestWithin limit s s :=
  ⟨List.prefix_rfl, fits, fun _ begins _ => begins⟩

/-! ## Boundaries -/

/-- A boundary is the byte count of a beginning. -/
theorem isBoundary_iff : IsBoundary s n ↔
    ∃ p : String, p.toList <+: s.toList ∧ p.utf8ByteSize = n := by
  rw [IsBoundary, String.Pos.Raw.isValid_iff_exists_append]
  constructor
  · rintro ⟨p, rest, split, place⟩
    exact ⟨p, prefix_iff.2 ⟨rest, split⟩, (congrArg String.Pos.Raw.byteIdx place).symm⟩
  · rintro ⟨p, begins, rfl⟩
    obtain ⟨rest, split⟩ := prefix_iff.1 begins
    exact ⟨p, rest, split, rfl⟩

theorem utf8ByteSize_cons (c : Char) (cs : List Char) :
    (String.ofList (c :: cs)).utf8ByteSize = c.utf8Size + (String.ofList cs).utf8ByteSize := by
  rw [String.ofList_cons, String.utf8ByteSize_append, String.utf8ByteSize_singleton]

/-- Every byte is less than four bytes behind a beginning. -/
theorem exists_prefix_near {cs : List Char} (inside : n ≤ (String.ofList cs).utf8ByteSize) :
    ∃ front, front <+: cs ∧ (String.ofList front).utf8ByteSize ≤ n ∧
      n < (String.ofList front).utf8ByteSize + 4 := by
  induction cs generalizing n with
  | nil => exact ⟨[], List.prefix_rfl, Nat.zero_le n, Nat.lt_of_le_of_lt inside (by decide)⟩
  | cons c cs ih =>
    rw [utf8ByteSize_cons] at inside
    by_cases within : n < c.utf8Size
    · have small := c.utf8Size_le_four
      exact ⟨[], List.nil_prefix, Nat.zero_le n, Nat.lt_of_lt_of_le within (by simpa using small)⟩
    · obtain ⟨front, begins, le, lt⟩ := ih (n := n - c.utf8Size) (by omega)
      refine ⟨c :: front, List.cons_prefix_cons.2 ⟨rfl, begins⟩, ?_⟩
      rw [utf8ByteSize_cons]
      omega

theorem exists_isBoundary (inside : n ≤ s.utf8ByteSize) :
    ∃ m, IsBoundary s m ∧ m ≤ n ∧ n < m + 4 := by
  rw [← String.ofList_toList (s := s)] at inside
  obtain ⟨front, begins, le, lt⟩ := exists_prefix_near inside
  refine ⟨_, isBoundary_iff.2 ⟨String.ofList front, ?_, rfl⟩, le, lt⟩
  rwa [String.toList_ofList]

/-! ## The way back -/

/-- The way back does not pass a boundary. -/
theorem boundaryBack?_spec (h : boundaryBack? s n = some m) :
    IsBoundary s m ∧ m ≤ n ∧ ∀ k, m < k → k ≤ n → ¬ IsBoundary s k := by
  fun_induction boundaryBack? s n with
  | case1 n boundary =>
    cases h
    exact ⟨boundary, Nat.le_refl m, fun k hk hk' => absurd hk' (Nat.not_le.2 hk)⟩
  | case2 inside => cases h
  | case3 n inside ih =>
    obtain ⟨boundary, le, last⟩ := ih h
    refine ⟨boundary, Nat.le_succ_of_le le, fun k hk hk' => ?_⟩
    rcases Nat.le_succ_iff.1 hk' with hk' | rfl
    · exact last k hk hk'
    · exact inside

/-- The way back ends at every boundary. -/
theorem exists_boundaryBack?_of_isBoundary (boundary : IsBoundary s m) (le : m ≤ n) :
    ∃ k, boundaryBack? s n = some k ∧ m ≤ k := by
  fun_induction boundaryBack? s n with
  | case1 n _ => exact ⟨n, rfl, le⟩
  | case2 inside => exact absurd (Nat.le_zero.1 le ▸ boundary) inside
  | case3 n inside ih =>
    refine ih ?_
    rcases Nat.le_succ_iff.1 le with le | rfl
    · exact le
    · exact absurd boundary inside

/-- The way back from a byte of the text leads to a boundary, by three steps at most. -/
theorem exists_boundaryBack? (inside : n ≤ s.utf8ByteSize) :
    ∃ m, boundaryBack? s n = some m ∧ n ≤ m + 3 := by
  obtain ⟨near, boundary, le, lt⟩ := exists_isBoundary inside
  obtain ⟨m, back, hm⟩ := exists_boundaryBack?_of_isBoundary boundary le
  exact ⟨m, back, by omega⟩

/-! ## Cuts -/

/-- There is a text before each boundary: the beginning that ends there. -/
theorem exists_before? (boundary : IsBoundary s n) :
    ∃ p, before? s n = some p ∧ p.toList <+: s.toList ∧ p.utf8ByteSize = n := by
  have splits := (s.pos ⟨n⟩ boundary).splits
  refine ⟨_, dif_pos boundary, prefix_iff.2 ⟨_, splits.eq_append⟩, ?_⟩
  exact (congrArg String.Pos.Raw.byteIdx splits.offset_eq_rawEndPos).symm

/-- Before the last boundary within the limit stands the longest beginning within it. -/
theorem longestWithin_of_boundaryBack? (back : boundaryBack? s (min s.utf8ByteSize limit) = some n)
    (begins : p.toList <+: s.toList) (size : p.utf8ByteSize = n) : LongestWithin limit s p := by
  obtain ⟨-, le, last⟩ := boundaryBack?_spec back
  refine ⟨begins, by omega, fun q hq within => prefix_of_utf8ByteSize_le hq begins ?_⟩
  by_contra longer
  have inside : q.utf8ByteSize ≤ s.utf8ByteSize := by
    obtain ⟨rest, split⟩ := prefix_iff.1 hq
    rw [split, String.utf8ByteSize_append]
    exact Nat.le_add_right _ _
  exact last _ (by omega) (Nat.le_min.2 ⟨inside, within⟩) (isBoundary_iff.2 ⟨q, hq, rfl⟩)

/-- **Cutting a text.** Three steps back at most lead to a boundary, and the text before it is the
longest beginning within the limit. -/
theorem exists_cut? (limit : Nat) (s : String) :
    ∃ n p, boundaryBack? s (min s.utf8ByteSize limit) = some n ∧ min s.utf8ByteSize limit ≤ n + 3 ∧
      before? s n = some p ∧ cut? limit s = some p ∧ p.utf8ByteSize = n ∧
      LongestWithin limit s p := by
  obtain ⟨n, back, near⟩ := exists_boundaryBack? (Nat.min_le_left s.utf8ByteSize limit)
  obtain ⟨p, before, begins, size⟩ := exists_before? (boundaryBack?_spec back).1
  have cut : cut? limit s = some p := by
    rw [cut?, back]
    exact before
  exact ⟨n, p, back, near, before, cut, size, longestWithin_of_boundaryBack? back begins size⟩

end FirewallOrder.Text
