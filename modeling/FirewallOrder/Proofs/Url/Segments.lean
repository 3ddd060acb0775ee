import FirewallOrder.Url.Basic
import FirewallOrder.Proofs.Url.Escape

/-!
# Segments put behind a path

A text that is pushed behind a path loses the characters that are read over (`effective`); all
others that mean something in a path are escaped. So what is written is one segment (`IsSegment`),
unless nothing was left of the text, or only one dot or two (`isSegment_segmentText`): an escape is
never read as a dot, since percent signs are escaped themselves. Two dots that come out are no
segment but take the last one away (`pushSegment_of_dots`).

Texts that are segments already are put behind the path as they are (`pushSegments_eq`).
-/

namespace FirewallOrder.Url

/-! ## What is written of a text -/

/-- The text without the characters that are read over. -/
def effective (s : String) : String := String.ofList (s.toList.filter fun c => !isIgnored c)

/-- A text that is one segment of a path wherever it stands. -/
structure IsSegment (s : String) : Prop where
  nonempty : s ≠ ""
  noDot : isSingleDot s = false
  noDots : isDoubleDot s = false
  noSlash : '/' ∉ s.toList

theorem isSegment_iff {s : String} :
    IsSegment s ↔ s ≠ "" ∧ isSingleDot s = false ∧ isDoubleDot s = false ∧ '/' ∉ s.toList :=
  ⟨fun h => ⟨h.nonempty, h.noDot, h.noDots, h.noSlash⟩,
    fun ⟨h, h', h'', h'''⟩ => ⟨h, h', h'', h'''⟩⟩

instance (s : String) : Decidable (IsSegment s) := decidable_of_iff' _ isSegment_iff

/-- What cannot stand in a segment of a URL, which may be special. -/
def segmentSet (special : Bool) : Char → Bool :=
  if special then inSpecialSegmentSet else inSegmentSet

theorem segmentText_eq (special : Bool) (s : String) :
    segmentText special s =
      String.ofList (escape (segmentSet special) (s.toList.filter fun c => !isIgnored c)) := by
  cases special <;> rfl

theorem unescape?_segmentText (special : Bool) (s : String) :
    unescape? (segmentText special s).toList = some (effective s) := by
  rw [segmentText_eq, String.toList_ofList]
  exact unescape?_escape (by cases special <;> decide) _

theorem effective_eq_of_segmentText {special : Bool} {s t u : String}
    (h : segmentText special s = t) (reads : unescape? t.toList = some u) : effective s = u := by
  have same := unescape?_segmentText special s
  rw [h, reads] at same
  exact (Option.some.inj same).symm

theorem effective_eq_of_isSingleDot {special : Bool} {s : String}
    (h : isSingleDot (segmentText special s) = true) : effective s = "." := by
  have all : ∀ t ∈ [".", "%2e", "%2E"], unescape? t.toList = some "." := by decide
  exact effective_eq_of_segmentText rfl (all _ (List.contains_iff_mem.1 h))

theorem effective_eq_of_isDoubleDot {special : Bool} {s : String}
    (h : isDoubleDot (segmentText special s) = true) : effective s = ".." := by
  have all : ∀ t ∈ ["..", "%2e%2e", "%2e%2E", "%2E%2e", "%2E%2E", "%2e.", "%2E.", ".%2e", ".%2E"],
      unescape? t.toList = some ".." := by decide
  exact effective_eq_of_segmentText rfl (all _ (List.contains_iff_mem.1 h))

/-- **What is written of a text is one segment**, unless the text is empty or a dot or two, as far
as it is not read over. -/
theorem isSegment_segmentText {special : Bool} {s : String} (nonempty : effective s ≠ "")
    (noDot : effective s ≠ ".") (noDots : effective s ≠ "..") :
    IsSegment (segmentText special s) where
  nonempty h := nonempty (effective_eq_of_segmentText h rfl)
  noDot := by
    rw [Bool.eq_false_iff]
    exact fun h => noDot (effective_eq_of_isSingleDot h)
  noDots := by
    rw [Bool.eq_false_iff]
    exact fun h => noDots (effective_eq_of_isDoubleDot h)
  noSlash := by
    rw [segmentText_eq, String.toList_ofList]
    exact not_mem_escape (by cases special <;> decide) (by decide) (by decide) _

theorem segmentText_of_dots {special : Bool} {s : String} (h : effective s = "..") :
    segmentText special s = ".." := by
  have chars : (s.toList.filter fun c => !isIgnored c) = ['.', '.'] := String.ofList_injective h
  rw [segmentText_eq, chars]
  cases special <;> rfl

/-! ## Paths -/

/-- The segments that a path begins with when others are put behind it: a mere slash has none. -/
def root (path : List String) : List String := if path = [""] then [] else path

theorem appendSegment_eq (path : List String) (s : String) :
    appendSegment path s = root path ++ [s] := by
  rw [appendSegment, root]
  by_cases h : path = [""]
  · rw [if_pos h, if_pos h, List.nil_append]
  · rw [if_neg h, if_neg h]

theorem root_append {path : List String} {s : String} (h : path ≠ [] ∨ s ≠ "") :
    root (path ++ [s]) = path ++ [s] := by
  refine if_neg fun same => ?_
  rcases List.append_eq_singleton_iff.1 same with ⟨hpath, hs⟩ | ⟨-, hs⟩
  · exact h.elim (· hpath) (· (List.singleton_inj.1 hs))
  · cases hs

theorem pushSegment_eq {special : Bool} {path : List String} {s : String}
    (h : IsSegment (segmentText special s)) :
    pushSegment special path s = root path ++ [segmentText special s] := by
  have dot : s ≠ "." := by
    rintro rfl
    exact absurd h (by cases special <;> decide)
  have dots : s ≠ ".." := by
    rintro rfl
    exact absurd h (by cases special <;> decide)
  rw [pushSegment, if_neg (by simp [dot, dots])]
  simp only [h.noDots, h.noDot, Bool.false_eq_true, if_false, appendSegment_eq]

/-- A text of which only two dots are left takes the last segment away, unless it is these two
dots. -/
theorem pushSegment_of_dots {special : Bool} {path : List String} {s : String}
    (h : effective s = "..") (hidden : s ≠ "..") : pushSegment special path s = above path := by
  have dot : s ≠ "." := by
    rintro rfl
    exact absurd h (by decide)
  rw [pushSegment, if_neg (by simp [dot, hidden]), segmentText_of_dots h]
  rfl

/-- **Segments are put behind a path as they are.** -/
theorem pushSegments_eq {special : Bool} {path segments : List String} (some : segments ≠ [])
    (plain : ∀ s ∈ segments, segmentText special s = s ∧ IsSegment s) :
    pushSegments special path segments = root path ++ segments := by
  induction segments generalizing path with
  | nil => exact absurd rfl some
  | cons s segments ih =>
    obtain ⟨same, segment⟩ := plain s List.mem_cons_self
    have step : pushSegments special path (s :: segments) =
        pushSegments special (pushSegment special path s) segments := rfl
    rw [step, pushSegment_eq (same.symm ▸ segment), same]
    -- From here on the path ends in a text that is not empty, so it is no mere slash and stays
    -- whole.
    by_cases none : segments = []
    · rw [none]
      rfl
    · rw [ih none fun t ht => plain t (List.mem_cons_of_mem s ht),
        root_append (.inr segment.nonempty), List.append_assoc, List.singleton_append]

theorem pushSegments_append (special : Bool) (path first second : List String) :
    pushSegments special path (first ++ second) =
      pushSegments special (pushSegments special path first) second := List.foldl_append

end FirewallOrder.Url
