import Mathlib.Data.List.TakeWhile
import FirewallOrder.Url.Basic
import FirewallOrder.Proofs.Url.Escape

/-!
# Paths of web URLs

A path of segments without slashes is determined by the way it is written (`segments_injective`).
Whether a path ends in a slash is seen at its last segment, which is empty then.
-/

namespace FirewallOrder.Url

/-! ## Writing -/

theorem toList_pathText (segments : List String) :
    (pathText (.segments segments)).toList = segments.flatMap fun s => '/' :: s.toList := by
  simp [pathText, List.flatMap_map]

theorem pathText_append (front back : List String) :
    pathText (.segments (front ++ back)) =
      pathText (.segments front) ++ pathText (.segments back) := by
  simp [pathText]

/-- What is written behind a segment begins with a slash or is nothing. -/
theorem takeWhile_segment {s : String} (noSlash : '/' ∉ s.toList) (rest : List String) :
    (s.toList ++ rest.flatMap fun s => '/' :: s.toList).takeWhile (· != '/') = s.toList := by
  have plain : ∀ c ∈ s.toList, (c != '/') = true := by
    intro c hc
    rw [bne_iff_ne]
    rintro rfl
    exact noSlash hc
  rw [List.takeWhile_append_of_pos plain]
  cases rest <;> simp

theorem segments_injective {front back : List String} (hfront : ∀ s ∈ front, '/' ∉ s.toList)
    (hback : ∀ s ∈ back, '/' ∉ s.toList)
    (h : pathText (.segments front) = pathText (.segments back)) : front = back := by
  have chars := congrArg String.toList h
  rw [toList_pathText, toList_pathText] at chars
  clear h
  induction front generalizing back with
  | nil =>
    cases back with
    | nil => rfl
    | cons t back => simp at chars
  | cons s front ih =>
    cases back with
    | nil => simp at chars
    | cons t back =>
      simp only [List.flatMap_cons, List.cons_append, List.cons.injEq, true_and] at chars
      have first : s.toList = t.toList := by
        rw [← takeWhile_segment (hfront s List.mem_cons_self) front, chars,
          takeWhile_segment (hback t List.mem_cons_self) back]
      rw [first, List.append_cancel_left_eq] at chars
      rw [String.toList_inj.1 first, ih (fun x hx => hfront x (List.mem_cons_of_mem _ hx))
        (fun x hx => hback x (List.mem_cons_of_mem _ hx)) chars]

/-! ## Slashes at the end -/

/-- The text ends in a slash. -/
def EndsInSlash (text : String) : Prop := text.toList.getLast? = some '/'

/-- The text without one slash at its end. -/
def lessSlash (text : String) : List Char :=
  if text.toList.getLast? = some '/' then text.toList.dropLast else text.toList

theorem endsInSlash_of_last {segments : List String} (h : segments.getLast? = some "") :
    EndsInSlash (pathText (.segments segments)) := by
  obtain ⟨front, rfl⟩ := List.getLast?_eq_some_iff.1 h
  rw [EndsInSlash, pathText_append, String.toList_append, toList_pathText [""]]
  simp

theorem lessSlash_isPrefix (text : String) : lessSlash text <+: text.toList := by
  rw [lessSlash]
  split
  · exact List.dropLast_prefix _
  · exact List.prefix_rfl

theorem lessSlash_append_slash (text : String) : lessSlash (text ++ "/") = text.toList := by
  simp [lessSlash]

end FirewallOrder.Url
