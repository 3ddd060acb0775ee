/-!
# The beginning of a text within a number of bytes

A message shows only the beginning of a long answer. The limit counts bytes of UTF-8, and a
character is shown whole or not at all: if the limit falls inside a character, the cut is made where
that character begins. It is looked for backwards, byte by byte.
-/

namespace FirewallOrder.Text

/-- The bytes that the characters take in UTF-8. -/
def byteCount : List Char → Nat
  | [] => 0
  | c :: cs => c.utf8Size + byteCount cs

/-- A character begins at this byte of the text, or the text ends there. -/
def IsBoundary (s : String) (n : Nat) : Prop := String.Pos.Raw.IsValid s ⟨n⟩

instance (s : String) (n : Nat) : Decidable (IsBoundary s n) :=
  inferInstanceAs (Decidable (String.Pos.Raw.IsValid s ⟨n⟩))

/-- The first boundary on the way back from a byte to the beginning, if there is one. -/
def boundaryBack? (s : String) (n : Nat) : Option Nat :=
  if IsBoundary s n then some n
  else
    match n with
    | 0 => none
    | n + 1 => boundaryBack? s n

/-- The text before a byte, unless a character would be cut in two. -/
def before? (s : String) (n : Nat) : Option String :=
  if h : IsBoundary s n then some (s.sliceTo (s.pos ⟨n⟩ h)).copy else none

/-- The beginning of a text that takes at most `limit` bytes. -/
def cut? (limit : Nat) (s : String) : Option String := do
  let place ← boundaryBack? s (min s.utf8ByteSize limit)
  before? s place

end FirewallOrder.Text
