/-!
# Escapes of URLs

A character that must not stand at some place of a URL is written as the bytes of its UTF-8 form,
each as a percent sign and two digits in base sixteen. Which characters those are depends on the
place: each place has its set. Characters outside ASCII and controls are in every set.
-/

namespace FirewallOrder.Url

/-! ## Writing -/

/-- A digit in base sixteen, capital letters. -/
def hexDigit (n : Nat) : Char :=
  if n < 10 then Char.ofNat ('0'.toNat + n) else Char.ofNat ('A'.toNat + (n - 10))

/-- A byte as an escape. -/
def escapeByte (b : UInt8) : List Char :=
  ['%', hexDigit (b.toNat / 16), hexDigit (b.toNat % 16)]

/-- A character as the escapes of its bytes. -/
def escapeChar (c : Char) : List Char :=
  (String.utf8EncodeChar c).flatMap escapeByte

/-- The text with the characters of a set escaped. -/
def escape (set : Char → Bool) (cs : List Char) : List Char :=
  cs.flatMap fun c => if set c then escapeChar c else [c]

/-! ## The sets -/

/-- Controls, and everything outside ASCII. -/
def inControlSet (c : Char) : Bool := c < ' ' || '\x7e' < c

def inFragmentSet (c : Char) : Bool := inControlSet c || " \"<>`".toList.contains c

def inPathSet (c : Char) : Bool := inFragmentSet c || "#?\x7b\x7d".toList.contains c

/-- What cannot stand in one segment of a path. -/
def inSegmentSet (c : Char) : Bool := inPathSet c || c == '/' || c == '%'

/-- What cannot stand in one segment of a path when a backslash is read as a slash. -/
def inSpecialSegmentSet (c : Char) : Bool := inSegmentSet c || c == '\\'

def inUserSet (c : Char) : Bool := inPathSet c || "/:;=@[\\]^|".toList.contains c

def inQuerySet (c : Char) : Bool := inControlSet c || " \"#<>".toList.contains c

def inSpecialQuerySet (c : Char) : Bool := inQuerySet c || c == '\''

/-! ## Reading -/

/-- The value of a digit in base sixteen. -/
def hexValue? (c : Char) : Option Nat :=
  if '0' ≤ c ∧ c ≤ '9' then some (c.toNat - '0'.toNat)
  else if 'a' ≤ c ∧ c ≤ 'f' then some (c.toNat - 'a'.toNat + 10)
  else if 'A' ≤ c ∧ c ≤ 'F' then some (c.toNat - 'A'.toNat + 10)
  else none

/-- The bytes of a text in which escapes stand for bytes; a percent sign without two digits behind
it stands for itself. -/
def unescapeBytes : List Char → List UInt8
  | '%' :: a :: b :: rest =>
    match hexValue? a, hexValue? b with
    | some x, some y => UInt8.ofNat (x * 16 + y) :: unescapeBytes rest
    | _, _ => String.utf8EncodeChar '%' ++ unescapeBytes (a :: b :: rest)
  | c :: rest => String.utf8EncodeChar c ++ unescapeBytes rest
  | [] => []

/-- The text whose escapes are read, if its bytes are UTF-8. -/
def unescape? (cs : List Char) : Option String :=
  String.fromUTF8? ⟨(unescapeBytes cs).toArray⟩

/-! ## What is left of a set -/

theorem mem_escape {set : Char → Bool} {x : Char} {cs : List Char} (h : x ∈ escape set cs) :
    (x ∈ cs ∧ set x = false) ∨ x = '%' ∨ ∃ n < 16, x = hexDigit n := by
  obtain ⟨c, hc, hx⟩ := List.mem_flatMap.1 h
  by_cases hset : set c = true
  · rw [if_pos hset] at hx
    obtain ⟨b, -, hx⟩ := List.mem_flatMap.1 hx
    have hb : b.toNat < 256 := b.toNat_lt
    simp only [escapeByte, List.mem_cons, List.not_mem_nil, or_false] at hx
    rcases hx with hx | hx | hx
    · exact .inr (.inl hx)
    · exact .inr (.inr ⟨_, by omega, hx⟩)
    · exact .inr (.inr ⟨_, by omega, hx⟩)
  · rw [if_neg hset, List.mem_singleton] at hx
    subst hx
    exact .inl ⟨hc, by simpa using hset⟩

end FirewallOrder.Url
