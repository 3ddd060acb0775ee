/-!
# Blanks, controls and ASCII case

The character classes that names and numbers are read with. A *blank* is a character with the
Unicode property `White_Space`; a *control* is one of the category `Cc`. Case is ASCII case: a
letter outside ASCII has none here, since no name of this library holds one.
-/

namespace FirewallOrder.Text

/-! ## Classes of characters -/

/-- The characters with the Unicode property `White_Space`. -/
def isBlank (c : Char) : Bool :=
  let n := c.toNat
  (0x9 ≤ n && n ≤ 0xD) || n == 0x20 || n == 0x85 || n == 0xA0 || n == 0x1680 ||
    (0x2000 ≤ n && n ≤ 0x200A) || n == 0x2028 || n == 0x2029 || n == 0x202F || n == 0x205F ||
    n == 0x3000

/-- The control characters: the Unicode category `Cc`. -/
def isControl (c : Char) : Bool :=
  let n := c.toNat
  n < 0x20 || (0x7F ≤ n && n < 0xA0)

/-- The blanks of ASCII that separate words: space, tab, line feed, form feed, return. -/
def isAsciiBlank (c : Char) : Bool :=
  c == ' ' || c == '\t' || c == '\n' || c == '\x0c' || c == '\r'

/-! ## Trimming -/

/-- The list without the elements at its end that satisfy `p`. -/
def dropEnd {α : Type} (p : α → Bool) (xs : List α) : List α :=
  (xs.reverse.dropWhile p).reverse

/-- The text without the blanks at both its ends, as characters. -/
def trimChars (cs : List Char) : List Char :=
  dropEnd isBlank (cs.dropWhile isBlank)

/-- The text without the blanks at both its ends. -/
def trim (s : String) : String :=
  String.ofList (trimChars s.toList)

/-- No character, or blanks only. -/
def isBlankText (s : String) : Bool :=
  s.toList.all isBlank

/-! ## ASCII case -/

/-- Small ASCII letters become capital; every other character stays. -/
def upper (c : Char) : Char :=
  if 'a' ≤ c ∧ c ≤ 'z' then Char.ofNat (c.toNat - 32) else c

/-- Capital ASCII letters become small; every other character stays. -/
def lower (c : Char) : Char :=
  if 'A' ≤ c ∧ c ≤ 'Z' then Char.ofNat (c.toNat + 32) else c

/-- Every character in small ASCII letters. -/
def lowerText (s : String) : String :=
  String.ofList (s.toList.map lower)

end FirewallOrder.Text
