import FirewallOrder.Text.Printable
/-!
# Quoted characters and texts

Messages show foreign text between quotes so that a reader sees where it begins and ends and which
characters it holds: the delimiter and the backslash are escaped, controls have their usual letters,
and whatever cannot be printed is written by its code point.
-/

namespace FirewallOrder.Text

/-- The digits of a number in base sixteen, small letters, no leading zero. -/
def hexText (n : Nat) : String :=
  String.ofList (Nat.toDigits 16 n)

/-- The escape that names a code point. -/
def codePointEscape (c : Char) : String :=
  "\\u\x7b" ++ hexText c.toNat ++ "\x7d"

/-- One character inside quotes. `leading` says that nothing precedes it, so that a character that
joins the one before it has to be written by its code point. -/
def escapeChar (delimiter : Char) (leading : Bool) (c : Char) : String :=
  if c == '\x00' then "\\0"
  else if c == '\t' then "\\t"
  else if c == '\r' then "\\r"
  else if c == '\n' then "\\n"
  else if c == '\\' || c == delimiter then "\\" ++ c.toString
  else if (leading && isExtending c) || !isPrintable c then codePointEscape c
  else c.toString

/-- A character between single quotes. -/
def quoteChar (c : Char) : String :=
  "'" ++ escapeChar '\'' true c ++ "'"

/-- A text between double quotes. -/
def quote (s : String) : String :=
  "\"" ++
    (match s.toList with
    | [] => ""
    | c :: cs => escapeChar '"' true c ++ String.join (cs.map (escapeChar '"' false))) ++
  "\""

end FirewallOrder.Text
