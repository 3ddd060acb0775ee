import FirewallOrder.Json.Number
/-!
# Writing JSON

A value is written in one line without blanks, or with one item or member a line, two blanks deeper
for each array and object around it. In strings only quotes, backslashes and controls are escaped.
-/

namespace FirewallOrder.Json

/-- A number of two digits in base sixteen. -/
def twoHexDigits (n : Nat) : List Char :=
  [Nat.digitChar (n / 16), Nat.digitChar (n % 16)]

/-- A character inside a string. -/
def escape (c : Char) : List Char :=
  if c = '"' then ['\\', '"']
  else if c = '\\' then ['\\', '\\']
  else if c = '\n' then ['\\', 'n']
  else if c = '\r' then ['\\', 'r']
  else if c = '\t' then ['\\', 't']
  else if c = '\x08' then ['\\', 'b']
  else if c = '\x0c' then ['\\', 'f']
  else if c < ' ' then '\\' :: 'u' :: '0' :: '0' :: twoHexDigits c.toNat
  else [c]

/-- A string with its quotes. -/
def quoted (s : String) : String :=
  "\"" ++ String.ofList (s.toList.flatMap escape) ++ "\""

mutual

/-- The value in one line. -/
def compact : Json → String
  | .null => "null"
  | .bool b => if b then "true" else "false"
  | .number n => n.text
  | .str s => quoted s
  | .arr items => "[" ++ ",".intercalate (compactItems items) ++ "]"
  | .obj members => "\x7b" ++ ",".intercalate (compactMembers members) ++ "\x7d"

def compactItems : List Json → List String
  | [] => []
  | x :: xs => compact x :: compactItems xs

def compactMembers : List (String × Json) → List String
  | [] => []
  | (k, x) :: xs => (quoted k ++ ":" ++ compact x) :: compactMembers xs

end

/-- A new line that many blanks deep. -/
def newLine (depth : Nat) : String := "\n" ++ String.ofList (List.replicate depth ' ')

/-- Items between brackets, each in a line of its own. -/
def block (opening closing : String) (depth : Nat) (items : List String) : String :=
  if items.isEmpty then opening ++ closing
  else
    opening ++ ",".intercalate (items.map (newLine (depth + 2) ++ ·)) ++ newLine depth ++ closing

mutual

/-- The value over several lines, that many blanks deep. -/
def prettyAt (depth : Nat) : Json → String
  | .null => "null"
  | .bool b => if b then "true" else "false"
  | .number n => n.text
  | .str s => quoted s
  | .arr items => block "[" "]" depth (prettyItems (depth + 2) items)
  | .obj members => block "\x7b" "\x7d" depth (prettyMembers (depth + 2) members)

def prettyItems (depth : Nat) : List Json → List String
  | [] => []
  | x :: xs => prettyAt depth x :: prettyItems depth xs

def prettyMembers (depth : Nat) : List (String × Json) → List String
  | [] => []
  | (k, x) :: xs => (quoted k ++ ": " ++ prettyAt depth x) :: prettyMembers depth xs

end

/-- The value over several lines. -/
def pretty (value : Json) : String := prettyAt 0 value

end FirewallOrder.Json
