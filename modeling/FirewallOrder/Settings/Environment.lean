import FirewallOrder.Machine.Basic
import FirewallOrder.Settings.Value
import FirewallOrder.Number.Whole
import FirewallOrder.Text.Blank
import FirewallOrder.Toml.Scalar
/-!
# Settings in the environment

A variable whose name begins with `UNIFI_`, in any case, is a setting. Its value is read by a small
grammar: truth values, numbers, strings in double quotes, characters in single quotes, lists in
brackets and tables in braces; any other text is itself, without the blanks around it. A value that
the grammar does not cover to its end is taken as it is.
-/

namespace FirewallOrder.Environment

open Text

/-! ## Values -/

def skipBlanks (cs : List Char) : List Char := cs.dropWhile isAsciiBlank

/-- The characters that end a plain text. -/
def isSeparator (c : Char) : Bool := ",\x7b\x7d[]".toList.contains c

/-- The value of a plain text: a number if it reads as one, else the text. Only a text with a point
can be a double. -/
def plainValue (cs : List Char) : SettingValue :=
  let cs := trimChars cs
  match if cs.contains '.' then Binary64.ofText? cs else none with
  | some x => .float x
  | none =>
    match Whole.readNat (Whole.bound 64 - 1) cs with
    | .ok n => .natural n
    | .error _ =>
      match Whole.readInt (Whole.bound 63) (Whole.bound 63 - 1) cs with
      | .ok n => .integer n
      | .error _ => .text (String.ofList cs)

/-- A string behind its first quote; `sofar` is in reverse. -/
def takeString : Nat → List Char → List Char → Option (String × List Char)
  | 0, _, _ => none
  | fuel + 1, sofar, cs =>
    match cs with
    | '"' :: rest => some (String.ofList sofar.reverse, rest)
    | '\\' :: rest =>
      match Toml.takeEscape rest with
      | some (c, rest) => takeString fuel (c :: sofar) rest
      | none => none
    | c :: rest => if Toml.isLineChar c then takeString fuel (c :: sofar) rest else none
    | [] => none

/-- The text behind a word that stands here. -/
def afterWord? (word : String) (cs : List Char) : Option (List Char) :=
  Toml.expectWord word.toList cs

def isKeyChar (c : Char) : Bool := Toml.isKeyChar c

/-- The text behind the key of an entry. -/
def skipKey (cs : List Char) : Option (List Char) :=
  match skipBlanks cs with
  | '"' :: rest => (takeString (rest.length + 1) [] rest).map fun (_, rest) => skipBlanks rest
  | rest =>
    match rest.span isKeyChar with
    | ([], _) => none
    | (_, rest) => some (skipBlanks rest)

mutual

/-- The value at the beginning of a text, and the text behind it. -/
def takeValue : Nat → List Char → Option (SettingValue × List Char)
  | 0, _ => none
  | fuel + 1, cs =>
    let cs := skipBlanks cs
    let value : Option (SettingValue × List Char) :=
      match afterWord? "true" cs, afterWord? "false" cs with
      | some rest, _ => some (.bool true, rest)
      | none, some rest => some (.bool false, rest)
      | none, none =>
        match cs with
        | '\x7b' :: rest => (skipItems fuel true rest).map fun rest => (.table, rest)
        | '[' :: rest => (skipItems fuel false rest).map fun rest => (.list, rest)
        | '"' :: rest =>
          (takeString (rest.length + 1) [] rest).map fun (s, rest) => (.text s, rest)
        | '\'' :: c :: '\'' :: rest => some (.text c.toString, rest)
        | '\'' :: _ => none
        | cs =>
          let (plain, rest) := cs.span fun c => !isSeparator c
          some (plainValue plain, rest)
    value.map fun (value, rest) => (value, skipBlanks rest)

/-- The text behind the items of a list, or, if `keyed`, behind the entries of a table. A separator
may stand behind the last one. -/
def skipItems : Nat → Bool → List Char → Option (List Char)
  | 0, _, _ => none
  | fuel + 1, keyed, cs =>
    let closing := if keyed then '\x7d' else ']'
    match cs with
    | [] => none
    | c :: rest =>
      if c = closing then some rest
      else do
        let rest ← if keyed then (skipKey cs).bind (Toml.expect '=') else some (c :: rest)
        let (_, rest) ← takeValue fuel rest
        match rest with
        | ',' :: rest => skipItems fuel keyed rest
        | rest => Toml.expect closing rest

end

/-- The value of a variable. -/
def readValue (s : String) : SettingValue :=
  match takeValue (2 * s.length + 2) s.toList with
  | some (value, []) => value
  | _ => .text s

/-! ## Names -/

/-- What the name of a setting begins with. -/
def namePrefix : List Char := "unifi_".toList

/-- The parts of a name between its points. -/
def nameParts : List Char → List (List Char)
  | [] => [[]]
  | c :: cs =>
    if c = '.' then [] :: nameParts cs
    else
      match nameParts cs with
      | [] => [[c]]
      | part :: parts => (c :: part) :: parts

/-- The setting that a variable sets, and whether it sets something below it. A name with an empty
part sets nothing. -/
def setting? (name : String) : Option (String × Bool) :=
  let small := (trimChars name.toList).map lower
  if namePrefix.isPrefixOf small then
    let parts := nameParts (small.drop namePrefix.length)
    if parts.any List.isEmpty then none
    else parts.head?.map fun key => (String.ofList key, parts.length ≠ 1)
  else none

/-- The settings of an environment. Of several variables for one setting the last one counts. -/
def settings (env : Variables) : List (String × SettingValue) :=
  (env.filterMap fun (name, value) =>
    (setting? name).map fun (key, below) =>
      (key, if below then .table else readValue value)).reverse

end FirewallOrder.Environment
