import FirewallOrder.Json.Number
import FirewallOrder.Yaml.Scalar
/-!
# Writing YAML

A value is written in blocks: each member of an object and each item of an array begins a line.
Objects are two blanks deeper than what they stand in, the items of an array as deep as its key.
Keys are written as they are.
-/

namespace FirewallOrder.Yaml

/-- A value in one line, unless it has lines itself. -/
def leaf (depth : Nat) : Json → Option String
  | .null => some "null\n"
  | .bool b => some (if b then "true\n" else "false\n")
  | .number n => some (n.text ++ "\n")
  | .str s => some (scalar depth s)
  | .arr [] => some "[]\n"
  | .obj [] => some "\x7b\x7d\n"
  | .arr (_ :: _) => none
  | .obj (_ :: _) => none

def indentText (depth : Nat) : String := String.ofList (indent depth)

mutual

/-- A value whose first line has been indented already. -/
def node (depth : Nat) : Json → String
  | .arr (x :: xs) => (indentText depth).intercalate (items depth (x :: xs))
  | .obj (m :: ms) => (indentText depth).intercalate (members depth (m :: ms))
  | value => (leaf depth value).getD ""

def items (depth : Nat) : List Json → List String
  | [] => []
  | x :: xs =>
    let text :=
      match leaf depth x with
      | some line => line
      | none => node (depth + stride) x
    ("- " ++ text) :: items depth xs

def members (depth : Nat) : List (String × Json) → List String
  | [] => []
  | (key, value) :: ms =>
    let text :=
      match leaf depth value with
      | some line => " " ++ line
      | none =>
        let inner :=
          match value with
          | .arr _ => depth
          | _ => depth + stride
        "\n" ++ indentText inner ++ node inner value
    (key ++ ":" ++ text) :: members depth ms

end

/-- A value as a document. -/
def document (value : Json) : String := node 0 value

end FirewallOrder.Yaml
