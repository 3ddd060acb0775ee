/-!
# Drift

An order can be brought about only if it lists exactly the rules there are, each once. The drift
says what differs: the rules that the order does not list, the identities that are no rule, and
those that occur more than once on either side. Its lists ascend, by the order of code points.
-/

namespace FirewallOrder

/-- The element in its place in an ascending list, unless it is there already. -/
def insertOnce (id : String) : List String → List String
  | [] => [id]
  | x :: xs => if id < x then id :: x :: xs else if id = x then x :: xs else x :: insertOnce id xs

/-- The elements of a list in ascending order, each once. -/
def sortedSet (ids : List String) : List String :=
  ids.foldr insertOnce []

/-- What differs between the rules that there are and an order. -/
structure Drift where
  unmanaged : List String
  unknown : List String
  duplicated : List String
  deriving DecidableEq, Repr

namespace Drift

/-- The identities that a list holds more than once. -/
def repeated (ids : List String) : List String :=
  ids.filter fun id => 1 < ids.count id

/-- Compares the identities that there are with those of an order. -/
def compare (current desired : List String) : Drift where
  unmanaged := sortedSet (current.filter fun id => !desired.contains id)
  unknown := sortedSet (desired.filter fun id => !current.contains id)
  duplicated := sortedSet (repeated current ++ repeated desired)

def isEmpty (r : Drift) : Bool :=
  r.unmanaged.isEmpty && r.unknown.isEmpty && r.duplicated.isEmpty

/-- The lists that are not empty, each behind its label. -/
def display (r : Drift) : String :=
  let parts :=
    [("not in configuration", r.unmanaged), ("not on controller", r.unknown),
      ("listed more than once", r.duplicated)].filter fun part => !part.2.isEmpty
  if parts.isEmpty then "no differences"
  else "; ".intercalate (parts.map fun part => part.1 ++ ": " ++ ", ".intercalate part.2)

end Drift

end FirewallOrder
