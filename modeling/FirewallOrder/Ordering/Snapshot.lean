import FirewallOrder.Rule.Basic
import FirewallOrder.Ordering.Order
/-!
# Snapshots

The rules of a ruleset that can be put in order sit in two bands of indices, around the rules that
the controller brings itself. A snapshot lists the rules of both bands by ascending index; rules
with the same index stay in the order in which they were listed. Rules outside the bands are left
out.

A rule is looked up by where it sits. When an identity occurs more than once, the last place in the
order of evaluation counts.
-/

namespace FirewallOrder

/-! ## Bands -/

/-- Where a rule runs: before the rules that the controller brings, or after them. -/
inductive Band
  | before
  | after
  deriving DecidableEq, Repr

namespace Band

/-- The number of indices in a band. -/
def width : Nat := 1000

/-- The first index of a band. -/
def base : Band → Int
  | before => 2000
  | after => 4000

/-- The band holds an index. -/
def Holds (b : Band) (index : Int) : Prop := b.base ≤ index ∧ index < b.base + width

instance (b : Band) (index : Int) : Decidable (b.Holds index) :=
  inferInstanceAs (Decidable (_ ∧ _))

/-- The band that holds an index, if one does. -/
def ofIndex? (index : Int) : Option Band :=
  [before, after].find? fun b => b.Holds index

/-- The side of the predefined rules, in words. -/
def side : Band → String
  | before => "before the predefined rules"
  | after => "after the predefined rules"

end Band

/-! ## Snapshots -/

/-- A rule reduced to what its place depends on. -/
structure PlacedRule where
  id : String
  index : Int
  deriving DecidableEq, Repr

def Rule.placed (r : Rule) : PlacedRule := ⟨r.id, r.index⟩

/-- The rules of both bands, each by ascending index. -/
structure Snapshot where
  before : List PlacedRule
  after : List PlacedRule
  deriving DecidableEq, Repr

namespace Snapshot

/-- The rules of a band among those listed, by ascending index; those with the same index keep their
order. -/
def layOut (b : Band) (rules : List Rule) : List PlacedRule :=
  ((rules.filter fun r => b.Holds r.index).map Rule.placed).mergeSort fun r s => r.index ≤ s.index

/-- The snapshot of the rules of one ruleset. -/
def ofRules (rules : List Rule) : Snapshot :=
  ⟨layOut .before rules, layOut .after rules⟩

/-- The rules of one band. -/
def band (s : Snapshot) : Band → List PlacedRule
  | .before => s.before
  | .after => s.after

/-- The identities in the order of evaluation, with or without each band. -/
def ids (s : Snapshot) (before after : Bool) : List String :=
  ((if before then s.before else []) ++ (if after then s.after else [])).map (·.id)

def size (s : Snapshot) : Nat := s.before.length + s.after.length

def isEmpty (s : Snapshot) : Bool := s.size == 0

/-- The order in which the rules are now. -/
def order (s : Snapshot) : RuleOrder := ⟨s.ids true false, s.ids false true⟩

/-- Every identity with its band and its place there, in the order of evaluation. -/
def places (s : Snapshot) : List (String × Band × Nat) :=
  s.before.mapIdx (fun i r => (r.id, .before, i)) ++ s.after.mapIdx (fun i r => (r.id, .after, i))

/-- The band and the place of an identity: the last, if there are several. -/
def locate? (s : Snapshot) (id : String) : Option (Band × Nat) :=
  (s.places.findRev? fun p => p.1 == id).map (·.2)

/-- The rule of an identity. -/
def get? (s : Snapshot) (id : String) : Option PlacedRule := do
  let (b, i) ← s.locate? id
  (s.band b)[i]?

/-- The index of an identity. -/
def indexOf? (s : Snapshot) (id : String) : Option Int :=
  (s.get? id).map (·.index)

end Snapshot

end FirewallOrder
