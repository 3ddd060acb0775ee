import FirewallOrder.Json.Record
/-!
# Orders of rules

An order lists the identities of rules as they are to be evaluated, in two parts: before the rules
that the controller brings itself, and after them.
-/

namespace FirewallOrder

open Json

/-- The identities of rules in the order of their evaluation. -/
structure RuleOrder where
  before : List String
  after : List String
  deriving DecidableEq, Repr

namespace RuleOrder

/-- Both parts, one behind the other. -/
def ids (o : RuleOrder) : List String := o.before ++ o.after

structure Draft where
  before : Option (List String) := none
  after : Option (List String) := none

def record : Record Draft RuleOrder where
  name := "DesiredOrder"
  start := {}
  fields := [
    .ofDecoder "before_predefined" false (.list .text) (·.before) fun d v =>
      { d with before := some v },
    .ofDecoder "after_predefined" false (.list .text) (·.after) fun d v =>
      { d with after := some v }]
  surplus := .passedOver
  finish := fun d => do
    let before ← require "before_predefined" d.before
    let after ← require "after_predefined" d.after
    pure ⟨before, after⟩

def decode : Decoder RuleOrder := record.decode

/-- The members of an order, as they stand in an object. -/
def members (o : RuleOrder) : List (String × Json) :=
  [("before_predefined", .arr (o.before.map .str)), ("after_predefined", .arr (o.after.map .str))]

def encode (o : RuleOrder) : Json := .obj o.members

end RuleOrder

end FirewallOrder
