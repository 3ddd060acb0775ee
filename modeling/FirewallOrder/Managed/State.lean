import FirewallOrder.Ruleset
import FirewallOrder.Ordering.Snapshot
/-!
# States of a ruleset

What is recorded of a ruleset after an operation: its identifier, the site and the ruleset, and the
order of its rules as it was read from the controller.
-/

namespace FirewallOrder

open Json

/-- What is recorded of a ruleset. -/
structure RulesetState where
  id : String
  site : String
  ruleset : Ruleset
  order : RuleOrder
  deriving DecidableEq, Repr

/-- A ruleset by its spelling. -/
def Ruleset.decode : Decoder Ruleset :=
  .variant (Ruleset.all.map Ruleset.spelling) Ruleset.ofSpelling?

namespace RulesetState

/-- The state of a ruleset whose rules are in an order. -/
def ofOrder (id : RulesetId) (order : RuleOrder) : RulesetState :=
  ⟨id.display, id.site, id.ruleset, order⟩

/-- The ruleset that the state is about. -/
def target (s : RulesetState) : RulesetId := ⟨s.site, s.ruleset⟩

structure Draft where
  id : Option String := none
  site : Option String := none
  ruleset : Option Ruleset := none
  before : Option (List String) := none
  after : Option (List String) := none

def record : Record Draft RulesetState where
  name := "FirewallRulesetState"
  start := {}
  fields := [
    .ofDecoder "id" false Decoder.text (·.id) fun d v => { d with id := some v },
    .ofDecoder "site" false .text (·.site) fun d v => { d with site := some v },
    .ofDecoder "ruleset" false Ruleset.decode (·.ruleset) fun d v => { d with ruleset := some v },
    .ofDecoder "before_predefined" false (.list .text) (·.before) fun d v =>
      { d with before := some v },
    .ofDecoder "after_predefined" false (.list .text) (·.after) fun d v =>
      { d with after := some v }]
  surplus := .passedOver
  finish := fun d => do
    let id ← require "id" d.id
    let site ← require "site" d.site
    let ruleset ← require "ruleset" d.ruleset
    let before ← require "before_predefined" d.before
    let after ← require "after_predefined" d.after
    pure ⟨id, site, ruleset, ⟨before, after⟩⟩

def decode : Decoder RulesetState := record.decode

/-- The members of a state, as they stand in an object. -/
def members (s : RulesetState) : List (String × Json) :=
  [("id", .str s.id), ("site", .str s.site), ("ruleset", .str s.ruleset.spelling)] ++
    s.order.members

def encode (s : RulesetState) : Json := .obj s.members

end RulesetState

end FirewallOrder
