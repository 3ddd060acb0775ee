import FirewallOrder.Json.Record
import FirewallOrder.Text.Blank
/-!
# Firewall rules

A rule as the controller lists it: who it is, which ruleset it belongs to, its index there, and the
few fields an operator looks at. All other members of the object are kept as they are.

The index is read kindly, since controllers write it in several ways (`RuleIndex.decode`). A change
of index names a rule and its new index, which is written as a text of digits.
-/

namespace FirewallOrder

open Json

/-! ## Indices -/

namespace RuleIndex

/-- The indices that there are: 32 bits with a sign. -/
def IsIndex (n : Int) : Prop := -(Whole.bound 31 : Int) ≤ n ∧ n < Whole.bound 31

instance (n : Int) : Decidable (IsIndex n) := inferInstanceAs (Decidable (_ ∧ _))

/-- The index that a whole number means. -/
def ofInt (n : Int) : Except Mismatch Int :=
  if (Whole.bound 63 : Int) ≤ n ∨ n < -(Whole.bound 63 : Int) then .error (.noVariant "IntOrString")
  else if (Whole.bound 31 : Int) ≤ n then .error (.number .tooLarge)
  else if n < -(Whole.bound 31 : Int) then .error (.number .tooSmall)
  else .ok n

/-- The index that a text means: blanks around it do not count, and none at all means zero. -/
def ofText (s : String) : Except Mismatch Int :=
  match Text.trimChars s.toList with
  | [] => .ok 0
  | cs =>
    match Whole.readInt (Whole.bound 31) (Whole.bound 31 - 1) cs with
    | .ok n => .ok n
    | .error fault => .error (.number fault)

/-- The index that a value means: a whole number, a text, or null for zero. -/
def ofJson : Json → Except Mismatch Int
  | .null => .ok 0
  | .number (.int n) => ofInt n
  | .str s => ofText s
  | _ => .error (.noVariant "IntOrString")

/-- The whole value is read before it is looked at. -/
def decode : Decoder Int := fun origin document => do
  let value ← Decoder.json origin document
  Record.liftMismatch (ofJson value)

end RuleIndex

/-! ## Rules -/

/-- A rule of a site. -/
structure Rule where
  id : String
  siteId : Option String
  name : Option String
  /-- The spelling of the ruleset that the rule belongs to. -/
  ruleset : String
  index : Int
  action : Option String
  enabled : Bool
  protocol : Option String
  logging : Bool
  /-- The members of the object that are none of the above. -/
  extra : Object
  deriving DecidableEq

namespace Rule

/-- What is read of a rule so far. -/
structure Draft where
  id : Option String := none
  siteId : Option (Option String) := none
  name : Option (Option String) := none
  ruleset : Option String := none
  index : Option Int := none
  action : Option (Option String) := none
  enabled : Option Bool := none
  protocol : Option (Option String) := none
  logging : Option Bool := none
  extra : Object := .empty

/-- A rule needs its identity; every other field has a value that stands for none. -/
def Draft.finish (d : Draft) : Except Mismatch Rule := do
  let id ← require "_id" d.id
  pure {
    id := id
    siteId := d.siteId.getD none
    name := d.name.getD none
    ruleset := d.ruleset.getD ""
    index := d.index.getD 0
    action := d.action.getD none
    enabled := d.enabled.getD false
    protocol := d.protocol.getD none
    logging := d.logging.getD false
    extra := d.extra }

def record : Record Draft Rule where
  name := "FirewallRule"
  start := {}
  fields := [
    .ofDecoder "_id" false Decoder.text (·.id) fun d v => { d with id := some v },
    .ofDecoder "site_id" true (.optional .text) (·.siteId) fun d v => { d with siteId := some v },
    .ofDecoder "name" true (.optional .text) (·.name) fun d v => { d with name := some v },
    .ofDecoder "ruleset" true .text (·.ruleset) fun d v => { d with ruleset := some v },
    .ofDecoder "rule_index" true RuleIndex.decode (·.index) fun d v => { d with index := some v },
    .ofDecoder "action" true (.optional .text) (·.action) fun d v => { d with action := some v },
    .ofDecoder "enabled" true .bool (·.enabled) fun d v => { d with enabled := some v },
    .ofDecoder "protocol" true (.optional .text) (·.protocol) fun d v =>
      { d with protocol := some v },
    .ofDecoder "logging" true .bool (·.logging) fun d v => { d with logging := some v }]
  surplus := .kept fun d name value => { d with extra := d.extra.insert name value }
  finish := Draft.finish

def decode : Decoder Rule := record.decode

/-- A text, or null for none. -/
def optionalText : Option String → Json
  | some s => .str s
  | none => .null

/-- The rule as an object: its nine fields, then the other members. -/
def encode (r : Rule) : Json :=
  .obj ([("_id", .str r.id),
    ("site_id", optionalText r.siteId),
    ("name", optionalText r.name),
    ("ruleset", .str r.ruleset),
    ("rule_index", .number (.int r.index)),
    ("action", optionalText r.action),
    ("enabled", .bool r.enabled),
    ("protocol", optionalText r.protocol),
    ("logging", .bool r.logging)] ++ r.extra.members)

end Rule

/-! ## Changes of index -/

/-- A rule and its new index. -/
structure IndexUpdate where
  id : String
  index : Int
  deriving DecidableEq, Repr

namespace IndexUpdate

structure Draft where
  id : Option String := none
  index : Option Int := none

def record : Record Draft IndexUpdate where
  name := "FirewallRuleIndexUpdate"
  start := {}
  fields := [
    .ofDecoder "_id" false Decoder.text (·.id) fun d v => { d with id := some v },
    .ofDecoder "rule_index" false RuleIndex.decode (·.index) fun d v => { d with index := some v }]
  surplus := .passedOver
  finish := fun d => do
    let id ← require "_id" d.id
    let index ← require "rule_index" d.index
    pure ⟨id, index⟩

def decode : Decoder IndexUpdate := record.decode

/-- The new index is written as a text: that is what the controller expects. -/
def encode (u : IndexUpdate) : Json :=
  .obj [("_id", .str u.id), ("rule_index", .str (toString u.index))]

end IndexUpdate

end FirewallOrder
