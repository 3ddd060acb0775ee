import FirewallOrder.Ruleset
import FirewallOrder.Ordering.Snapshot
/-!
# Configurations of a ruleset

A configuration names a ruleset, perhaps with its site, and lists its rules in the order wanted. It
is written as an object. The object's shape is checked first, then the site, the name of the
ruleset, and the two lists, each for its length and for identities that are blank. Identities that
are repeated are no fault here: they show as drift.
-/

namespace FirewallOrder

open Json

/-- The order wanted for a ruleset. Without a site the site is left to the provider. -/
structure RulesetConfig where
  site : Option String
  ruleset : Ruleset
  order : RuleOrder
  deriving DecidableEq, Repr

/-- Why an object is no configuration. -/
inductive ConfigFault
  | shape (error : DecodeError)
  | site (fault : SiteFault)
  | ruleset (raw : String)
  | tooMany (band : Band) (n : Nat)
  | blankId (band : Band) (place : Nat)
  deriving DecidableEq, Repr

/-- The name of the list of a band. -/
def Band.listName : Band → String
  | .before => "before_predefined"
  | .after => "after_predefined"

def ConfigFault.message : ConfigFault → String
  | .shape error => "invalid firewall ruleset configuration: " ++ error.message
  | .site fault => fault.message
  | .ruleset raw => Ruleset.unknownMessage raw
  | .tooMany band n =>
    band.listName ++ " lists " ++ toString n ++ " rules, at most " ++ toString Band.width ++
      " are allowed"
  | .blankId band place => band.listName ++ "[" ++ toString place ++ "] is an empty rule ID"

namespace RulesetConfig

/-- A configuration of which only the shape is checked. -/
structure Raw where
  site : Option String
  ruleset : String
  before : List String
  after : List String
  deriving DecidableEq, Repr

structure Raw.Draft where
  site : Option (Option String) := none
  ruleset : Option String := none
  before : Option (List String) := none
  after : Option (List String) := none

def Raw.record : Record Raw.Draft Raw where
  name := "RawConfig"
  start := {}
  fields := [
    .ofDecoder "site" true (.optional .text) (·.site) fun d v => { d with site := some v },
    .ofDecoder "ruleset" false .text (·.ruleset) fun d v => { d with ruleset := some v },
    .ofDecoder "before_predefined" true (.list .text) (·.before) fun d v =>
      { d with before := some v },
    .ofDecoder "after_predefined" true (.list .text) (·.after) fun d v =>
      { d with after := some v }]
  surplus := .refused
  finish := fun d => do
    let ruleset ← require "ruleset" d.ruleset
    pure ⟨d.site.getD none, ruleset, d.before.getD [], d.after.getD []⟩

/-- The identities of a band are few enough and none is blank. -/
def checkIds (band : Band) (ids : List String) : Except ConfigFault Unit :=
  if Band.width < ids.length then .error (.tooMany band ids.length)
  else
    match ids.findIdx? Text.isBlankText with
    | some place => .error (.blankId band place)
    | none => .ok ()

/-- The site, if there is one, has a site's name. -/
def checkSite : Option String → Except ConfigFault Unit
  | none => .ok ()
  | some site =>
    match Site.fault? site with
    | some fault => .error (.site fault)
    | none => .ok ()

/-- The checks of a configuration whose shape is right. -/
def ofRaw (raw : Raw) : Except ConfigFault RulesetConfig := do
  checkSite raw.site
  match Ruleset.ofName? raw.ruleset with
  | none => throw (.ruleset raw.ruleset)
  | some ruleset =>
    checkIds .before raw.before
    checkIds .after raw.after
    pure ⟨raw.site, ruleset, ⟨raw.before, raw.after⟩⟩

/-- The configuration that a value describes. -/
def decode (value : Json) : Except ConfigFault RulesetConfig :=
  match decodeValue Raw.record.decode value with
  | .error error => .error (.shape error)
  | .ok raw => ofRaw raw

/-- The ruleset that the configuration is about. -/
def target (c : RulesetConfig) (defaultSite : String) : RulesetId :=
  ⟨c.site.getD defaultSite, c.ruleset⟩

end RulesetConfig

end FirewallOrder
