import FirewallOrder.Ruleset
import FirewallOrder.Ordering.Snapshot
import FirewallOrder.Ordering.Drift
import FirewallOrder.Controller.Error
/-!
# Plans

A plan is the list of changes that bring the rules of a snapshot into an order: the rule at place
`i` of a part gets the index at place `i` of its band. A rule that is there already is not changed.
There is no plan unless the order lists exactly the rules of the snapshot, each once.
-/

namespace FirewallOrder

/-- Why an operation on the order of a ruleset failed. -/
inductive OrderingError
  | drift (site : String) (ruleset : Ruleset) (report : Drift)
  | ruleMissing (id : String) (ruleset : Ruleset)
  | invalid (message : String)
  | badId (id : String) (reason : String)
  | controller (error : ControllerError)
  deriving DecidableEq, Repr

namespace OrderingError

def message : OrderingError → String
  | drift site ruleset report =>
    "firewall rules in ruleset " ++ ruleset.spelling ++ " for site " ++ site ++
      " do not match the configured order (" ++ report.display ++ ")"
  | ruleMissing id ruleset =>
    "firewall rule " ++ id ++ " not found in ruleset " ++ ruleset.spelling ++
      " (state out of date?)"
  | invalid m => "Validation failed: " ++ m
  | badId id reason =>
    "invalid import ID '" ++ id ++ "': " ++ reason ++ " (expected <site>:<ruleset>)"
  | controller error => error.message

/-- The same order can never be brought about: it has to be written anew. -/
def needsOtherOrder : OrderingError → Bool
  | drift .. | invalid _ | badId .. => true
  | ruleMissing .. | controller _ => false

end OrderingError

namespace Snapshot

/-- The change that gives a rule an index, unless it has that index. -/
def move (s : Snapshot) (ruleset : Ruleset) (id : String) (index : Int) :
    Except OrderingError (List IndexUpdate) :=
  match s.indexOf? id with
  | none => .error (.ruleMissing id ruleset)
  | some current => .ok (if current = index then [] else [⟨id, index⟩])

/-- The changes that give rules the indices from some index on. -/
def moveFrom (s : Snapshot) (ruleset : Ruleset) :
    Int → List String → Except OrderingError (List IndexUpdate)
  | _, [] => .ok []
  | index, id :: ids => do
    let first ← s.move ruleset id index
    let rest ← s.moveFrom ruleset (index + 1) ids
    pure (first ++ rest)

/-- The changes that put rules into a band, in this order. -/
def updatesIn (s : Snapshot) (ruleset : Ruleset) (band : Band) (ids : List String) :
    Except OrderingError (List IndexUpdate) :=
  if Band.width < ids.length then
    .error (.invalid (toString ids.length ++ " rules configured " ++ band.side ++ ", at most " ++
      toString Band.width ++ " fit"))
  else s.moveFrom ruleset band.base ids

/-- The changes for both bands. -/
def updates (s : Snapshot) (ruleset : Ruleset) (order : RuleOrder) :
    Except OrderingError (List IndexUpdate) := do
  let before ← s.updatesIn ruleset .before order.before
  let after ← s.updatesIn ruleset .after order.after
  pure (before ++ after)

/-- What differs between the rules of the snapshot and an order. -/
def drift (s : Snapshot) (desired : RuleOrder) : Drift :=
  .compare (s.ids true true) desired.ids

/-- The changes that bring the rules into an order, if it lists exactly these rules. -/
def plan (s : Snapshot) (id : RulesetId) (desired : RuleOrder) :
    Except OrderingError (List IndexUpdate) :=
  let report := s.drift desired
  if report.isEmpty then s.updates id.ruleset desired
  else .error (.drift id.site id.ruleset report)

end Snapshot

end FirewallOrder
