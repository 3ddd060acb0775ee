import FirewallOrder.Managed.Config
import FirewallOrder.Managed.State
import FirewallOrder.Ordering.Reconcile
/-!
# Operations on a ruleset

A ruleset is managed as one object: it is created from a configuration, updated to another order,
read, imported by its identifier, and forgotten again. Every operation asks the controller anew.

When `create` or `update` fails, the state is read once more, so that what the failure left behind
is known; a failure of this reading is not reported.
-/

namespace FirewallOrder

/-- A change that is not made yet: the order now, the order wanted, and what would be sent. -/
structure PlannedChange where
  id : RulesetId
  current : RuleOrder
  desired : RuleOrder
  updates : List IndexUpdate
  deriving DecidableEq, Repr

/-- There is nothing to send. -/
def PlannedChange.isEmpty (p : PlannedChange) : Bool := p.updates.isEmpty

/-- The plan as an object. -/
def PlannedChange.encode (p : PlannedChange) : Json :=
  .obj [("id", .str p.id.display), ("current", p.current.encode), ("desired", p.desired.encode),
    ("updates", .arr (p.updates.map IndexUpdate.encode))]

/-- What was sent, and the state that was read back. -/
structure AppliedChange where
  updates : List IndexUpdate
  state : RulesetState
  deriving DecidableEq, Repr

/-- The result as an object: what was sent, and then the members of the state. -/
def AppliedChange.encode (a : AppliedChange) : Json :=
  .obj (("updates", .arr (a.updates.map IndexUpdate.encode)) :: a.state.members)

/-- Why an order was not brought about, and the state after the failure, if it could be read. -/
structure ApplyFailure where
  error : OrderingError
  refreshed : Option RulesetState
  deriving DecidableEq, Repr

namespace Operation

/-- The state of a ruleset. -/
def readState (id : RulesetId) : Operation OrderingError RulesetState := do
  let found ← snapshot id
  pure (.ofOrder id found.order)

/-- What would be sent to bring a configured order about. -/
def plan (defaultSite : String) (config : RulesetConfig) :
    Operation OrderingError PlannedChange := do
  let id := config.target defaultSite
  let found ← snapshot id
  let updates ← ofExcept (found.plan id config.order)
  pure ⟨id, found.order, config.order, updates⟩

/-- The failure of an operation on a ruleset, with the state that it left behind. -/
def failure {α : Type} (id : RulesetId) (error : OrderingError) : Operation ApplyFailure α :=
  ExceptT.mk ((readState id).run.bind fun state => .done (.error ⟨error, state.toOption⟩))

/-- Brings a configured order about. -/
def create (defaultSite : String) (config : RulesetConfig) :
    Operation ApplyFailure AppliedChange :=
  let id := config.target defaultSite
  ExceptT.mk ((apply id config.order).run.bind fun outcome =>
    match outcome with
    | .ok done => .done (.ok ⟨done.updates, .ofOrder id done.snapshot.order⟩)
    | .error error => failure id error)

/-- Brings a changed order about. The ruleset of an object and its site stay the same. -/
def update (defaultSite : String) (prior : RulesetState) (config : RulesetConfig) :
    Operation ApplyFailure AppliedChange :=
  let id := config.target defaultSite
  if id = prior.target then create defaultSite config
  else
    ofExcept (.error ⟨.invalid ("cannot move firewall ruleset " ++ prior.id ++ " to " ++
      id.display ++ "; site and ruleset are fixed"), none⟩)

/-- The state of an object as it is now. -/
def read (state : RulesetState) : Operation OrderingError RulesetState :=
  readState state.target

/-- The state of the ruleset with this identifier. -/
def importId (raw : String) : Operation OrderingError RulesetState :=
  match RulesetId.ofText raw with
  | .ok id => readState id
  | .error fault => ofExcept (.error (.badId raw fault.message))

/-- Forgets an object. Its rules stay where they are. -/
def delete (_state : RulesetState) : Operation OrderingError Unit :=
  ofExcept (.ok ())

end Operation

end FirewallOrder
