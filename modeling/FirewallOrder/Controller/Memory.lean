import FirewallOrder.Ordering.Reconcile
/-!
# A controller in memory

The rules of some sites, kept as a list for each site, and the answers of a controller that holds
them: a site's rules as they stand, and new indices for the rules of one ruleset.

`Faulty` is such a controller whose calls can be made to fail.
-/

namespace FirewallOrder

/-- The sites of a controller and the rules of each. -/
structure Memory where
  sites : List (String × List Rule)
  deriving DecidableEq

namespace Memory

/-- The rules of a site, if there is such a site. -/
def rules? (m : Memory) (site : String) : Option (List Rule) :=
  (m.sites.find? fun s => s.1 == site).map (·.2)

/-- The rule with the index of the first update for it, if it belongs to the ruleset. -/
def reindex (ruleset : Ruleset) (updates : List IndexUpdate) (rule : Rule) : Rule :=
  if rule.ruleset == ruleset.spelling then
    match updates.find? fun u => u.id == rule.id with
    | some u => { rule with index := u.index }
    | none => rule
  else rule

/-- The controller after the rules of one ruleset of a site got new indices. -/
def reorder (m : Memory) (site : String) (ruleset : Ruleset) (updates : List IndexUpdate) :
    Memory :=
  ⟨m.sites.map fun s => if s.1 == site then (s.1, s.2.map (reindex ruleset updates)) else s⟩

/-- The controller with the rules of a site replaced, or the site removed. -/
def setRules (m : Memory) (site : String) (rules : Option (List Rule)) : Memory :=
  let others := m.sites.filter fun s => s.1 != site
  match rules with
  | none => ⟨others⟩
  | some rules =>
    if m.sites.any fun s => s.1 == site then
      ⟨m.sites.map fun s => if s.1 == site then (site, rules) else s⟩
    else ⟨m.sites ++ [(site, rules)]⟩

/-- What is said of a site that the controller does not know. -/
def unknownSite : ControllerError := .refused "api.err.NoSiteContext"

/-- The answer to a call, and the controller after it. -/
def answer (call : Call) (m : Memory) : call.Answer × Memory :=
  match call with
  | .list site =>
    match m.rules? site with
    | some rules => (.ok rules, m)
    | none => (.error unknownSite, m)
  | .reorder site ruleset updates => (.ok (), m.reorder site ruleset updates)

end Memory

/-! ## A controller that can fail -/

/-- How the calls of a controller fail. -/
structure Outage where
  /-- Every change is refused with this message. -/
  reorder : Option String := none
  /-- So many more listings succeed. -/
  listsLeft : Option Nat := none
  /-- Changes are taken and have no effect. -/
  ignoreWrites : Bool := false
  deriving DecidableEq, Repr

/-- A controller in memory whose calls can fail. -/
structure Faulty where
  memory : Memory
  outage : Outage
  deriving DecidableEq

namespace Faulty

/-- One listing less to come. -/
def countList (c : Faulty) : Faulty :=
  { c with outage := { c.outage with listsLeft := c.outage.listsLeft.map (· - 1) } }

/-- The answer to a call, and the controller after it. -/
def answer (call : Call) (c : Faulty) : call.Answer × Faulty :=
  match call with
  | .list site =>
    if c.outage.listsLeft = some 0 then (.error (.authentication "session expired"), c)
    else
      let (rules, _) := c.memory.answer (.list site)
      (rules, c.countList)
  | .reorder site ruleset updates =>
    match c.outage.reorder with
    | some message => (.error (.refused message), c)
    | none =>
      if c.outage.ignoreWrites then (.ok (), c)
      else (.ok (), { c with memory := c.memory.reorder site ruleset updates })

end Faulty

/-! ## Records of what was asked -/

/-- Answers the calls of an operation from a controller with a state, and writes the calls down. -/
def Operation.runOn {σ ε α : Type} (answer : (call : Call) → σ → call.Answer × σ)
    (op : Operation ε α) (start : σ) : Except ε α × List Call × σ :=
  let step (call : Call) : StateM (List Call × σ) call.Answer := fun (calls, state) =>
    let (result, state) := answer call state
    (result, calls ++ [call], state)
  op.run.interpret step ([], start)

end FirewallOrder
