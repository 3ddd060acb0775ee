import FirewallOrder.Dialogue
import FirewallOrder.Ordering.Plan
/-!
# Bringing an order about

An operation on a ruleset speaks to a controller by two calls: it lists all rules of a site, or it
gives rules of one ruleset new indices. Which controller answers is left open; an operation is a
dialogue.

`apply` lists the rules, plans, sends the changes in one call unless there are none, and lists
again: what it reports is read back and not assumed. Any failure ends it.
-/

namespace FirewallOrder

/-- A call to a controller. -/
inductive Call
  | list (site : String)
  | reorder (site : String) (ruleset : Ruleset) (updates : List IndexUpdate)
  deriving DecidableEq, Repr

/-- What a controller answers to a call, if it does not fail. -/
def Call.Result : Call → Type
  | list _ => List Rule
  | reorder .. => Unit

/-- What a controller answers to a call. -/
abbrev Call.Answer (call : Call) : Type := Except ControllerError call.Result

/-- A dialogue with a controller that may fail with an error. -/
abbrev Operation (ε α : Type) : Type := ExceptT ε (Dialogue Call Call.Answer) α

namespace Operation

variable {α : Type}

/-- One call. -/
def call (c : Call) : Operation OrderingError c.Result :=
  ExceptT.mk ((Dialogue.question c).bind fun answer => .done (answer.mapError .controller))

/-- A result that needs no controller. -/
def ofExcept {ε : Type} (result : Except ε α) : Operation ε α :=
  ExceptT.mk (.done result)

/-- Lists the rules of the site and takes a snapshot of those of the ruleset. -/
def snapshot (id : RulesetId) : Operation OrderingError Snapshot := do
  let rules ← call (.list id.site)
  pure (.ofRules (rules.filter fun (rule : Rule) => rule.ruleset == id.ruleset.spelling))

/-- What was sent to bring an order about, and what was read back. -/
structure Applied where
  updates : List IndexUpdate
  snapshot : Snapshot
  deriving DecidableEq, Repr

/-- Brings an order about. -/
def apply (id : RulesetId) (desired : RuleOrder) : Operation OrderingError Applied := do
  let current ← snapshot id
  let updates ← ofExcept (current.plan id desired)
  if updates.isEmpty then pure ()
  else call (.reorder id.site id.ruleset updates)
  let reached ← snapshot id
  pure ⟨updates, reached⟩

end Operation

end FirewallOrder
