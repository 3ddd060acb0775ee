import FirewallOrder.Proofs.Managed.Runs
import FirewallOrder.Proofs.Provider.History

/-!
# What a provider sends for an operation

An operation asks for calls, and the provider answers them one after the other. So a run of an
operation that a provider carries out is a run of the operation and a history of the provider, over
the same calls with the same answers (`run_perform_iff`). The first call begins a session, or fails
(`begins_or_fails`).
-/

namespace FirewallOrder.Provider

open Dialogue Http

/-- A call, all that was sent for it, and the answer to it. -/
structure Served where
  call : Call
  turns : List Exchanged
  answer : call.Answer

namespace Served

/-- The call as the operation sees it. -/
def called (s : Served) : Called := ⟨s.call, s.answer⟩

/-- The call as an act of the provider. -/
def entry (s : Served) : Entry := ⟨.call s.call, s.turns, s.answer⟩

end Served

variable {ε α : Type} {p q : Provider} {turns : List Exchanged}

theorem run_interpret_iff {d : Dialogue Call Call.Answer α} {a : α} :
    Run (d.interpret (m := StateT Provider (Dialogue Request fun _ => Answer)) answer p)
      turns (a, q) ↔ ∃ served : List Served, Run d (served.map Served.called) a ∧
        History p (served.map Served.entry) q ∧ turns = sent (served.map Served.entry) := by
  -- The provider changes from call to call, and the history of the rest begins where the first call
  -- left it.
  induction d generalizing p turns with
  | done b =>
    constructor
    · intro h
      obtain ⟨rfl, same⟩ := run_done_iff.1 h
      obtain ⟨rfl, rfl⟩ := Prod.mk.inj same
      exact ⟨[], .done _, rfl, rfl⟩
    · rintro ⟨served, hrun, history, rfl⟩
      obtain ⟨hserved, rfl⟩ := run_done_iff.1 hrun
      obtain rfl := List.map_eq_nil_iff.1 hserved
      obtain rfl : q = p := history
      exact .done _
  | ask call next ih =>
    have step :
        (ask call next).interpret
            (m := StateT Provider (Dialogue Request fun _ => Answer)) answer p =
        (p.answer call).bind fun r =>
          (next r.1).interpret (m := StateT Provider (Dialogue Request fun _ => Answer))
            answer r.2 := rfl
    rw [step, Dialogue.run_bind_iff]
    constructor
    · rintro ⟨first, second, ⟨reply, p'⟩, rfl, hanswer, hnext⟩
      obtain ⟨served, hrun, history, rfl⟩ := (ih reply).1 hnext
      exact ⟨⟨call, first, reply⟩ :: served, .ask reply hrun, ⟨p', hanswer, history⟩, rfl⟩
    · rintro ⟨served, hrun, history, rfl⟩
      obtain ⟨reply, rest, hserved, hrest⟩ := run_ask_iff.1 hrun
      obtain ⟨⟨_, first, reply⟩, served, rfl, hcalled, rfl⟩ := List.map_eq_cons_iff.1 hserved
      cases hcalled
      obtain ⟨p', hanswer, history⟩ := history
      exact ⟨first, _, (reply, p'), rfl, hanswer, (ih reply).2 ⟨served, hrest, history, rfl⟩⟩

/-- A run of an operation that a provider carries out. -/
theorem run_perform_iff {op : Operation ε α} {result : Except ε α} :
    Run (p.perform op) turns (result, q) ↔
      ∃ served : List Served, Run op.run (served.map Served.called) result ∧
        History p (served.map Served.entry) q ∧ turns = sent (served.map Served.entry) :=
  run_interpret_iff

/-- The calls are served one after the other, each over the session that the one before it left. -/
def ServesAll (config : Access) (machine : Machine) :
    Option Platform → List Served → Option Platform → Prop
  | session, [], last => last = session
  | session, s :: served, last =>
    ∃ next, Serves config machine session s.call s.turns s.answer next ∧
      ServesAll config machine next served last

theorem servesAll_of_history {config : Access} {machine : Machine} {served : List Served}
    (onWeb : config.url.OnWeb) (bound : Bound config machine p)
    (history : History p (served.map Served.entry) q) :
    Bound config machine q ∧ ServesAll config machine p.platform? served q.platform? := by
  induction served generalizing p with
  | nil =>
    obtain rfl : q = p := history
    exact ⟨bound, rfl⟩
  | cons s served ih =>
    obtain ⟨next, hrun, hrest⟩ := history
    obtain ⟨bound', serves⟩ := serves_of_answer onWeb bound hrun
    obtain ⟨bound'', rest⟩ := ih bound' hrest
    exact ⟨bound'', _, serves, rest⟩

/-- Of all that is sent for the calls, nothing ends the session. -/
theorem Conducts.not_logout {config : Access} {machine : Machine} {session last : Option Platform}
    {served : List Served} (run : Conducts config machine session (served.map Served.entry) last) :
    ∀ t ∈ sent (served.map Served.entry),
    ∀ platform, ¬ t.question.IsFor config.url platform .logout := by
  induction served generalizing session with
  | nil => exact fun _ ht => nomatch ht
  | cons s served ih =>
    cases run with
    | cons conduct rest =>
      intro t ht
      rw [List.map_cons, sent_cons] at ht
      exact (List.mem_append.1 ht).elim (Conduct.not_logout conduct t) (ih rest t)

end FirewallOrder.Provider
