import FirewallOrder.Managed.Operations
import FirewallOrder.Proofs.Dialogue.Run
import FirewallOrder.Proofs.Ordering.Snapshot

/-!
# What the operations ask

The runs of the operations on a ruleset, whatever the controller answers. An attempt to bring an
order about succeeds in one way (`run_apply_ok_iff`) and breaks off in one of four ways
(`BreaksOff`), each with calls of its own. `create` is such an attempt, with one more listing after
it if it broke off (`run_create_ok_iff`, `run_create_error_iff`).
-/

namespace FirewallOrder

open Dialogue

/-- A call and what the controller answered to it. -/
abbrev Called : Type := Turn Call Call.Answer

namespace Called

/-- A listing of the rules of a site. -/
def listed (site : String) (reply : Except ControllerError (List Rule)) : Called :=
  ⟨.list site, reply⟩

/-- An update of indices in a ruleset. -/
def sent (id : RulesetId) (updates : List IndexUpdate) (reply : Except ControllerError Unit) :
    Called :=
  ⟨.reorder id.site id.ruleset updates, reply⟩

/-- Updates that were accepted: one call, or none if there are no updates. -/
def accepted (id : RulesetId) : List IndexUpdate → List Called
  | [] => []
  | u :: us => [sent id (u :: us) (.ok ())]

theorem map_question_accepted (id : RulesetId) (updates : List IndexUpdate) :
    (accepted id updates).map Turn.question =
      if updates = [] then [] else [.reorder id.site id.ruleset updates] := by
  cases updates with
  | nil => rfl
  | cons u us => rfl

end Called

namespace Operation

open Called

variable {ε α β : Type} {turns : List Called}

/-! ## Operations one after the other -/

/-- An operation that goes on after another one ends with the failure of that one, or runs on. -/
theorem run_bind_iff {op : Operation ε α} {next : α → Operation ε β} {result : Except ε β} :
    Run (op >>= next).run turns result ↔
      (∃ e, Run op.run turns (.error e) ∧ result = .error e) ∨
      ∃ first second a, turns = first ++ second ∧ Run op.run first (.ok a) ∧
        Run (next a).run second result := by
  rw [ExceptT.run_bind, bind_eq, Dialogue.run_bind_iff]
  constructor
  · rintro ⟨first, second, outcome, rfl, hop, hnext⟩
    cases outcome with
    | ok a => exact .inr ⟨first, second, a, rfl, hop, hnext⟩
    | error e =>
      obtain ⟨rfl, rfl⟩ := run_done_iff.1 hnext
      rw [List.append_nil]
      exact .inl ⟨e, hop, rfl⟩
  · rintro (⟨e, hop, rfl⟩ | ⟨first, second, a, rfl, hop, hnext⟩)
    · exact ⟨turns, [], .error e, (List.append_nil turns).symm, hop, .done _⟩
    · exact ⟨first, second, .ok a, rfl, hop, hnext⟩

theorem run_pure_iff {a : α} {result : Except ε α} :
    Run (pure a : Operation ε α).run turns result ↔ turns = [] ∧ result = .ok a :=
  run_done_iff

theorem run_ofExcept_iff {outcome result : Except ε α} :
    Run (ofExcept outcome).run turns result ↔ turns = [] ∧ result = outcome :=
  run_done_iff

theorem run_call_iff {c : Call} {result : Except OrderingError c.Result} :
    Run (call c).run turns result ↔
      ∃ reply : c.Answer, turns = [⟨c, reply⟩] ∧ result = reply.mapError .controller := by
  have step : (call c).run = ask c fun answer => done (answer.mapError .controller) := rfl
  rw [step, run_ask_iff]
  constructor
  · rintro ⟨reply, rest, rfl, h⟩
    obtain ⟨rfl, rfl⟩ := run_done_iff.1 h
    exact ⟨reply, rfl, rfl⟩
  · rintro ⟨reply, rfl, rfl⟩
    exact ⟨reply, [], rfl, .done _⟩

/-! ## Snapshots and states -/

theorem run_snapshot_iff {id : RulesetId} {result : Except OrderingError Snapshot} :
    Run (snapshot id).run turns result ↔
      ∃ reply, turns = [listed id.site reply] ∧
        result = (reply.mapError .controller).map (.ofSite id.ruleset) := by
  rw [snapshot, run_bind_iff]
  constructor
  · rintro (⟨e, hcall, rfl⟩ | ⟨first, second, rules, rfl, hcall, hpure⟩)
    · obtain ⟨reply, rfl, hreply⟩ := run_call_iff.1 hcall
      exact ⟨reply, rfl, congrArg (Except.map (Snapshot.ofSite id.ruleset)) hreply⟩
    · obtain ⟨reply, rfl, hreply⟩ := run_call_iff.1 hcall
      obtain ⟨rfl, rfl⟩ := run_pure_iff.1 hpure
      exact ⟨reply, rfl, congrArg (Except.map (Snapshot.ofSite id.ruleset)) hreply⟩
  · rintro ⟨reply, rfl, rfl⟩
    cases reply with
    | error e => exact .inl ⟨.controller e, run_call_iff.2 ⟨.error e, rfl, rfl⟩, rfl⟩
    | ok rules =>
      exact .inr ⟨[_], [], rules, rfl, run_call_iff.2 ⟨.ok rules, rfl, rfl⟩,
        run_pure_iff.2 ⟨rfl, rfl⟩⟩

theorem run_snapshot_ok_iff {id : RulesetId} {s : Snapshot} :
    Run (snapshot id).run turns (.ok s) ↔
      ∃ rules, turns = [listed id.site (.ok rules)] ∧ s = .ofSite id.ruleset rules := by
  rw [run_snapshot_iff]
  constructor
  · rintro ⟨reply, rfl, h⟩
    cases reply with
    | error e => cases h
    | ok rules =>
      cases h
      exact ⟨rules, rfl, rfl⟩
  · rintro ⟨rules, rfl, rfl⟩
    exact ⟨.ok rules, rfl, rfl⟩

theorem run_snapshot_error_iff {id : RulesetId} {error : OrderingError} :
    Run (snapshot id).run turns (.error error) ↔
      ∃ e, turns = [listed id.site (.error e)] ∧ error = .controller e := by
  rw [run_snapshot_iff]
  constructor
  · rintro ⟨reply, rfl, h⟩
    cases reply with
    | error e =>
      cases h
      exact ⟨e, rfl, rfl⟩
    | ok rules => cases h
  · rintro ⟨e, rfl, rfl⟩
    exact ⟨.error e, rfl, rfl⟩

end Operation

/-- The state of a ruleset that a listing of its site shows. -/
def RulesetState.ofListing (id : RulesetId) (rules : List Rule) : RulesetState :=
  .ofOrder id (Snapshot.ofSite id.ruleset rules).order

namespace Operation

open Called

variable {turns : List Called}

theorem run_readState_iff {id : RulesetId} {result : Except OrderingError RulesetState} :
    Run (readState id).run turns result ↔
      ∃ reply, turns = [listed id.site reply] ∧
        result = (reply.mapError .controller).map (.ofListing id) := by
  rw [readState, run_bind_iff]
  constructor
  · rintro (⟨e, hsnapshot, rfl⟩ | ⟨first, second, s, rfl, hsnapshot, hpure⟩)
    · obtain ⟨e', rfl, rfl⟩ := run_snapshot_error_iff.1 hsnapshot
      exact ⟨.error e', rfl, rfl⟩
    · obtain ⟨rules, rfl, rfl⟩ := run_snapshot_ok_iff.1 hsnapshot
      obtain ⟨rfl, rfl⟩ := run_pure_iff.1 hpure
      exact ⟨.ok rules, rfl, rfl⟩
  · rintro ⟨reply, rfl, rfl⟩
    cases reply with
    | error e => exact .inl ⟨.controller e, run_snapshot_error_iff.2 ⟨e, rfl, rfl⟩, rfl⟩
    | ok rules =>
      exact .inr ⟨[_], [], _, rfl, run_snapshot_ok_iff.2 ⟨rules, rfl, rfl⟩,
        run_pure_iff.2 ⟨rfl, rfl⟩⟩

variable {id : RulesetId} {updates : List IndexUpdate} {defaultSite : String}
  {config : RulesetConfig}

theorem run_plan_ok_iff {planned : PlannedChange} :
    Run (plan defaultSite config).run turns (.ok planned) ↔
      let id := config.target defaultSite
      ∃ rules, turns = [listed id.site (.ok rules)] ∧
        (Snapshot.ofSite id.ruleset rules).plan id config.order = .ok planned.updates ∧
        planned =
          ⟨id, (Snapshot.ofSite id.ruleset rules).order, config.order, planned.updates⟩ := by
  rw [plan, run_bind_iff]
  constructor
  · rintro (⟨_, -, h⟩ | ⟨_, _, found, rfl, hsnapshot, hrest⟩)
    · cases h
    obtain ⟨_, -, h⟩ | ⟨_, _, updates, rfl, hplan, hpure⟩ := run_bind_iff.1 hrest
    · cases h
    obtain ⟨rules, rfl, rfl⟩ := run_snapshot_ok_iff.1 hsnapshot
    obtain ⟨rfl, found⟩ := run_ofExcept_iff.1 hplan
    obtain ⟨rfl, h⟩ := run_pure_iff.1 hpure
    cases h
    exact ⟨rules, rfl, found.symm, rfl⟩
  · rintro ⟨rules, rfl, hplan, hplanned⟩
    refine .inr ⟨[_], [], _, rfl, run_snapshot_ok_iff.2 ⟨rules, rfl, rfl⟩, ?_⟩
    refine run_bind_iff.2 (.inr ⟨[], [], _, rfl, run_ofExcept_iff.2 ⟨rfl, hplan.symm⟩, ?_⟩)
    exact run_pure_iff.2 ⟨rfl, congrArg Except.ok hplanned⟩

/-! ## Attempts to bring an order about -/

/-- Sends the updates of a plan, if there are any. -/
def send (id : RulesetId) : List IndexUpdate → Operation OrderingError Unit
  | [] => pure ()
  | u :: us => call (.reorder id.site id.ruleset (u :: us))

theorem run_send_ok_iff : Run (send id updates).run turns (.ok ()) ↔
    turns = accepted id updates := by
  cases updates with
  | nil => exact run_pure_iff.trans (and_iff_left rfl)
  | cons u us =>
    refine run_call_iff.trans ?_
    constructor
    · rintro ⟨reply, rfl, h⟩
      cases reply with
      | error e => cases h
      | ok _ => rfl
    · rintro rfl
      exact ⟨.ok (), rfl, rfl⟩

theorem run_send_error_iff {error : OrderingError} :
    Run (send id updates).run turns (.error error) ↔
      ∃ e, updates ≠ [] ∧ turns = [sent id updates (.error e)] ∧ error = .controller e := by
  cases updates with
  | nil =>
    refine run_pure_iff.trans ?_
    constructor
    · rintro ⟨-, h⟩
      cases h
    · rintro ⟨e, some, -⟩
      exact absurd rfl some
  | cons u us =>
    refine run_call_iff.trans ?_
    constructor
    · rintro ⟨reply, rfl, h⟩
      cases reply with
      | error e =>
        cases h
        exact ⟨e, List.cons_ne_nil u us, rfl, rfl⟩
      | ok _ => cases h
    · rintro ⟨e, -, rfl, rfl⟩
      exact ⟨.error e, rfl, rfl⟩

/-- How an attempt to bring an order about breaks off, after which calls, and with which error. -/
inductive BreaksOff (id : RulesetId) (order : RuleOrder) : List Called → OrderingError → Prop
  /-- The rules cannot be listed. -/
  | unlisted (e : ControllerError) :
    BreaksOff id order [listed id.site (.error e)] (.controller e)
  /-- There is no plan for the rules that are listed. -/
  | unplanned {rules : List Rule} {error : OrderingError}
      (planned : (Snapshot.ofSite id.ruleset rules).plan id order = .error error) :
    BreaksOff id order [listed id.site (.ok rules)] error
  /-- The updates are refused. -/
  | unsent {rules : List Rule} {updates : List IndexUpdate} (e : ControllerError)
      (planned : (Snapshot.ofSite id.ruleset rules).plan id order = .ok updates)
      (some : updates ≠ []) :
    BreaksOff id order [listed id.site (.ok rules), sent id updates (.error e)] (.controller e)
  /-- The order that was reached cannot be read. -/
  | unread {rules : List Rule} {updates : List IndexUpdate} (e : ControllerError)
      (planned : (Snapshot.ofSite id.ruleset rules).plan id order = .ok updates) :
    BreaksOff id order
      (listed id.site (.ok rules) :: (accepted id updates ++ [listed id.site (.error e)]))
      (.controller e)

theorem apply_eq (id : RulesetId) (order : RuleOrder) :
    apply id order = (do
      let current ← snapshot id
      let updates ← ofExcept (current.plan id order)
      send id updates
      let reached ← snapshot id
      pure ⟨updates, reached⟩) := by
  refine bind_congr fun current => bind_congr fun updates => ?_
  cases updates with
  | nil => rfl
  | cons u us => rfl

theorem run_apply_ok_iff {order : RuleOrder} {done : Applied} :
    Run (apply id order).run turns (.ok done) ↔
      ∃ first last, turns = listed id.site (.ok first) ::
          (accepted id done.updates ++ [listed id.site (.ok last)]) ∧
        (Snapshot.ofSite id.ruleset first).plan id order = .ok done.updates ∧
        done.snapshot = .ofSite id.ruleset last := by
  rw [apply_eq]
  constructor
  · intro h
    obtain ⟨_, -, h₁⟩ | ⟨_, _, current, rfl, hfirst, h₁⟩ := run_bind_iff.1 h
    · cases h₁
    obtain ⟨_, -, h₂⟩ | ⟨_, _, updates, rfl, hplan, h₂⟩ := run_bind_iff.1 h₁
    · cases h₂
    obtain ⟨_, -, h₃⟩ | ⟨_, _, _, rfl, hsend, h₃⟩ := run_bind_iff.1 h₂
    · cases h₃
    obtain ⟨_, -, h₄⟩ | ⟨_, _, reached, rfl, hlast, h₄⟩ := run_bind_iff.1 h₃
    · cases h₄
    obtain ⟨first, rfl, rfl⟩ := run_snapshot_ok_iff.1 hfirst
    obtain ⟨rfl, planned⟩ := run_ofExcept_iff.1 hplan
    obtain rfl := run_send_ok_iff.1 hsend
    obtain ⟨last, rfl, rfl⟩ := run_snapshot_ok_iff.1 hlast
    obtain ⟨rfl, hdone⟩ := run_pure_iff.1 h₄
    cases hdone
    exact ⟨first, last, by simp, planned.symm, rfl⟩
  · rintro ⟨first, last, rfl, hplan, hlast⟩
    refine run_bind_iff.2 (.inr ⟨[_], _, _, rfl, run_snapshot_ok_iff.2 ⟨first, rfl, rfl⟩, ?_⟩)
    refine run_bind_iff.2 (.inr ⟨[], _, _, rfl, run_ofExcept_iff.2 ⟨rfl, hplan.symm⟩, ?_⟩)
    refine run_bind_iff.2 (.inr ⟨_, _, (), rfl, run_send_ok_iff.2 rfl, ?_⟩)
    refine run_bind_iff.2 (.inr ⟨[_], [], _, rfl, run_snapshot_ok_iff.2 ⟨last, rfl, rfl⟩, ?_⟩)
    rw [← hlast]
    exact run_pure_iff.2 ⟨rfl, rfl⟩

theorem run_apply_error_iff {order : RuleOrder} {error : OrderingError} :
    Run (apply id order).run turns (.error error) ↔ BreaksOff id order turns error := by
  rw [apply_eq]
  constructor
  · intro h
    obtain ⟨_, hfirst, h₁⟩ | ⟨_, _, current, rfl, hfirst, h₁⟩ := run_bind_iff.1 h
    · cases h₁
      obtain ⟨e, rfl, rfl⟩ := run_snapshot_error_iff.1 hfirst
      exact .unlisted e
    obtain ⟨first, rfl, rfl⟩ := run_snapshot_ok_iff.1 hfirst
    obtain ⟨_, hplan, h₂⟩ | ⟨_, _, updates, rfl, hplan, h₂⟩ := run_bind_iff.1 h₁
    · cases h₂
      obtain ⟨rfl, planned⟩ := run_ofExcept_iff.1 hplan
      exact .unplanned planned.symm
    obtain ⟨rfl, planned⟩ := run_ofExcept_iff.1 hplan
    obtain ⟨_, hsend, h₃⟩ | ⟨_, _, _, rfl, hsend, h₃⟩ := run_bind_iff.1 h₂
    · cases h₃
      obtain ⟨e, some, rfl, rfl⟩ := run_send_error_iff.1 hsend
      exact .unsent e planned.symm some
    obtain rfl := run_send_ok_iff.1 hsend
    obtain ⟨_, hlast, h₄⟩ | ⟨_, _, reached, rfl, hlast, h₄⟩ := run_bind_iff.1 h₃
    · cases h₄
      obtain ⟨e, rfl, rfl⟩ := run_snapshot_error_iff.1 hlast
      exact .unread e planned.symm
    · obtain ⟨-, hdone⟩ := run_pure_iff.1 h₄
      cases hdone
  · intro h
    cases h with
    | unlisted e =>
      exact run_bind_iff.2 (.inl ⟨_, run_snapshot_error_iff.2 ⟨e, rfl, rfl⟩, rfl⟩)
    | unplanned planned =>
      refine run_bind_iff.2 (.inr ⟨[_], [], _, rfl, run_snapshot_ok_iff.2 ⟨_, rfl, rfl⟩, ?_⟩)
      exact run_bind_iff.2 (.inl ⟨_, run_ofExcept_iff.2 ⟨rfl, planned.symm⟩, rfl⟩)
    | unsent e planned some =>
      refine run_bind_iff.2 (.inr ⟨[_], _, _, rfl, run_snapshot_ok_iff.2 ⟨_, rfl, rfl⟩, ?_⟩)
      refine run_bind_iff.2 (.inr ⟨[], _, _, rfl, run_ofExcept_iff.2 ⟨rfl, planned.symm⟩, ?_⟩)
      exact run_bind_iff.2 (.inl ⟨_, run_send_error_iff.2 ⟨e, some, rfl, rfl⟩, rfl⟩)
    | unread e planned =>
      refine run_bind_iff.2 (.inr ⟨[_], _, _, rfl, run_snapshot_ok_iff.2 ⟨_, rfl, rfl⟩, ?_⟩)
      refine run_bind_iff.2 (.inr ⟨[], _, _, rfl, run_ofExcept_iff.2 ⟨rfl, planned.symm⟩, ?_⟩)
      refine run_bind_iff.2 (.inr ⟨_, _, (), rfl, run_send_ok_iff.2 rfl, ?_⟩)
      exact run_bind_iff.2 (.inl ⟨_, run_snapshot_error_iff.2 ⟨e, rfl, rfl⟩, rfl⟩)

/-! ## Creating -/

theorem run_failure_iff {α : Type} {error : OrderingError} {result : Except ApplyFailure α} :
    Run (failure id error : Operation ApplyFailure α).run turns result ↔
      ∃ reply, turns = [listed id.site reply] ∧
        result = .error ⟨error, reply.toOption.map (.ofListing id)⟩ := by
  have step : (failure id error : Operation ApplyFailure α).run =
      (readState id).run.bind fun state => done (.error ⟨error, state.toOption⟩) := rfl
  have seen : ∀ reply : Except ControllerError (List Rule),
      ((reply.mapError .controller : Except OrderingError _).map
        (RulesetState.ofListing id)).toOption = reply.toOption.map (.ofListing id) := by
    intro reply
    cases reply with
    | error e => rfl
    | ok rules => rfl
  rw [step, Dialogue.run_bind_iff]
  constructor
  · rintro ⟨_, _, _, rfl, hread, hdone⟩
    obtain ⟨reply, rfl, rfl⟩ := run_readState_iff.1 hread
    obtain ⟨rfl, rfl⟩ := run_done_iff.1 hdone
    exact ⟨reply, rfl, by rw [seen]⟩
  · rintro ⟨reply, rfl, rfl⟩
    refine ⟨_, [], _, rfl, run_readState_iff.2 ⟨reply, rfl, rfl⟩, ?_⟩
    rw [← seen]
    exact .done _

/-- A successful `create` lists, sends what is pending, and lists again. -/
theorem run_create_ok_iff {result : AppliedChange} :
    Run (create defaultSite config).run turns (.ok result) ↔
      let id := config.target defaultSite
      ∃ first last, turns = listed id.site (.ok first) ::
          (accepted id result.updates ++ [listed id.site (.ok last)]) ∧
        (Snapshot.ofSite id.ruleset first).plan id config.order = .ok result.updates ∧
        result.state = .ofListing id last := by
  refine Dialogue.run_bind_iff.trans ?_
  constructor
  · rintro ⟨attempt, _, outcome, rfl, happly, hrest⟩
    cases outcome with
    | error error =>
      obtain ⟨reply, -, h⟩ := run_failure_iff.1 hrest
      cases h
    | ok applied =>
      obtain ⟨rfl, h⟩ := run_done_iff.1 hrest
      cases h
      obtain ⟨first, last, rfl, planned, hlast⟩ := run_apply_ok_iff.1 happly
      refine ⟨first, last, List.append_nil _, planned, ?_⟩
      rw [hlast, RulesetState.ofListing]
  · rintro ⟨first, last, rfl, planned, hlast⟩
    refine ⟨_, [], .ok ⟨result.updates, _⟩, (List.append_nil _).symm,
      run_apply_ok_iff.2 ⟨first, last, rfl, planned, rfl⟩, ?_⟩
    refine run_done_iff.2 ⟨rfl, ?_⟩
    obtain ⟨updates, state⟩ := result
    exact congrArg (fun state => Except.ok (AppliedChange.mk updates state)) hlast

/-- A `create` that fails breaks off, and then lists once more to see what is left behind. -/
theorem run_create_error_iff {failure : ApplyFailure} :
    Run (create defaultSite config).run turns (.error failure) ↔
      let id := config.target defaultSite
      ∃ attempt reply, turns = attempt ++ [listed id.site reply] ∧
        BreaksOff id config.order attempt failure.error ∧
        failure.refreshed = reply.toOption.map (.ofListing id) := by
  refine Dialogue.run_bind_iff.trans ?_
  constructor
  · rintro ⟨attempt, _, outcome, rfl, happly, hrest⟩
    cases outcome with
    | ok applied =>
      obtain ⟨-, h⟩ := run_done_iff.1 hrest
      cases h
    | error error =>
      obtain ⟨reply, rfl, h⟩ := run_failure_iff.1 hrest
      cases h
      exact ⟨attempt, reply, rfl, run_apply_error_iff.1 happly, rfl⟩
  · rintro ⟨attempt, reply, rfl, breaks, hrefreshed⟩
    refine ⟨attempt, [_], .error failure.error, rfl, run_apply_error_iff.2 breaks, ?_⟩
    refine run_failure_iff.2 ⟨reply, rfl, ?_⟩
    obtain ⟨error, refreshed⟩ := failure
    exact congrArg (fun refreshed => Except.error (ApplyFailure.mk error refreshed)) hrefreshed

/-- **The calls of a creation, whatever the controller answers.** It lists the rules, sends the plan
for this listing in one call if there is anything to send, and lists again; the result holds what
was sent and the order of the last listing. At the first failure it breaks off: the failure is
reported as it is, with the order of one more listing, if that can be had, and nothing is asked
after that. -/
theorem create_calls {σ : Type} (answer : (call : Call) → σ → call.Answer × σ) (start : σ)
    (defaultSite : String) (config : RulesetConfig) :
    let id := config.target defaultSite
    let run := (create defaultSite config).runOn answer start
    ∃ turns, Answers answer start turns run.2.2 ∧ run.2.1 = turns.map Turn.question ∧
      match run.1 with
      | .ok result =>
        ∃ first last, turns = listed id.site (.ok first) ::
            (accepted id result.updates ++ [listed id.site (.ok last)]) ∧
          (Snapshot.ofSite id.ruleset first).plan id config.order = .ok result.updates ∧
          result.state = .ofListing id last
      | .error failure =>
        ∃ attempt reply, turns = attempt ++ [listed id.site reply] ∧
          BreaksOff id config.order attempt failure.error ∧
          failure.refreshed = reply.toOption.map (.ofListing id) := by
  rcases ran : (create defaultSite config).runOn answer start with ⟨outcome, calls, final⟩
  obtain ⟨turns, hrun, hanswers, hcalls⟩ := runOn_eq_iff.1 ran
  refine ⟨turns, hanswers, hcalls, ?_⟩
  cases outcome with
  | ok result => exact run_create_ok_iff.1 hrun
  | error failure => exact run_create_error_iff.1 hrun

end Operation

end FirewallOrder
