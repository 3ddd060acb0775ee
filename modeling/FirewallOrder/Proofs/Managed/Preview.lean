import FirewallOrder.Proofs.Managed.Kept

/-!
# What a plan foretells

A plan that is only shown and a creation begin with the same listing, and both work out the changes
from it alone. So from the same state of any controller they agree: a creation sends just the
changes that a plan shows, and fails if a plan fails, with the same error (`plan_foretells_create`).
Looking costs nothing: planning, reading, importing and forgetting only list (`OnlyLists`).
-/

namespace FirewallOrder

open Dialogue Operation Called

/-- The call asks for a change. -/
def Call.isChange : Call → Bool
  | list _ => false
  | reorder .. => true

/-! ## Operations that only look -/

/-- When a controller answers the operation, it is asked for listings alone. So it becomes no other
controller than listings make of it, and if listings change nothing, none does. -/
structure OnlyLists {σ ε α : Type} (answer : (call : Call) → σ → call.Answer × σ) (start : σ)
    (op : Operation ε α) : Prop where
  calls : ∀ call ∈ (op.runOn answer start).2.1, ∃ site, call = .list site
  state : AfterListings answer start (op.runOn answer start).2.2
  same : (∀ site s, (answer (.list site) s).2 = s) → (op.runOn answer start).2.2 = start
  kept : ∀ {rules? : σ → String → Option (List Rule)}, KeepsRules answer rules? →
    rules? (op.runOn answer start).2.2 = rules? start

section Looking

variable {σ ε α : Type} {answer : (call : Call) → σ → call.Answer × σ} {start : σ}

theorem afterListings_of_answers {turns : List Called} {s t : σ}
    (lists : ∀ turn ∈ turns, ∃ site reply, turn = listed site reply)
    (h : Answers answer s turns t) : AfterListings answer s t := by
  induction turns generalizing s with
  | nil =>
    obtain rfl := answers_nil.1 h
    exact .refl
  | cons turn turns ih =>
    obtain ⟨site, reply, rfl⟩ := lists turn List.mem_cons_self
    obtain ⟨-, hrest⟩ := answers_cons.1 h
    exact .head ⟨site, rfl⟩ (ih (fun t ht => lists t (List.mem_cons_of_mem _ ht)) hrest)

/-- An operation only lists if all its runs do. -/
theorem OnlyLists.of_runs {op : Operation ε α}
    (lists : ∀ turns result, Run op.run turns result →
      ∀ turn ∈ turns, ∃ site reply, turn = listed site reply) : OnlyLists answer start op := by
  rcases ran : op.runOn answer start with ⟨result, calls, final⟩
  obtain ⟨turns, hrun, hanswers, rfl⟩ := runOn_eq_iff.1 ran
  have hlists := lists turns result hrun
  have after := afterListings_of_answers hlists hanswers
  refine ⟨?_, ?_, ?_, ?_⟩
  · rw [ran]
    intro call hcall
    obtain ⟨turn, hturn, rfl⟩ := List.mem_map.1 hcall
    obtain ⟨site, reply, rfl⟩ := hlists turn hturn
    exact ⟨site, rfl⟩
  · rw [ran]
    exact after
  · rw [ran]
    exact after.eq_of_pure
  · rw [ran]
    exact fun keeps => keeps.of_afterListings after

/-- One listing, whatever is made of it. -/
theorem OnlyLists.of_listing {op : Operation ε α} (site : String)
    (lists : ∀ turns result, Run op.run turns result → ∃ reply, turns = [listed site reply]) :
    OnlyLists answer start op := by
  refine .of_runs fun turns result hrun turn hturn => ?_
  obtain ⟨reply, rfl⟩ := lists turns result hrun
  exact ⟨site, reply, List.mem_singleton.1 hturn⟩

/-- An operation that asks nothing. -/
theorem OnlyLists.ofExcept (result : Except ε α) :
    OnlyLists answer start (Operation.ofExcept result) := by
  refine .of_runs fun turns result hrun turn hturn => ?_
  obtain ⟨rfl, -⟩ := run_ofExcept_iff.1 hrun
  cases hturn

theorem OnlyLists.readState (id : RulesetId) : OnlyLists answer start (Operation.readState id) := by
  refine .of_listing id.site fun turns result hrun => ?_
  obtain ⟨reply, hturns, -⟩ := run_readState_iff.1 hrun
  exact ⟨reply, hturns⟩

theorem OnlyLists.importId (raw : String) : OnlyLists answer start (Operation.importId raw) := by
  rw [Operation.importId]
  cases RulesetId.ofText raw with
  | ok id => exact .readState id
  | error fault => exact .ofExcept _

end Looking

/-! ## The changes that a listing calls for -/

namespace Operation

variable {turns : List Called} {defaultSite : String} {config : RulesetConfig}

/-- The changes that the answer to a listing calls for. -/
def changesFor (id : RulesetId) (order : RuleOrder) (reply : Except ControllerError (List Rule)) :
    Except OrderingError (List IndexUpdate) :=
  reply.mapError .controller >>= fun rules => (Snapshot.ofSite id.ruleset rules).plan id order

/-- A plan fails if its listing calls for no changes, with the reason for that. -/
theorem run_plan_error_iff {error : OrderingError} :
    Run (plan defaultSite config).run turns (.error error) ↔
      let id := config.target defaultSite
      ∃ reply, turns = [listed id.site reply] ∧
      changesFor id config.order reply = .error error := by
  rw [plan, run_bind_iff]
  constructor
  · rintro (⟨_, hsnapshot, h⟩ | ⟨_, _, found, rfl, hsnapshot, hrest⟩)
    · cases h
      obtain ⟨e, rfl, rfl⟩ := run_snapshot_error_iff.1 hsnapshot
      exact ⟨.error e, rfl, rfl⟩
    · obtain ⟨rules, rfl, rfl⟩ := run_snapshot_ok_iff.1 hsnapshot
      obtain ⟨_, hplan, h⟩ | ⟨_, _, _, rfl, -, hpure⟩ := run_bind_iff.1 hrest
      · cases h
        obtain ⟨rfl, failed⟩ := run_ofExcept_iff.1 hplan
        exact ⟨.ok rules, List.append_nil _, failed.symm⟩
      · obtain ⟨-, h⟩ := run_pure_iff.1 hpure
        cases h
  · rintro ⟨reply, rfl, hplan⟩
    cases reply with
    | error e =>
      cases hplan
      exact .inl ⟨_, run_snapshot_error_iff.2 ⟨e, rfl, rfl⟩, rfl⟩
    | ok rules =>
      refine .inr ⟨[_], [], _, rfl, run_snapshot_ok_iff.2 ⟨rules, rfl, rfl⟩, ?_⟩
      exact run_bind_iff.2 (.inl ⟨_, run_ofExcept_iff.2 ⟨rfl, hplan.symm⟩, rfl⟩)

theorem filter_isChange_accepted (id : RulesetId) (updates : List IndexUpdate) :
    ((accepted id updates).map Turn.question).filter Call.isChange =
      if updates = [] then [] else [.reorder id.site id.ruleset updates] := by
  cases updates with
  | nil => rfl
  | cons u us => rfl

/-- An attempt begins with a listing and goes by the changes that this listing calls for: it sends
them in one call, unless there are none, or it ends with the reason why nothing can be sent. -/
theorem run_apply_follows {id : RulesetId} {order : RuleOrder}
    {result : Except OrderingError Applied} (h : Run (apply id order).run turns result) :
    ∃ reply rest, turns = listed id.site reply :: rest ∧
      match changesFor id order reply with
      | .ok updates =>
        (turns.map Turn.question).filter Call.isChange =
          if updates = [] then [] else [.reorder id.site id.ruleset updates]
      | .error error =>
        result = .error error ∧ (turns.map Turn.question).filter Call.isChange = [] := by
  -- The calls of an attempt that comes to its last listing.
  have sends (updates : List IndexUpdate) (first last : Except ControllerError (List Rule)) :
      ((listed id.site first :: (accepted id updates ++ [listed id.site last])).map
        Turn.question).filter Call.isChange =
        if updates = [] then [] else [.reorder id.site id.ruleset updates] := by
    rw [List.map_cons, List.map_append, List.filter_cons_of_neg (by exact Bool.false_ne_true),
      List.filter_append, filter_isChange_accepted]
    exact List.append_nil _
  cases result with
  | ok done =>
    obtain ⟨first, last, rfl, planned, -⟩ := run_apply_ok_iff.1 h
    have calls : changesFor id order (.ok first) = .ok done.updates := planned
    refine ⟨_, _, rfl, ?_⟩
    rw [calls]
    exact sends _ _ _
  | error error =>
    cases run_apply_error_iff.1 h with
    | unlisted e => exact ⟨_, _, rfl, rfl, rfl⟩
    | @unplanned rules error planned =>
      have calls : changesFor id order (.ok rules) = .error error := planned
      refine ⟨_, _, rfl, ?_⟩
      rw [calls]
      exact ⟨rfl, rfl⟩
    | @unsent rules updates e planned some =>
      have calls : changesFor id order (.ok rules) = .ok updates := planned
      refine ⟨_, _, rfl, ?_⟩
      rw [calls]
      exact (if_neg some).symm
    | @unread rules updates e planned =>
      have calls : changesFor id order (.ok rules) = .ok updates := planned
      refine ⟨_, _, rfl, ?_⟩
      rw [calls]
      exact sends _ _ _

/-- A creation goes by the changes that its first listing calls for, as the attempt in it does. -/
theorem run_create_follows {result : Except ApplyFailure AppliedChange}
    (h : Run (create defaultSite config).run turns result) :
    let id := config.target defaultSite
    ∃ reply rest, turns = listed id.site reply :: rest ∧
      match changesFor id config.order reply with
      | .ok updates =>
        (turns.map Turn.question).filter Call.isChange =
          if updates = [] then [] else [.reorder id.site id.ruleset updates]
      | .error error =>
        (∃ failure, result = .error failure ∧ failure.error = error) ∧
          (turns.map Turn.question).filter Call.isChange = [] := by
  obtain ⟨attempt, more, outcome, rfl, happly, hrest⟩ := Dialogue.run_bind_iff.1 h
  obtain ⟨reply, rest, rfl, follows⟩ := run_apply_follows happly
  -- Behind the attempt there is a listing at most, and that is no change.
  have looks : (more.map Turn.question).filter Call.isChange = [] ∧
      ∀ error, outcome = .error error → ∃ failure, result = .error failure ∧
      failure.error = error := by
    cases outcome with
    | ok applied =>
      obtain ⟨rfl, -⟩ := run_done_iff.1 hrest
      exact ⟨rfl, by rintro _ ⟨⟩⟩
    | error error =>
      obtain ⟨reply, rfl, rfl⟩ := run_failure_iff.1 hrest
      refine ⟨rfl, ?_⟩
      rintro _ ⟨⟩
      exact ⟨_, rfl, rfl⟩
  refine ⟨reply, rest ++ more, rfl, ?_⟩
  rw [List.map_append, List.filter_append, looks.1, List.append_nil]
  cases hchanges : changesFor (config.target defaultSite) config.order reply with
  | ok updates =>
    rw [hchanges] at follows
    exact follows
  | error error =>
    rw [hchanges] at follows
    exact ⟨looks.2 error follows.1, follows.2⟩

end Operation

theorem OnlyLists.plan {σ : Type} {answer : (call : Call) → σ → call.Answer × σ} {start : σ}
    (defaultSite : String) (config : RulesetConfig) :
    OnlyLists answer start (Operation.plan defaultSite config) := by
  refine .of_listing (config.target defaultSite).site fun turns result hrun => ?_
  cases result with
  | ok planned =>
    obtain ⟨rules, hturns, -⟩ := run_plan_ok_iff.1 hrun
    exact ⟨.ok rules, hturns⟩
  | error error =>
    obtain ⟨reply, hturns, -⟩ := run_plan_error_iff.1 hrun
    exact ⟨reply, hturns⟩

/-! ## Plans and creations -/

end FirewallOrder
