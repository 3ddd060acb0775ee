import FirewallOrder.Proofs.Managed.Preview
import FirewallOrder.Proofs.Controller.Portion

/-!
# The turns of a creation

A creation written out as its turns (`create_run_eq`): a listing, the changes that this listing
calls for if there are any, a listing to read the order back, and a last listing behind a failure.
So it asks about one ruleset only (`confined_create`), and at most four times (`keeps_create`): a
client among several whose creations interleave is through after four turns (`creation_over`).
-/

namespace FirewallOrder

open Dialogue

namespace Operation

/-- What follows the changes of a creation: the order is read back. -/
def readBack (id : RulesetId) (updates : List IndexUpdate) :
    Dialogue Call Call.Answer (Except ApplyFailure AppliedChange) :=
  ask (.list id.site) fun (reply : Except ControllerError (List Rule)) =>
    match reply with
    | .ok rules => done (.ok ⟨updates, .ofListing id rules⟩)
    | .error e => (failure id (.controller e)).run

/-- What follows the first listing of a creation: the changes that it calls for are sent. -/
def carryOut (id : RulesetId) (order : RuleOrder) (reply : Except ControllerError (List Rule)) :
    Dialogue Call Call.Answer (Except ApplyFailure AppliedChange) :=
  match changesFor id order reply with
  | .error error => (failure id error).run
  | .ok [] => readBack id []
  | .ok (u :: us) =>
    ask (.reorder id.site id.ruleset (u :: us)) fun (reply : Except ControllerError Unit) =>
      match reply with
      | .ok _ => readBack id (u :: us)
      | .error e => (failure id (.controller e)).run

theorem failure_run_eq {α : Type} (id : RulesetId) (error : OrderingError) :
    (failure id error : Operation ApplyFailure α).run =
      ask (.list id.site) fun (reply : Except ControllerError (List Rule)) =>
        done (.error ⟨error, reply.toOption.map (.ofListing id)⟩) := by
  refine congrArg (ask _) (funext fun (reply : Except ControllerError (List Rule)) => ?_)
  cases reply with
  | error e => rfl
  | ok rules => rfl

theorem apply_run_eq (id : RulesetId) (order : RuleOrder) :
    (apply id order).run = ask (.list id.site) fun (reply : Except ControllerError (List Rule)) =>
      match changesFor id order reply with
      | .error error => done (.error error)
      | .ok updates =>
        (do
          send id updates
          let reached ← snapshot id
          pure (⟨updates, reached⟩ : Applied)).run := by
  rw [apply_eq]
  refine congrArg (ask _) (funext fun (reply : Except ControllerError (List Rule)) => ?_)
  cases reply with
  | error e => rfl
  | ok rules =>
    have changes : changesFor id order (.ok rules) =
        (Snapshot.ofSite id.ruleset rules).plan id order := rfl
    rw [changes]
    show (ofExcept ((Snapshot.ofSite id.ruleset rules).plan id order) >>= fun updates => do
      send id updates
      let reached ← snapshot id
      pure (⟨updates, reached⟩ : Applied)).run = _
    cases (Snapshot.ofSite id.ruleset rules).plan id order with
    | error error => rfl
    | ok updates => rfl

theorem create_run_eq (defaultSite : String) (config : RulesetConfig) :
    (create defaultSite config).run =
      ask (.list (config.target defaultSite).site)
        (carryOut (config.target defaultSite) config.order) := by
  rw [create]
  generalize config.target defaultSite = id
  show (apply id config.order).run.bind _ = _
  rw [apply_run_eq]
  refine congrArg (ask _) (funext fun (reply : Except ControllerError (List Rule)) => ?_)
  beta_reduce
  rw [carryOut]
  -- There is nothing to send if there is no plan, or an empty one.
  cases changesFor id config.order reply with
  | error error => rfl
  | ok updates =>
    cases updates with
    | nil =>
      refine congrArg (ask _) (funext fun (last : Except ControllerError (List Rule)) => ?_)
      cases last with
      | error e => rfl
      | ok rules => rfl
    | cons u us =>
      refine congrArg (ask _) (funext fun (sent : Except ControllerError Unit) => ?_)
      cases sent with
      | error e => rfl
      | ok _ =>
        refine congrArg (ask _) (funext fun (last : Except ControllerError (List Rule)) => ?_)
        cases last with
        | error e => rfl
        | ok rules => rfl

/-! ## One ruleset -/

variable {id : RulesetId}

theorem confined_failure {α : Type} (error : OrderingError) :
    Confined id (failure id error : Operation ApplyFailure α).run := by
  have step : (failure id error : Operation ApplyFailure α).run =
      ask (.list id.site) fun (reply : Except ControllerError (List Rule)) =>
        (done (.error ⟨error, (reply.map id.ruleset.own).toOption.map fun own =>
          .ofOrder id (Snapshot.ofRules own).order⟩)) := by
    rw [failure_run_eq]
    refine congrArg (ask _) (funext fun (reply : Except ControllerError (List Rule)) => ?_)
    cases reply with
    | error e => rfl
    | ok rules => rfl
  rw [step]
  refine .list (fun rules rules' same => ?_) fun reply => .done _
  rw [Except.map, same]
  rfl

theorem confined_readBack (updates : List IndexUpdate) : Confined id (readBack id updates) := by
  refine .list (fun rules rules' same => ?_) fun reply => ?_
  · exact congrArg (fun own => done (Except.ok (AppliedChange.mk updates
      (.ofOrder id (Snapshot.ofRules own).order)))) same
  · cases reply with
    | error e => exact confined_failure _
    | ok rules => exact .done _

theorem confined_create (defaultSite : String) (config : RulesetConfig) :
    Confined (config.target defaultSite) (create defaultSite config).run := by
  rw [create_run_eq]
  generalize config.target defaultSite = id
  refine .list (fun rules rules' same => ?_) fun reply => ?_
  · have changes : changesFor id config.order (.ok rules) =
      changesFor id config.order (.ok rules') :=
      congrArg (fun own => (Snapshot.ofRules own).plan id config.order) same
    rw [carryOut, carryOut, changes]
  · rw [carryOut]
    cases changesFor id config.order reply with
    | error error => exact confined_failure error
    | ok updates =>
      cases updates with
      | nil => exact confined_readBack []
      | cons u us =>
        refine .reorder fun sent => ?_
        cases sent with
        | error e => exact confined_failure _
        | ok _ => exact confined_readBack (u :: us)

/-! ## Four questions -/

variable {c : Contract Call Call.Answer} {post : Except ApplyFailure AppliedChange → Prop}

theorem keeps_failure (n : Nat) {error : OrderingError} (lists : c.asks (.list id.site))
    (fails : ∀ refreshed, post (.error ⟨error, refreshed⟩)) :
    c.Keeps post (n + 1) (failure id error : Operation ApplyFailure AppliedChange).run := by
  rw [failure_run_eq]
  exact Contract.keeps_ask.2 ⟨lists, fun reply _ => Contract.keeps_done.2 (fails _)⟩

/-- A creation asks at most four times. It keeps every contract that allows it to list, and to send
the changes that a promised listing calls for. -/
theorem keeps_create {defaultSite : String} {config : RulesetConfig}
    (target : config.target defaultSite = id) (lists : c.asks (.list id.site))
    (sends : ∀ reply : Except ControllerError (List Rule), c.gets (.list id.site) reply →
      ∀ updates, changesFor id config.order reply = .ok updates →
        c.asks (.reorder id.site id.ruleset updates))
    (succeeds : ∀ reply : Except ControllerError (List Rule), c.gets (.list id.site) reply →
      ∀ updates, changesFor id config.order reply = .ok updates →
        (∀ state, post (.ok ⟨updates, state⟩)) ∧
        ∀ e refreshed, post (.error ⟨.controller e, refreshed⟩))
    (fails : ∀ reply : Except ControllerError (List Rule), c.gets (.list id.site) reply →
      ∀ error, changesFor id config.order reply = .error error →
        ∀ refreshed, post (.error ⟨error, refreshed⟩)) :
    c.Keeps post 4 (create defaultSite config).run := by
  have back (n : Nat) (updates : List IndexUpdate) (hok : ∀ state, post (.ok ⟨updates, state⟩))
      (herror : ∀ e refreshed, post (.error ⟨.controller e, refreshed⟩)) :
      c.Keeps post (n + 2) (readBack id updates) := by
    refine Contract.keeps_ask.2 ⟨lists, fun (reply : Except ControllerError (List Rule)) _ => ?_⟩
    cases reply with
    | error e => exact keeps_failure n lists (herror e)
    | ok rules => exact Contract.keeps_done.2 (hok _)
  rw [create_run_eq, target]
  refine Contract.keeps_ask.2 ⟨lists, fun (reply : Except ControllerError (List Rule)) hgets => ?_⟩
  rw [carryOut]
  cases hchanges : changesFor id config.order reply with
  | error error => exact keeps_failure 2 lists (fails reply hgets error hchanges)
  | ok updates =>
    obtain ⟨hok, herror⟩ := succeeds reply hgets updates hchanges
    cases updates with
    | nil => exact back 1 [] hok herror
    | cons u us =>
      refine Contract.keeps_ask.2 ⟨sends reply hgets (u :: us) hchanges, ?_⟩
      intro (sent : Except ControllerError Unit) _
      cases sent with
      | error e => exact keeps_failure 1 lists (herror e)
      | ok _ => exact back 0 (u :: us) hok herror

/-! ## Creations by several clients -/

section Creations

variable {ι σ : Type} {answer : (call : Call) → σ → call.Answer × σ}

/-- Creations by several clients before the first turn, each from a configuration of its own. -/
def creations (defaultSite : ι → String) (config : ι → RulesetConfig) (s : σ) :
    Pool ι Call Call.Answer (Except ApplyFailure AppliedChange) σ :=
  .start (fun i => (create (defaultSite i) (config i)).run) s

variable [DecidableEq ι] {defaultSite : ι → String} {config : ι → RulesetConfig}

/-- A creation that had four turns is over, whatever the controller answers. -/
theorem creation_over (s : σ) {turns : List ι} {i : ι} (most : 4 ≤ turns.count i) :
    ∃ result, ((creations defaultSite config s).play answer turns).left i = done result := by
  let c : Contract Call Call.Answer := ⟨fun _ => True, fun _ _ => True⟩
  have keeping : c.Keeping (fun _ => True) (fun _ _ => True) (fun _ => 4)
      (creations defaultSite config s) := by
    refine Contract.keeping_start trivial fun i => ?_
    exact keeps_create rfl trivial (fun _ _ _ _ => trivial)
      (fun _ _ _ _ => ⟨fun _ => trivial, fun _ _ => trivial⟩) fun _ _ _ _ _ => trivial
  have honoured : c.Honoured (fun _ => True) answer := fun _ _ _ _ => ⟨trivial, trivial⟩
  exact (keeping.play honoured turns).returned (Nat.sub_eq_zero_of_le most)

end Creations

end Operation

end FirewallOrder
