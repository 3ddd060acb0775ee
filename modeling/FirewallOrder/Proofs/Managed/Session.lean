import FirewallOrder.Proofs.Managed.Preview

/-!
# Sessions

A session is a run of operations on one ruleset, one after the other, while nobody else changes it.
All creations and updates use one configuration. Only the first of them can have anything to send
(`session_settles`): if it fails, it leaves the controller as it is, so the others fail alike; if it
succeeds, every rule sits in its slot, and there the rules stay.
-/

namespace FirewallOrder

open Dialogue Operation Called RuleOrder

/-- An operation of a session. -/
inductive Act
  | create
  | update (prior : RulesetState)
  | read (state : RulesetState)
  | importId (raw : String)
  | plan (config : RulesetConfig)
  | delete (state : RulesetState)

/-- What an operation of a session returned. -/
inductive Outcome
  | changed (result : Except ApplyFailure AppliedChange)
  | shown (result : Except OrderingError RulesetState)
  | planned (result : Except OrderingError PlannedChange)
  | deleted (result : Except OrderingError Unit)

/-- An operation of a session that is over: what it returned, and what it asked. -/
structure Entry where
  outcome : Outcome
  calls : List Call

namespace Act

/-- The operation is about this ruleset. -/
def On (defaultSite : String) (id : RulesetId) : Act → Prop
  | create => True
  | update prior => prior.target = id
  | read state => state.target = id
  | importId raw => RulesetId.ofText raw = .ok id
  | plan config => config.target defaultSite = id
  | delete state => state.target = id

/-- The operation brings an order about. -/
def isChange : Act → Bool
  | create | update _ => true
  | read _ | importId _ | plan _ | delete _ => false

/-- The state that the operation is given. -/
def object? : Act → Option RulesetState
  | update prior => some prior
  | read state | delete state => some state
  | create | importId _ | plan _ => none

/-- The ruleset that the operation makes an object of. -/
def root? (defaultSite : String) (config : RulesetConfig) : Act → Option RulesetId
  | create => some (config.target defaultSite)
  | importId raw => (RulesetId.ofText raw).toOption
  | update _ | read _ | plan _ | delete _ => none

section Perform

variable {σ : Type} (answer : (call : Call) → σ → call.Answer × σ) (defaultSite : String)
  (config : RulesetConfig)

/-- What the operation returns and asks in a state of the controller, and the state after it.
Creations and updates are for the configuration of the session. -/
def perform (s : σ) : Act → Outcome × List Call × σ
  | create => ((Operation.create defaultSite config).runOn answer s).map .changed id
  | update prior => ((Operation.update defaultSite prior config).runOn answer s).map .changed id
  | read state => ((Operation.read state).runOn answer s).map .shown id
  | importId raw => ((Operation.importId raw).runOn answer s).map .shown id
  | plan config => ((Operation.plan defaultSite config).runOn answer s).map .planned id
  | delete state => ((Operation.delete state).runOn answer s).map .deleted id

/-- The entry of an operation that is performed in a state of the controller. -/
def entry (s : σ) (act : Act) : Entry :=
  ⟨(act.perform answer defaultSite config s).1, (act.perform answer defaultSite config s).2.1⟩

end Perform

end Act

/-- The operations performed one after the other. -/
def session {σ : Type} (answer : (call : Call) → σ → call.Answer × σ) (defaultSite : String)
    (config : RulesetConfig) : σ → List Act → List Entry
  | _, [] => []
  | s, act :: acts =>
    act.entry answer defaultSite config s ::
      session answer defaultSite config (act.perform answer defaultSite config s).2.2 acts

namespace Entry

/-- The changes that were sent. -/
def changes (e : Entry) : List Call := e.calls.filter Call.isChange

/-- It is the entry of a creation or an update. -/
def IsChange (e : Entry) : Prop := ∃ result, e.outcome = .changed result

/-- The state that was returned, if there is one: that of a success, or that left behind by a
failure. -/
def state? (e : Entry) : Option RulesetState :=
  match e.outcome with
  | .changed (.ok result) => some result.state
  | .changed (.error reason) => reason.refreshed
  | .shown (.ok state) => some state
  | _ => none

theorem state?_shown_eq_some_iff {result : Except OrderingError RulesetState} {calls : List Call}
    {state : RulesetState} : Entry.state? ⟨.shown result, calls⟩ = some state ↔
    result = .ok state := by
  cases result with
  | error e => exact iff_of_false nofun nofun
  | ok found => exact ⟨fun h => congrArg Except.ok (Option.some.inj h), fun h => by cases h; rfl⟩

end Entry

section Sessions

variable {σ : Type} {answer : (call : Call) → σ → call.Answer × σ} {defaultSite : String}
  {config : RulesetConfig} {s t : σ} {acts : List Act}

/-! ## Operations one by one -/

/-- An update of an object of the session is a creation. -/
theorem Act.perform_of_isChange (answer : (call : Call) → σ → call.Answer × σ) (s : σ) {act : Act}
    (on : act.On defaultSite (config.target defaultSite)) (change : act.isChange = true) :
    act.perform answer defaultSite config s =
      ((Operation.create defaultSite config).runOn answer s).map .changed id := by
  cases act with
  | create => rfl
  | update prior =>
    have same : config.target defaultSite = prior.target := Eq.symm on
    rw [Act.perform, Operation.update, if_pos same]
  | read _ | importId _ | plan _ | delete _ => cases change

/-- An update to the same ruleset is a creation, and one to another is refused before anything is
asked. -/
theorem Act.perform_update (answer : (call : Call) → σ → call.Answer × σ) (defaultSite : String)
    (config : RulesetConfig) (s : σ) (prior : RulesetState) :
    (update prior).perform answer defaultSite config s =
      if config.target defaultSite = prior.target then create.perform answer defaultSite config s
      else (.changed (.error ⟨.invalid ("cannot move firewall ruleset " ++ prior.id ++ " to " ++
        (config.target defaultSite).display ++ "; site and ruleset are fixed"), none⟩), [], s) := by
  by_cases same : config.target defaultSite = prior.target
  · rw [if_pos same]
    exact perform_of_isChange answer s same.symm rfl
  · rw [if_neg same, Act.perform, Operation.update, if_neg same]
    rfl

/-- An operation that is no change sends nothing, and leaves a controller as it is that listings
leave as it is. -/
theorem Act.perform_of_not_isChange (defaultSite : String) (config : RulesetConfig) (s : σ)
    (pure : ∀ site s, (answer (.list site) s).2 = s) {act : Act} (look : act.isChange = false) :
    (act.perform answer defaultSite config s).2.2 = s ∧
      (act.entry answer defaultSite config s).changes = [] ∧
      ¬ (act.entry answer defaultSite config s).IsChange := by
  have quiet {ε α : Type} {op : Operation ε α} (only : OnlyLists answer s op) :
      (op.runOn answer s).2.2 = s ∧ (op.runOn answer s).2.1.filter Call.isChange = [] := by
    refine ⟨only.same pure, List.filter_eq_nil_iff.2 fun call hcall => ?_⟩
    obtain ⟨site, rfl⟩ := only.calls call hcall
    exact Bool.false_ne_true
  have other (result : Outcome) (h : ∀ r, result ≠ .changed r) (calls : List Call) :
      ¬ Entry.IsChange ⟨result, calls⟩ := fun ⟨r, hr⟩ => h r hr
  cases act with
  | create | update _ => cases look
  | read state =>
    obtain ⟨same, calls⟩ := quiet (.readState state.target)
    exact ⟨same, calls, other _ (by rintro _ ⟨⟩) _⟩
  | importId raw =>
    obtain ⟨same, calls⟩ := quiet (.importId raw)
    exact ⟨same, calls, other _ (by rintro _ ⟨⟩) _⟩
  | plan config =>
    obtain ⟨same, calls⟩ := quiet (.plan defaultSite config)
    exact ⟨same, calls, other _ (by rintro _ ⟨⟩) _⟩
  | delete state =>
    obtain ⟨same, calls⟩ := quiet (OnlyLists.ofExcept (Except.ok () : Except OrderingError Unit))
    exact ⟨same, calls, other _ (by rintro _ ⟨⟩) _⟩

/-- A reading shows what a listing holds. -/
theorem exists_ofListing_of_readState {id : RulesetId} {state : RulesetState}
    (h : ((readState id).runOn answer s).1 = .ok state) : ∃ rules, state = .ofListing id rules := by
  rcases ran : (readState id).runOn answer s with ⟨result, calls, t⟩
  rw [ran] at h
  obtain rfl : result = .ok state := h
  obtain ⟨turns, hrun, -⟩ := runOn_eq_iff.1 ran
  obtain ⟨reply, -, hstate⟩ := run_readState_iff.1 hrun
  cases reply with
  | error e => cases hstate
  | ok rules =>
    cases hstate
    exact ⟨rules, rfl⟩

/-- So does a creation, also one that fails and leaves a state behind. -/
theorem exists_ofListing_of_create {state : RulesetState}
    (h : (Act.create.entry answer defaultSite config s).state? = some state) :
    ∃ rules, state = .ofListing (config.target defaultSite) rules := by
  rcases ran : (Operation.create defaultSite config).runOn answer s with ⟨outcome, calls, t⟩
  have same : Act.create.entry answer defaultSite config s = ⟨.changed outcome, calls⟩ := by
    rw [Act.entry, Act.perform, ran]
    rfl
  rw [same] at h
  obtain ⟨turns, hrun, -⟩ := runOn_eq_iff.1 ran
  cases outcome with
  | ok result =>
    obtain ⟨first, last, -, -, hstate⟩ := run_create_ok_iff.1 hrun
    obtain rfl : result.state = state := Option.some.inj h
    exact ⟨last, hstate⟩
  | error reason =>
    obtain ⟨attempt, reply, -, -, hrefreshed⟩ := run_create_error_iff.1 hrun
    have hstate : reason.refreshed = some state := h
    rw [hstate] at hrefreshed
    cases reply with
    | error e => cases hrefreshed
    | ok rules => exact ⟨rules, Option.some.inj hrefreshed⟩

/-- Every state that is returned was made of a listing: for the object that the operation was given,
or for the ruleset that it makes one of. -/
theorem Act.exists_ofListing_of_state? {act : Act} {state : RulesetState}
    (h : (act.entry answer defaultSite config s).state? = some state) :
    ∃ id rules, state = .ofListing id rules ∧
      (act.root? defaultSite config = some id ∨ act.object?.map RulesetState.target = some id) := by
  cases act with
  | create =>
    obtain ⟨rules, same⟩ := exists_ofListing_of_create h
    exact ⟨_, rules, same, .inl rfl⟩
  | update prior =>
    rw [Act.entry, Act.perform_update] at h
    by_cases same : config.target defaultSite = prior.target
    · rw [if_pos same] at h
      obtain ⟨rules, hstate⟩ := exists_ofListing_of_create h
      exact ⟨_, rules, hstate, .inr (congrArg some same.symm)⟩
    · rw [if_neg same] at h
      cases h
  | read object =>
    obtain ⟨rules, same⟩ := exists_ofListing_of_readState (Entry.state?_shown_eq_some_iff.1 h)
    exact ⟨_, rules, same, .inr rfl⟩
  | importId raw =>
    rw [Act.entry, Act.perform, Operation.importId] at h
    cases parsed : RulesetId.ofText raw with
    | error fault =>
      rw [parsed] at h
      cases h
    | ok id =>
      rw [parsed] at h
      obtain ⟨rules, same⟩ := exists_ofListing_of_readState (Entry.state?_shown_eq_some_iff.1 h)
      exact ⟨id, rules, same, .inl (congrArg Except.toOption parsed)⟩
  | plan _ | delete _ => cases h

/-- Every state that an operation of a session returns is of the ruleset of the session, and can be
handed to the next operation. -/
theorem Act.target_of_state? {act : Act} (on : act.On defaultSite (config.target defaultSite))
    {state : RulesetState} (h : (act.entry answer defaultSite config s).state? = some state) :
    state.target = config.target defaultSite := by
  obtain ⟨id, rules, rfl, made | given⟩ := exists_ofListing_of_state? h
  · cases act with
    | create => exact (Option.some.inj made).symm
    | importId raw =>
      have parsed : RulesetId.ofText raw = .ok (config.target defaultSite) := on
      rw [root?, parsed] at made
      exact (Option.some.inj made).symm
    | update _ | read _ | plan _ | delete _ => cases made
  · cases act with
    | update object | read object | delete object =>
      have same : object.target = config.target defaultSite := on
      exact (Option.some.inj given).symm.trans same
    | create | importId _ | plan _ => cases given

/-! ## One operation after the other -/

/-- As long as the operations leave the controller as it is, each finds it as the first one did. -/
theorem session_append (still : ∀ act ∈ acts, (act.perform answer defaultSite config s).2.2 = s)
    (more : List Act) :
    session answer defaultSite config s (acts ++ more) =
      acts.map (·.entry answer defaultSite config s) ++
        session answer defaultSite config s more := by
  induction acts with
  | nil => rfl
  | cons act acts ih =>
    rw [List.cons_append, session, still act List.mem_cons_self,
      ih fun a ha => still a (List.mem_cons_of_mem act ha)]
    rfl

theorem session_of_still (still : ∀ act ∈ acts, (act.perform answer defaultSite config s).2.2 = s) :
    session answer defaultSite config s acts =
      acts.map (·.entry answer defaultSite config s) := by
  have h := session_append still []
  rwa [List.append_nil, session, List.append_nil] at h

theorem exists_act_of_mem_session {e : Entry} (h : e ∈ session answer defaultSite config s acts) :
    ∃ act ∈ acts, ∃ s', e = act.entry answer defaultSite config s' := by
  induction acts generalizing s with
  | nil => cases h
  | cons act acts ih =>
    rcases List.mem_cons.1 h with rfl | h
    · exact ⟨act, List.mem_cons_self, s, rfl⟩
    · obtain ⟨a, ha, s', same⟩ := ih h
      exact ⟨a, List.mem_cons_of_mem act ha, s', same⟩

/-! ## Creations that fail, and creations that settle the order -/

variable {rules? : σ → String → Option (List Rule)}

theorem KeepsRules.listing_ok (keeps : KeepsRules answer rules?) {site : String} {rules : List Rule}
    (h : rules? s site = some rules) : (answer (.list site) s).1 = .ok rules := by
  have hlists := keeps.lists site s
  rw [h] at hlists
  cases hreply : (answer (.list site) s).1 with
  | error e =>
    rw [hreply] at hlists
    cases hlists
  | ok found =>
    rw [hreply] at hlists
    exact congrArg Except.ok (Option.some.inj hlists)

/-- A creation finds nothing to do, and shows this state. -/
structure Settled (answer : (call : Call) → σ → call.Answer × σ) (defaultSite : String)
    (config : RulesetConfig) (state : RulesetState) (s : σ) : Prop where
  create : (Operation.create defaultSite config).runOn answer s =
    (.ok ⟨[], state⟩,
      [.list (config.target defaultSite).site, .list (config.target defaultSite).site], s)
  read : ((readState (config.target defaultSite)).runOn answer s).1 = .ok state

theorem KeepsRules.settled_of_create (keeps : KeepsRules answer rules?)
    (pure : ∀ site s, (answer (.list site) s).2 = s)
    (distinct : ∀ rules, rules? s (config.target defaultSite).site = some rules →
      ((config.ruleset.own rules).map (·.id)).Nodup)
    {result : AppliedChange} {calls : List Call}
    (ran : (Operation.create defaultSite config).runOn answer s = (.ok result, calls, t)) :
    Settled answer defaultSite config result.state t := by
  obtain ⟨first, last, hfirst, hlast, planned, hreindexed, -, hstate, -⟩ := keeps.of_create_ok ran
  have hdistinct : (((config.target defaultSite).ruleset.own first).map (·.id)).Nodup :=
    distinct first hfirst
  obtain ⟨fits, none⟩ := settled_of_reindexed hdistinct planned hreindexed
  -- So the plan for the rules as they are now is empty: creating again lists twice, and that is
  -- all.
  have replan := Snapshot.plan_ofSite_eq_ok_iff.2 ⟨fits, none.symm⟩
  have listing := keeps.listing_ok hlast
  have again := pure (config.target defaultSite).site t
  rw [hstate]
  refine ⟨runOn_eq_iff.2 ?_, keeps.runOn_readState_ok hlast⟩
  refine ⟨_, run_create_ok_iff.2 ⟨last, last, rfl, replan, rfl⟩, ⟨listing, ?_⟩, rfl⟩
  exact ⟨(congrArg (fun u => (answer (.list _) u).1) again).trans listing,
    ((congrArg (fun u => (answer (.list _) u).2) again).trans again).symm⟩

theorem Reliable.still_of_create_error (reliable : Reliable answer rules?)
    (pure : ∀ site s, (answer (.list site) s).2 = s) {failure : ApplyFailure} {calls : List Call}
    (ran : (Operation.create defaultSite config).runOn answer s = (.error failure, calls, t)) :
    t = s ∧ calls.filter Call.isChange = [] := by
  obtain ⟨-, hcalls, hlistings, -⟩ := reliable.of_create_error ran
  rw [hcalls]
  exact ⟨hlistings.eq_of_pure pure, rfl⟩

/-- The operation has sent nothing, and what it returned is this state. -/
structure Entry.Shows (state : RulesetState) (e : Entry) : Prop where
  sent : e.changes = []
  changed : ∀ outcome, e.outcome = .changed outcome → outcome = .ok ⟨[], state⟩
  shown : ∀ outcome, e.outcome = .shown outcome → outcome = .ok state

/-- In a settled state every operation leaves all as it is. -/
theorem Settled.entry {state : RulesetState} (settled : Settled answer defaultSite config state s)
    (pure : ∀ site s, (answer (.list site) s).2 = s) {act : Act}
    (on : act.On defaultSite (config.target defaultSite)) :
    (act.perform answer defaultSite config s).2.2 = s ∧
      (act.entry answer defaultSite config s).Shows state := by
  cases change : act.isChange with
  | true =>
    have performed := Act.perform_of_isChange answer s on change
    rw [settled.create] at performed
    rw [Act.entry, performed]
    refine ⟨rfl, rfl, ?_, ?_⟩
    · rintro outcome ⟨⟩
      rfl
    · rintro outcome ⟨⟩
  | false =>
    obtain ⟨same, quiet, other⟩ := Act.perform_of_not_isChange defaultSite config s pure change
    refine ⟨same, quiet, fun outcome h => absurd ⟨outcome, h⟩ other, ?_⟩
    intro outcome h
    cases act with
    | create | update _ => cases change
    | read of =>
      have target : of.target = config.target defaultSite := on
      rw [Act.entry, Act.perform, Operation.read, target] at h
      cases h
      exact settled.read
    | importId raw =>
      have parsed : RulesetId.ofText raw = .ok (config.target defaultSite) := on
      rw [Act.entry, Act.perform, Operation.importId, parsed] at h
      cases h
      exact settled.read
    | plan _ | delete _ => cases h

/-- Where a creation fails and leaves the controller as it is, so does every operation. -/
theorem Act.entry_of_failing (pure : ∀ site s, (answer (.list site) s).2 = s)
    {failure : ApplyFailure} {calls : List Call} (quiet : calls.filter Call.isChange = [])
    (ran : (Operation.create defaultSite config).runOn answer s = (.error failure, calls, s))
    {act : Act} (on : act.On defaultSite (config.target defaultSite)) :
    (act.perform answer defaultSite config s).2.2 = s ∧
      (act.entry answer defaultSite config s).changes = [] ∧
      ∀ result, (act.entry answer defaultSite config s).outcome = .changed result →
        result = .error failure := by
  cases change : act.isChange with
  | true =>
    have performed := Act.perform_of_isChange answer s on change
    rw [ran] at performed
    rw [Act.entry, performed]
    refine ⟨rfl, quiet, ?_⟩
    rintro result ⟨⟩
    rfl
  | false =>
    obtain ⟨same, none, other⟩ := Act.perform_of_not_isChange defaultSite config s pure change
    exact ⟨same, none, fun result h => absurd ⟨result, h⟩ other⟩

theorem length_changes_of_create_le {outcome : Except ApplyFailure AppliedChange}
    {calls : List Call}
    (ran : (Operation.create defaultSite config).runOn answer s = (outcome, calls, t)) :
    (calls.filter Call.isChange).length ≤ 1 := by
  obtain ⟨turns, hrun, -, rfl⟩ := runOn_eq_iff.1 ran
  obtain ⟨reply, rest, -, follows⟩ := run_create_follows hrun
  cases hchanges : changesFor (config.target defaultSite) config.order reply with
  | error error =>
    rw [hchanges] at follows
    rw [follows.2]
    exact Nat.zero_le 1
  | ok updates =>
    rw [hchanges] at follows
    by_cases none : updates = []
    · rw [follows, if_pos none]
      exact Nat.zero_le 1
    · rw [follows, if_neg none]
      exact Nat.le_refl 1

/-! ## Whole sessions -/

theorem Act.exists_looks_append (acts : List Act) :
    ∃ looks rest, acts = looks ++ rest ∧ (∀ act ∈ looks, act.isChange = false) ∧
      (rest = [] ∨ ∃ change later, rest = change :: later ∧ change.isChange = true) := by
  cases hfind : acts.find? isChange with
  | none =>
    refine ⟨acts, [], (List.append_nil acts).symm, fun act hact => ?_, .inl rfl⟩
    simpa using List.find?_eq_none.1 hfind act hact
  | some change =>
    obtain ⟨hchange, looks, later, rfl, hlooks⟩ := List.find?_eq_some_iff_append.1 hfind
    refine ⟨looks, _, rfl, fun act hact => ?_, .inr ⟨change, later, rfl, hchange⟩⟩
    simpa using hlooks act hact

/-- From its first change on, a session whose creations succeed shows one state. -/
theorem session_from_change {start final : σ} {result : AppliedChange} {calls : List Call}
    (pure : ∀ site s, (answer (.list site) s).2 = s)
    (ran : (Operation.create defaultSite config).runOn answer start = (.ok result, calls, final))
    (settled : Settled answer defaultSite config result.state final) {change : Act}
    {later : List Act} (hchange : change.isChange = true)
    (on : ∀ act ∈ change :: later, act.On defaultSite (config.target defaultSite)) :
    ∃ first rest, session answer defaultSite config start (change :: later) = first :: rest ∧
      first.outcome = .changed (.ok result) ∧ first.changes.length ≤ 1 ∧
      ∀ e ∈ rest, e.Shows result.state := by
  have each (act : Act) (hact : act ∈ later) :=
    settled.entry pure (on act (List.mem_cons_of_mem change hact))
  have performed := Act.perform_of_isChange answer start (on change List.mem_cons_self) hchange
  rw [ran] at performed
  refine ⟨⟨.changed (.ok result), calls⟩,
    later.map (·.entry answer defaultSite config final), ?_, rfl, length_changes_of_create_le ran,
    fun e he => ?_⟩
  · rw [session, Act.entry, performed]
    exact congrArg _ (session_of_still fun act hact => (each act hact).1)
  · obtain ⟨act, hact, rfl⟩ := List.mem_map.1 he
    exact (each act hact).2

/-- The operations of a log that come after a creation or update all show one state. -/
structure Settles (state : RulesetState) (log : List Entry) : Prop where
  once : (log.flatMap Entry.changes).length ≤ 1
  only : ∀ e ∈ log, e.changes ≠ [] → e.IsChange
  succeeds : ∀ e ∈ log, ∀ outcome, e.outcome = .changed outcome →
    ∃ updates, outcome = .ok ⟨updates, state⟩
  after : log.Pairwise fun e later => e.IsChange → later.Shows state

namespace Settles

variable {state : RulesetState}

theorem nil : Settles state [] := by
  refine ⟨Nat.zero_le 1, ?_, ?_, .nil⟩
  · rintro e ⟨⟩
  · rintro e ⟨⟩

theorem cons {first : Entry} {rest : List Entry} {updates : List IndexUpdate}
    (changed : first.outcome = .changed (.ok ⟨updates, state⟩)) (once : first.changes.length ≤ 1)
    (shows : ∀ e ∈ rest, e.Shows state) : Settles state (first :: rest) := by
  refine ⟨?_, ?_, ?_, ?_⟩
  · rw [List.flatMap_cons, List.flatMap_eq_nil_iff.2 fun e he => (shows e he).sent, List.append_nil]
    exact once
  · intro e he some
    rcases List.mem_cons.1 he with rfl | he
    · exact ⟨_, changed⟩
    · exact absurd (shows e he).sent some
  · intro e he outcome houtcome
    rcases List.mem_cons.1 he with rfl | he
    · rw [changed] at houtcome
      cases houtcome
      exact ⟨updates, rfl⟩
    · exact ⟨[], (shows e he).changed outcome houtcome⟩
  · rw [List.pairwise_cons]
    exact ⟨fun e he _ => shows e he,
      List.pairwise_of_forall_mem_list fun _ _ e he _ => shows e he⟩

theorem append {front log : List Entry} (looks : ∀ e ∈ front, e.changes = [] ∧ ¬ e.IsChange)
    (settles : Settles state log) : Settles state (front ++ log) := by
  refine ⟨?_, ?_, ?_, ?_⟩
  · rw [List.flatMap_append, List.flatMap_eq_nil_iff.2 fun e he => (looks e he).1, List.nil_append]
    exact settles.once
  · intro e he some
    rcases List.mem_append.1 he with he | he
    · exact absurd (looks e he).1 some
    · exact settles.only e he some
  · intro e he outcome houtcome
    rcases List.mem_append.1 he with he | he
    · exact absurd ⟨outcome, houtcome⟩ (looks e he).2
    · exact settles.succeeds e he outcome houtcome
  · rw [List.pairwise_append]
    refine ⟨?_, settles.after, fun e he _ _ change => absurd change (looks e he).2⟩
    exact List.pairwise_of_forall_mem_list fun e he _ _ change => absurd change (looks e he).2

end Settles

/-- **Only the first change of a session can have anything to send.** Let a reliable controller,
which listings leave as it is, have any rules, of which no two in the ruleset share an identity. In
a session of any length, in which nobody else changes the ruleset,

* at most one change of indices is sent, and if so by the first creation or update;
* either all creations and updates fail with the same failure, or all succeed and show the same
  state, with nothing sent after the first one, and this is what every reading and import after it
  shows;
* every state that is returned is of the ruleset of the session, so an update can be given the
  last. -/
theorem session_settles (reliable : Reliable answer rules?)
    (pure : ∀ site s, (answer (.list site) s).2 = s) {start : σ}
    (distinct : ∀ rules, rules? start (config.target defaultSite).site = some rules →
      ((config.ruleset.own rules).map (·.id)).Nodup)
    (on : ∀ act ∈ acts, act.On defaultSite (config.target defaultSite)) :
    let log := session answer defaultSite config start acts
    (log.flatMap Entry.changes).length ≤ 1 ∧
    (∀ e ∈ log, e.changes ≠ [] → e.IsChange) ∧
    log.Pairwise (fun e later => e.IsChange → later.changes = []) ∧
    ((∃ failure, ∀ e ∈ log, ∀ outcome, e.outcome = .changed outcome → outcome = .error failure) ∨
      ∃ state,
        (∀ e ∈ log, ∀ outcome, e.outcome = .changed outcome →
          ∃ updates, outcome = .ok ⟨updates, state⟩) ∧
        log.Pairwise fun e later => e.IsChange →
          (∀ outcome, later.outcome = .changed outcome → outcome = .ok ⟨[], state⟩) ∧
          ∀ outcome, later.outcome = .shown outcome → outcome = .ok state) ∧
    ∀ e ∈ log, ∀ state, e.state? = some state → state.target = config.target defaultSite := by
  intro log
  have targets : ∀ e ∈ log, ∀ state, e.state? = some state →
      state.target = config.target defaultSite := by
    intro e he state hstate
    obtain ⟨act, hact, s, rfl⟩ := exists_act_of_mem_session he
    exact Act.target_of_state? (on act hact) hstate
  rcases ran : (Operation.create defaultSite config).runOn answer start with ⟨outcome, calls, final⟩
  cases outcome with
  | error failure =>
    -- The controller is still as it was, so the next one fails in the same way.
    obtain ⟨rfl, quiet⟩ := reliable.still_of_create_error pure ran
    have failing (act : Act) (hact : act ∈ acts) :=
      Act.entry_of_failing pure quiet ran (on act hact)
    have hlog : log = acts.map (·.entry answer defaultSite config final) :=
      session_of_still fun act hact => (failing act hact).1
    have each : ∀ e ∈ log, e.changes = [] ∧
        ∀ outcome, e.outcome = .changed outcome → outcome = .error failure := by
      intro e he
      rw [hlog] at he
      obtain ⟨act, hact, rfl⟩ := List.mem_map.1 he
      exact (failing act hact).2
    refine ⟨?_, fun e he some => absurd (each e he).1 some, ?_,
      .inl ⟨failure, fun e he => (each e he).2⟩, targets⟩
    · rw [List.flatMap_eq_nil_iff.2 fun e he => (each e he).1]
      exact Nat.zero_le 1
    · exact List.pairwise_of_forall_mem_list fun e _ later hlater _ => (each later hlater).1
  | ok result =>
    have settled := reliable.toKeepsRules.settled_of_create pure distinct ran
    -- Up to the first change the controller is as at first, and after it, it is settled.
    obtain ⟨looks, rest, rfl, looking, hrest⟩ := Act.exists_looks_append acts
    have look (act : Act) (hact : act ∈ looks) :=
      Act.perform_of_not_isChange defaultSite config start pure (looking act hact)
    have hlog : log = looks.map (·.entry answer defaultSite config start) ++
        session answer defaultSite config start rest :=
      session_append (fun act hact => (look act hact).1) rest
    have before : ∀ e ∈ looks.map (·.entry answer defaultSite config start),
        e.changes = [] ∧ ¬ e.IsChange := by
      intro e he
      obtain ⟨act, hact, rfl⟩ := List.mem_map.1 he
      exact (look act hact).2
    have settles : Settles result.state (session answer defaultSite config start rest) := by
      rcases hrest with rfl | ⟨change, later, rfl, hchange⟩
      · exact .nil
      · have on' : ∀ act ∈ change :: later, act.On defaultSite (config.target defaultSite) :=
          fun act hact => on act (List.mem_append_right looks hact)
        obtain ⟨first, rest, hsession, changed, once, shows⟩ :=
          session_from_change pure ran settled hchange on'
        rw [hsession]
        exact .cons changed once shows
    obtain ⟨once, only, succeeds, after⟩ := settles.append before
    rw [← hlog] at once only succeeds after
    exact ⟨once, only, after.imp fun h change => (h change).sent,
      .inr ⟨result.state, succeeds,
        after.imp fun h change => ⟨(h change).changed, (h change).shown⟩⟩,
      targets⟩

end Sessions

/-- A session that looks before its first change, updates to the same order, and looks again. -/
def Memory.visits : List Act :=
  [.read here, .create, .importId "default:lan_in", .update here, .plan crossing, .delete here]
where
  here : RulesetState := .ofOrder (crossing.target "default") ⟨["a"], []⟩

theorem session_settles_crossing :
    let log := session Memory.answer "default" Memory.crossing Memory.crossed Memory.visits
    (∀ rules, Memory.crossed.rules? "default" = some rules →
      ((Memory.crossing.ruleset.own rules).map (·.id)).Nodup) ∧
    (∀ act ∈ Memory.visits, act.On "default" (Memory.crossing.target "default")) ∧
    (log.flatMap Entry.changes).length ≤ 1 ∧
    ∃ state, ∀ e ∈ log, ∀ outcome, e.outcome = .changed outcome →
      ∃ updates, outcome = .ok ⟨updates, state⟩ := by
  have on : ∀ act ∈ Memory.visits, act.On "default" (Memory.crossing.target "default") := by
    intro act hact
    simp only [Memory.visits, List.mem_cons, List.not_mem_nil, or_false] at hact
    rcases hact with rfl | rfl | rfl | rfl | rfl | rfl
    · exact rfl
    · exact trivial
    · show RulesetId.ofText "default:lan_in" = .ok _
      decide
    · exact rfl
    · exact rfl
    · exact rfl
  obtain ⟨once, -, -, ⟨failure, fails⟩ | ⟨state, succeeds, -⟩, -⟩ :=
    session_settles Memory.reliable (fun site m => Memory.answer_list_snd m site)
      Memory.nodup_crossed on
  · have failed := fails _ (List.mem_cons_of_mem _ List.mem_cons_self)
      (.ok ⟨[⟨"b", 2000⟩, ⟨"c", 2001⟩, ⟨"a", 4000⟩],
        .ofOrder (Memory.crossing.target "default") Memory.crossing.order⟩) (by cbv)
    cases failed
  · exact ⟨Memory.nodup_crossed, on, once, state, succeeds⟩

end FirewallOrder
