import FirewallOrder.Proofs.Managed.Runs
import FirewallOrder.Proofs.Controller.Keeper

/-!
# What operations overlook

Of all that a listing shows, an operation on a ruleset sees the identities and the indices of the
ruleset's rules in the bands, and no more. Two listings that agree in these are `Ruleset.Alike`, in
whatever order they list them, and however they differ in other rules and in everything else that a
rule holds; they give the same snapshot (`Snapshot.ofSite_eq_of_alike`), unless two of the rules
share an index, so that the order of the listing counts.

A dialogue `SeesOnly` snapshots if it goes on in the same way after two listings with the same
snapshot. All operations do. So on two controllers whose listings are alike and which accept the
same changes they ask the same and end in the same way (`Operation.operations_overlook`): nothing
that they see elsewhere leaks into a result, an error or a request.
-/

namespace FirewallOrder

open scoped List
open Dialogue

/-! ## Listings that are alike -/

namespace Ruleset

variable {ruleset : Ruleset} {rules rules' : List Rule}

/-- Two listings show the same rules of the ruleset in the bands, and no two of these share an
index. -/
structure Alike (ruleset : Ruleset) (rules rules' : List Rule) : Prop where
  places : ruleset.places rules ~ ruleset.places rules'
  distinct : ((ruleset.places rules).map (·.index)).Nodup

theorem filter_holds_places (b : Band) (ruleset : Ruleset) (rules : List Rule) :
    (ruleset.places rules).filter (fun p => b.Holds p.index) =
      ((ruleset.own rules).filter fun r => b.Holds r.index).map Rule.placed := by
  rw [places, List.filter_map, ← filter_holds_managed]
  rfl

/-- The rules of a band by ascending index: there is one way to list them, unless two share an
index. -/
theorem Alike.layOut_eq (alike : ruleset.Alike rules rules') (b : Band) :
    Snapshot.layOut b (ruleset.own rules) = Snapshot.layOut b (ruleset.own rules') := by
  -- Both list the same rules by ascending index, and strictly so, since no two of the indices are
  -- equal.
  have mine := Snapshot.layOut_perm b (ruleset.own rules')
  rw [← filter_holds_places] at mine
  have same : Snapshot.layOut b (ruleset.own rules') ~
      (ruleset.places rules).filter fun p => b.Holds p.index :=
        mine.trans (alike.places.filter _).symm
  have distinct : ((Snapshot.layOut b (ruleset.own rules')).map (·.index)).Nodup := by
    rw [(same.map (·.index)).nodup_iff]
    exact alike.distinct.sublist (List.filter_sublist.map _)
  refine Snapshot.layOut_eq ?_ (same.trans (.of_eq (filter_holds_places b ruleset rules)))
  rw [List.Nodup, List.pairwise_map] at distinct
  exact (Snapshot.layOut_ascends b (ruleset.own rules')).imp₂
    (fun _ _ le ne => Int.lt_iff_le_and_ne.2 ⟨le, ne⟩) distinct

end Ruleset

theorem Snapshot.ofSite_eq_of_alike {ruleset : Ruleset} {rules rules' : List Rule}
    (alike : ruleset.Alike rules rules') : ofSite ruleset rules = ofSite ruleset rules' :=
  congrArg₂ Snapshot.mk (alike.layOut_eq .before) (alike.layOut_eq .after)

/-! ## Controllers that cannot be told apart -/

/-- The replies to the listings among some calls, in their order. -/
def Called.listings (turns : List Called) : List (Except ControllerError (List Rule)) :=
  turns.filterMap fun
    | ⟨.list _, reply⟩ => some reply
    | ⟨.reorder .., _⟩ => none

/-- The replies to the changes among some calls, in their order. -/
def Called.outcomes (turns : List Called) : List (Except ControllerError Unit) :=
  turns.filterMap fun
    | ⟨.list _, _⟩ => none
    | ⟨.reorder .., reply⟩ => some reply

namespace Ruleset

/-- Two replies to a listing: the same failure, or listings that are alike. -/
inductive AlikeReplies (ruleset : Ruleset) :
    Except ControllerError (List Rule) → Except ControllerError (List Rule) → Prop
  | failed (e : ControllerError) : AlikeReplies ruleset (.error e) (.error e)
  | listed {rules rules' : List Rule} (alike : ruleset.Alike rules rules') :
    AlikeReplies ruleset (.ok rules) (.ok rules')

/-- Calls to two controllers: the listings of each turn are alike, and so is what came of the
changes. Calls that only one of the controllers gets do not count. -/
structure AlikeTurns (ruleset : Ruleset) (turns turns' : List Called) : Prop where
  listings : ∀ (k : Nat) reply reply', (Called.listings turns)[k]? = some reply →
    (Called.listings turns')[k]? = some reply' → ruleset.AlikeReplies reply reply'
  outcomes : ∀ (k : Nat) reply reply', (Called.outcomes turns)[k]? = some reply →
    (Called.outcomes turns')[k]? = some reply' → reply = reply'

namespace AlikeTurns

variable {ruleset : Ruleset} {turns turns' : List Called}

theorem of_list {site : String} {reply reply' : Except ControllerError (List Rule)}
    (h : ruleset.AlikeTurns (⟨.list site, reply⟩ :: turns) (⟨.list site, reply'⟩ :: turns')) :
    ruleset.AlikeReplies reply reply' ∧ ruleset.AlikeTurns turns turns' :=
  ⟨h.listings 0 reply reply' rfl rfl, fun k => h.listings (k + 1), h.outcomes⟩

theorem of_reorder {site : String} {r : Ruleset} {updates : List IndexUpdate}
    {reply reply' : Except ControllerError Unit}
    (h : ruleset.AlikeTurns (⟨.reorder site r updates, reply⟩ :: turns)
      (⟨.reorder site r updates, reply'⟩ :: turns')) :
    reply = reply' ∧ ruleset.AlikeTurns turns turns' :=
  ⟨h.outcomes 0 reply reply' rfl rfl, h.listings, fun k => h.outcomes (k + 1)⟩

end AlikeTurns

end Ruleset

/-! ## Dialogues that see only snapshots -/

/-- A dialogue that goes on in the same way after two listings with the same snapshot of the
ruleset. -/
inductive SeesOnly (ruleset : Ruleset) {α : Type} : Dialogue Call Call.Answer α → Prop
  | done (a : α) : SeesOnly ruleset (done a)
  | list {site : String} {next : Except ControllerError (List Rule) → Dialogue Call Call.Answer α}
      (looks : ∀ rules rules', Snapshot.ofSite ruleset rules = Snapshot.ofSite ruleset rules' →
        next (.ok rules) = next (.ok rules'))
      (rest : ∀ reply, SeesOnly ruleset (next reply)) : SeesOnly ruleset (ask (.list site) next)
  | reorder {site : String} {r : Ruleset} {updates : List IndexUpdate}
      {next : Except ControllerError Unit → Dialogue Call Call.Answer α}
      (rest : ∀ reply, SeesOnly ruleset (next reply)) :
      SeesOnly ruleset (ask (.reorder site r updates) next)

namespace SeesOnly

variable {ruleset : Ruleset} {α β : Type}

/-- Two runs of such a dialogue are the same as long as the replies are alike. -/
theorem run_congr {d : Dialogue Call Call.Answer α} (sees : SeesOnly ruleset d)
    {turns turns' : List Called} {a a' : α} (ran : Run d turns a) (ran' : Run d turns' a')
    (alike : ruleset.AlikeTurns turns turns') :
    a = a' ∧ turns.map Turn.question = turns'.map Turn.question := by
  induction sees generalizing turns turns' with
  | done b =>
    obtain ⟨rfl, rfl⟩ := run_done_iff.1 ran
    obtain ⟨rfl, rfl⟩ := run_done_iff.1 ran'
    exact ⟨rfl, rfl⟩
  | @list site next looks _ ih =>
    obtain ⟨reply, more, rfl, run⟩ := run_ask_iff.1 ran
    obtain ⟨reply', more', rfl, run'⟩ := run_ask_iff.1 ran'
    obtain ⟨replies, rest⟩ := alike.of_list
    -- The listings need not be equal, but their snapshots are, and nothing else is looked at.
    have same : next reply = next reply' := by
      cases replies with
      | failed e => rfl
      | listed agree => exact looks _ _ (Snapshot.ofSite_eq_of_alike agree)
    obtain ⟨ha, hquestions⟩ := ih reply run (same ▸ run') rest
    exact ⟨ha, congrArg (Call.list site :: ·) hquestions⟩
  | @reorder site r updates next _ ih =>
    obtain ⟨reply, more, rfl, run⟩ := run_ask_iff.1 ran
    obtain ⟨reply', more', rfl, run'⟩ := run_ask_iff.1 ran'
    obtain ⟨same, rest⟩ := Ruleset.AlikeTurns.of_reorder alike
    obtain ⟨ha, hquestions⟩ := ih reply run (same ▸ run') rest
    exact ⟨ha, congrArg (Call.reorder site r updates :: ·) hquestions⟩

theorem bind {d : Dialogue Call Call.Answer α} {f : α → Dialogue Call Call.Answer β}
    (sees : SeesOnly ruleset d) (rest : ∀ a, SeesOnly ruleset (f a)) :
    SeesOnly ruleset (d.bind f) := by
  induction sees with
  | done a => exact rest a
  | list looks _ ih =>
    exact .list (fun rules rules' same => congrArg (·.bind f) (looks rules rules' same)) ih
  | reorder _ ih => exact .reorder ih

/-- An operation that goes on after another one. -/
theorem andThen {ε : Type} {op : Operation ε α} {next : α → Operation ε β}
    (sees : SeesOnly ruleset op.run) (rest : ∀ a, SeesOnly ruleset (next a).run) :
    SeesOnly ruleset (op >>= next).run := by
  rw [ExceptT.run_bind, bind_eq]
  refine sees.bind fun outcome => ?_
  cases outcome with
  | ok a => exact rest a
  | error e => exact .done _

end SeesOnly

/-! ## The operations -/

namespace Operation

variable {id : RulesetId} {ruleset : Ruleset}

theorem seesOnly_snapshot : SeesOnly id.ruleset (snapshot id).run := by
  have step : (snapshot id).run =
      ask (.list id.site) fun (reply : Except ControllerError (List Rule)) =>
      done ((reply.mapError .controller).map (.ofSite id.ruleset)) := by
    refine congrArg (ask _) (funext fun (reply : Except ControllerError (List Rule)) => ?_)
    cases reply with
    | error e => rfl
    | ok rules => rfl
  rw [step]
  refine .list (fun rules rules' same => ?_) fun _ => .done _
  exact congrArg (fun s => done (Except.ok s : Except OrderingError Snapshot)) same

theorem seesOnly_send (updates : List IndexUpdate) : SeesOnly ruleset (send id updates).run := by
  cases updates with
  | nil => exact .done _
  | cons u us => exact .reorder fun _ => .done _

theorem seesOnly_readState : SeesOnly id.ruleset (readState id).run :=
  seesOnly_snapshot.andThen fun _ => .done _

theorem seesOnly_plan (defaultSite : String) (config : RulesetConfig) :
    SeesOnly config.ruleset (plan defaultSite config).run := by
  refine (@seesOnly_snapshot (config.target defaultSite)).andThen fun found => ?_
  exact SeesOnly.andThen (.done _) fun updates => .done _

theorem seesOnly_apply (order : RuleOrder) : SeesOnly id.ruleset (apply id order).run := by
  rw [apply_eq]
  refine seesOnly_snapshot.andThen fun current => SeesOnly.andThen (.done _) fun updates => ?_
  refine (seesOnly_send updates).andThen fun _ => ?_
  exact seesOnly_snapshot.andThen fun reached => .done _

theorem seesOnly_create (defaultSite : String) (config : RulesetConfig) :
    SeesOnly config.ruleset (create defaultSite config).run := by
  refine (@seesOnly_apply (config.target defaultSite) config.order).bind fun outcome => ?_
  cases outcome with
  | ok applied => exact .done _
  | error error => exact (@seesOnly_readState (config.target defaultSite)).bind fun state => .done _

theorem seesOnly_importId {raw : String}
    (named : ∀ id, RulesetId.ofText raw = .ok id → id.ruleset = ruleset) :
    SeesOnly ruleset (importId raw).run := by
  rw [importId]
  cases h : RulesetId.ofText raw with
  | ok id =>
    rw [← named id h]
    exact seesOnly_readState
  | error fault => exact .done _

/-- On two controllers whose replies are alike, as far as the ruleset goes, the operation asks the
same and comes to the same end. -/
def Overlooks {ε α : Type} (ruleset : Ruleset) (op : Operation ε α) : Prop :=
  ∀ {σ σ' : Type} (answer : (call : Call) → σ → call.Answer × σ) (start : σ)
    (answer' : (call : Call) → σ' → call.Answer × σ') (start' : σ'),
    ruleset.AlikeTurns (op.run.turnsWith answer start) (op.run.turnsWith answer' start') →
      (op.runOn answer start).1 = (op.runOn answer' start').1 ∧
        (op.runOn answer start).2.1 = (op.runOn answer' start').2.1

theorem overlooks_of_seesOnly {ε α : Type} {op : Operation ε α} (sees : SeesOnly ruleset op.run) :
    op.Overlooks ruleset := by
  intro σ σ' answer start answer' start' alike
  obtain ⟨run, calls⟩ := op.run_turnsWith answer start
  obtain ⟨run', calls'⟩ := op.run_turnsWith answer' start'
  rw [calls, calls']
  exact sees.run_congr run run' alike

/-- **Operations on a ruleset overlook everything but the identities and indices of its rules in the
bands.** Whatever two controllers are: if their listings agree in these, one by one and in whatever
order, no two of the rules sharing an index, and if they accept the same changes, then reading,
importing, planning and creating ask the same calls of both, with the same changes, and come to the
same result or the same error. -/
theorem operations_overlook :
    (∀ state, (read state).Overlooks state.ruleset) ∧
    (∀ raw ruleset, (∀ id, RulesetId.ofText raw = .ok id → id.ruleset = ruleset) →
      (importId raw).Overlooks ruleset) ∧
    ∀ defaultSite config, (plan defaultSite config).Overlooks config.ruleset ∧
      (create defaultSite config).Overlooks config.ruleset :=
  ⟨fun state => overlooks_of_seesOnly (@seesOnly_readState state.target),
    fun _ _ named => overlooks_of_seesOnly (seesOnly_importId named),
    fun defaultSite config => ⟨overlooks_of_seesOnly (seesOnly_plan defaultSite config),
      overlooks_of_seesOnly (seesOnly_create defaultSite config)⟩⟩

end Operation

namespace Memory

/-- A site with two rules, each in another band. -/
def quiet : Memory where
  sites := [("default", [crossed.rule "a" "LAN_IN" 2003, crossed.rule "b" "LAN_IN" 4000])]

/-- The same rules in another order, one of them with a name, among other rules and other sites. -/
def busy : Memory where
  sites :=
    [("branch", []),
      ("default",
        [crossed.rule "c" "LAN_IN" 3000, { crossed.rule "b" "LAN_IN" 4000 with name := some "b" },
          crossed.rule "a" "WAN_IN" 4001, crossed.rule "a" "LAN_IN" 2003])]

/-- The two rules change places. -/
def swapping : RulesetConfig := ⟨none, ⟨.lan, .v4, .inbound⟩, ⟨["b"], ["a"]⟩⟩

end Memory

theorem Operation.operations_overlook_busy :
    let op := create "default" Memory.swapping
    Memory.swapping.ruleset.AlikeTurns (op.run.turnsWith Memory.answer Memory.quiet)
        (op.run.turnsWith Memory.answer Memory.busy) ∧
      (op.runOn Memory.answer Memory.quiet).1 = (op.runOn Memory.answer Memory.busy).1 ∧
      (op.runOn Memory.answer Memory.busy).2.1 =
        [.list "default", .reorder "default" Memory.swapping.ruleset [⟨"b", 2000⟩, ⟨"a", 4000⟩],
          .list "default"] := by
  intro op
  have listed : Called.listings (op.run.turnsWith Memory.answer Memory.quiet) =
      [.ok [Memory.crossed.rule "a" "LAN_IN" 2003, Memory.crossed.rule "b" "LAN_IN" 4000],
        .ok [Memory.crossed.rule "a" "LAN_IN" 4000, Memory.crossed.rule "b" "LAN_IN" 2000]] := by
    decide +kernel
  have listed' : Called.listings (op.run.turnsWith Memory.answer Memory.busy) =
      [.ok [Memory.crossed.rule "c" "LAN_IN" 3000,
          { Memory.crossed.rule "b" "LAN_IN" 4000 with name := some "b" },
          Memory.crossed.rule "a" "WAN_IN" 4001, Memory.crossed.rule "a" "LAN_IN" 2003],
        .ok [Memory.crossed.rule "c" "LAN_IN" 3000,
          { Memory.crossed.rule "b" "LAN_IN" 2000 with name := some "b" },
          Memory.crossed.rule "a" "WAN_IN" 4001, Memory.crossed.rule "a" "LAN_IN" 4000]] := by
    decide +kernel
  have made : Called.outcomes (op.run.turnsWith Memory.answer Memory.quiet) = [.ok ()] := by
    decide +kernel
  have made' : Called.outcomes (op.run.turnsWith Memory.answer Memory.busy) = [.ok ()] := by
    decide +kernel
  have alike : Memory.swapping.ruleset.AlikeTurns (op.run.turnsWith Memory.answer Memory.quiet)
      (op.run.turnsWith Memory.answer Memory.busy) := by
    constructor
    · rw [listed, listed']
      intro k reply reply' h h'
      rcases k with _ | _ | k
      · cases h
        cases h'
        exact .listed ⟨by decide, by decide⟩
      · cases h
        cases h'
        exact .listed ⟨by decide, by decide⟩
      · cases h
    · rw [made, made']
      intro k reply reply' h h'
      exact Option.some.inj (h.symm.trans h')
  have asked : (runOn Memory.answer (create "default" Memory.swapping) Memory.busy).2.1 =
      [.list "default", .reorder "default" Memory.swapping.ruleset [⟨"b", 2000⟩, ⟨"a", 4000⟩],
        .list "default"] := by
    decide +kernel
  have overlooks := (operations_overlook.2.2 "default" Memory.swapping).2
    Memory.answer Memory.quiet Memory.answer Memory.busy alike
  exact ⟨alike, overlooks.1, asked⟩

end FirewallOrder
