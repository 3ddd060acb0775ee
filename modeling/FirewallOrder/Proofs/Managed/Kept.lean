import Mathlib
import FirewallOrder.Proofs.Managed.Runs
import FirewallOrder.Proofs.Controller.Keeper

/-!
# Operations on a controller that keeps rules

What the runs of the operations mean when the controller keeps rules: reading shows the rules as
they stand (`KeepsRules.runOn_readState`), and a creation that succeeds has sent the plan for the
rules that there were, and nothing else has changed (`KeepsRules.of_create_ok`). With a reliable
controller there is no other reason to fail than that the site is unknown or there is no plan
(`Reliable.create_ok`, `Reliable.of_create_error`).
-/

namespace FirewallOrder

open Dialogue Operation Called RuleOrder

section Controllers

variable {σ : Type} {answer : (call : Call) → σ → call.Answer × σ}
  {rules? : σ → String → Option (List Rule)}

/-! ## Single calls -/

namespace Reordered

variable {id : RulesetId} {updates : List IndexUpdate} {s s' t t' : σ}

theorem refl : Reordered rules? id [] s s := by
  refine ⟨fun rules hrules => ⟨rules, hrules, ?_, ?_⟩, fun _ _ => rfl⟩
  · exact List.forall₂_same.2 fun r _ => .inl rfl
  · intro u hu
    cases hu

/-- Only what is kept of the two states matters. -/
theorem congr (h : Reordered rules? id updates s t) (hs : rules? s' = rules? s)
    (ht : rules? t' = rules? t) : Reordered rules? id updates s' t' := by
  refine ⟨?_, ?_⟩
  · rw [hs, ht]
    exact h.here
  · rw [hs, ht]
    exact h.elsewhere

end Reordered

/-- A state that a controller comes to by listings alone. -/
def AfterListings (answer : (call : Call) → σ → call.Answer × σ) : σ → σ → Prop :=
  Relation.ReflTransGen fun s t => ∃ site, t = (answer (.list site) s).2

/-- If listings leave a controller as it is, it never becomes another one by listings alone. -/
theorem AfterListings.eq_of_pure {s t : σ} (h : AfterListings answer s t)
    (pure : ∀ site s, (answer (.list site) s).2 = s) : t = s := by
  induction h with
  | refl => rfl
  | tail _ step ih =>
    obtain ⟨site, rfl⟩ := step
    rw [pure, ih]

namespace KeepsRules

variable {s t : σ} {turns : List Called}

/-- Listings change no rule, however many there are. -/
theorem of_afterListings (keeps : KeepsRules answer rules?) (h : AfterListings answer s t) :
    rules? t = rules? s := by
  induction h with
  | refl => rfl
  | tail _ step ih =>
    obtain ⟨site, rfl⟩ := step
    rw [keeps.stays, ih]

/-- A listing gives what is kept. -/
theorem of_listed (keeps : KeepsRules answer rules?) {site : String}
    {reply : Except ControllerError (List Rule)}
    (h : Answers answer s (listed site reply :: turns) t) :
    rules? s site = reply.toOption ∧ ∃ u, AfterListings answer s u ∧ Answers answer u turns t := by
  obtain ⟨hreply, hrest⟩ := answers_cons.1 h
  have hlists := keeps.lists site s
  refine ⟨?_, _, .single ⟨site, rfl⟩, hrest⟩
  rw [← hlists]
  exact congrArg Except.toOption hreply

/-- Two listings with nothing between them give the same. -/
theorem of_listed_twice (keeps : KeepsRules answer rules?) {site : String}
    {reply reply' : Except ControllerError (List Rule)}
    (h : Answers answer s [listed site reply, listed site reply'] t) :
    rules? s site = reply.toOption ∧ rules? s site = reply'.toOption ∧
    AfterListings answer s t := by
  obtain ⟨hfirst, u, hu, h⟩ := keeps.of_listed h
  obtain ⟨hlast, w, hw, hend⟩ := keeps.of_listed h
  obtain rfl := answers_nil.1 hend
  rw [keeps.of_afterListings hu] at hlast
  exact ⟨hfirst, hlast, hu.trans hw⟩

/-- Updates that were accepted took effect, if there were any. -/
theorem of_accepted (keeps : KeepsRules answer rules?) {id : RulesetId} {updates : List IndexUpdate}
    (h : Answers answer s (accepted id updates ++ turns) t) :
    ∃ u, Reordered rules? id updates s u ∧ Answers answer u turns t := by
  cases updates with
  | nil => exact ⟨s, .refl, h⟩
  | cons u us =>
    obtain ⟨hreply, hrest⟩ := answers_cons.1 h
    exact ⟨_, keeps.reorders id (u :: us) s hreply, hrest⟩

/-- A reading shows the rules as they stand, and fails only if there is no such site. -/
theorem of_readState (keeps : KeepsRules answer rules?) {id : RulesetId} {calls : List Call}
    {result : Except OrderingError RulesetState}
    (ran : (readState id).runOn answer s = (result, calls, t)) :
    result.toOption = (rules? s id.site).map (.ofListing id) ∧ AfterListings answer s t ∧
      calls = [.list id.site] := by
  obtain ⟨turns, hrun, hanswers, rfl⟩ := runOn_eq_iff.1 ran
  obtain ⟨reply, rfl, rfl⟩ := run_readState_iff.1 hrun
  obtain ⟨hrules, u, hu, hend⟩ := keeps.of_listed hanswers
  obtain rfl := answers_nil.1 hend
  refine ⟨?_, hu, rfl⟩
  rw [hrules]
  cases reply with
  | error e => rfl
  | ok rules => rfl

theorem runOn_readState (keeps : KeepsRules answer rules?) (id : RulesetId) (s : σ) :
    ((readState id).runOn answer s).1.toOption = (rules? s id.site).map (.ofListing id) := by
  rcases ran : (readState id).runOn answer s with ⟨result, calls, t⟩
  exact (keeps.of_readState ran).1

theorem runOn_readState_ok (keeps : KeepsRules answer rules?) {id : RulesetId} {rules : List Rule}
    (hrules : rules? s id.site = some rules) :
    ((readState id).runOn answer s).1 = .ok (.ofListing id rules) := by
  have h := keeps.runOn_readState id s
  rw [hrules] at h
  cases hrun : ((readState id).runOn answer s).1 with
  | error e =>
    rw [hrun] at h
    cases h
  | ok state =>
    rw [hrun] at h
    cases h
    rfl

/-! ## Creating -/

variable {defaultSite : String} {config : RulesetConfig} {calls : List Call}

/-- A creation that succeeds has sent the plan for the rules that there were, and shows the rules
that there are. -/
theorem of_create_ok (keeps : KeepsRules answer rules?) {result : AppliedChange}
    (ran : (create defaultSite config).runOn answer s = (.ok result, calls, t)) :
    let id := config.target defaultSite
    ∃ first last, rules? s id.site = some first ∧ rules? t id.site = some last ∧
      (Snapshot.ofSite id.ruleset first).plan id config.order = .ok result.updates ∧
      Reindexed id.ruleset result.updates first last ∧
      (∀ site, site ≠ id.site → rules? t site = rules? s site) ∧
      result.state = .ofListing id last ∧
      calls =
        .list id.site :: ((accepted id result.updates).map Turn.question ++ [.list id.site]) := by
  obtain ⟨turns, hrun, hanswers, rfl⟩ := runOn_eq_iff.1 ran
  obtain ⟨first, last, rfl, planned, hstate⟩ := run_create_ok_iff.1 hrun
  obtain ⟨hfirst, u, hu, h⟩ := keeps.of_listed hanswers
  obtain ⟨v, hreordered, h⟩ := keeps.of_accepted h
  obtain ⟨hlast, w, hw, hend⟩ := keeps.of_listed h
  obtain rfl := answers_nil.1 hend
  have before := keeps.of_afterListings hu
  have after := keeps.of_afterListings hw
  obtain ⟨here, elsewhere⟩ := hreordered.congr before.symm after
  obtain ⟨last', hlast', hreindexed⟩ := here first hfirst
  rw [← after, hlast'] at hlast
  obtain rfl : last' = last := Option.some.inj hlast
  refine ⟨first, last', hfirst, hlast', planned, hreindexed, elsewhere, hstate, ?_⟩
  rw [List.map_cons, List.map_append]
  rfl

end KeepsRules

/-- When every rule sits in its slot, a listing shows the order. -/
theorem RulesetState.ofListing_eq_of_settled (id : RulesetId) {o : RuleOrder} {rules : List Rule}
    (fits : o.Fits ((id.ruleset.managed rules).map (·.id)))
    (none : o.pending (id.ruleset.places rules) = []) :
    RulesetState.ofListing id rules = .ofOrder id o := by
  rw [RulesetState.ofListing, ofSite_eq_arranged fits none, order_arranged]

namespace Reliable

variable {s t : σ} {defaultSite : String} {config : RulesetConfig} {calls : List Call}

/-- A creation that fails with a reliable controller has changed nothing: either the site is
unknown, or there is no plan for its rules. What it reports is what a reading shows. -/
theorem of_create_error (reliable : Reliable answer rules?) {failure : ApplyFailure}
    (ran : (create defaultSite config).runOn answer s = (.error failure, calls, t)) :
    let id := config.target defaultSite
    (∀ rules, rules? s id.site = some rules →
      (Snapshot.ofSite id.ruleset rules).plan id config.order = .error failure.error) ∧
    calls = [.list id.site, .list id.site] ∧ AfterListings answer s t ∧
    failure.refreshed = (rules? s id.site).map (.ofListing id) := by
  obtain ⟨turns, hrun, hanswers, rfl⟩ := runOn_eq_iff.1 ran
  obtain ⟨attempt, reply, rfl, breaks, hrefreshed⟩ := run_create_error_iff.1 hrun
  have keeps := reliable.toKeepsRules
  generalize config.target defaultSite = id at breaks hrefreshed hanswers ⊢
  generalize failure.error = error at breaks ⊢
  cases breaks with
  | unlisted e =>
    obtain ⟨hfirst, hlast, hsame⟩ := keeps.of_listed_twice hanswers
    refine ⟨fun rules hrules => ?_, rfl, hsame, by rw [hrefreshed, hlast]⟩
    rw [hfirst] at hrules
    cases hrules
  | @unplanned first error planned =>
    obtain ⟨hfirst, hlast, hsame⟩ := keeps.of_listed_twice hanswers
    refine ⟨fun rules hrules => ?_, rfl, hsame, by rw [hrefreshed, hlast]⟩
    rw [hfirst] at hrules
    cases hrules
    exact planned
  -- A plan is for rules that are there, so a reliable controller does not refuse it.
  | @unsent first updates e planned some =>
    obtain ⟨hfirst, u, hu, h⟩ := keeps.of_listed hanswers
    obtain ⟨hreply, -⟩ := answers_cons.1 h
    have own : ∀ v ∈ updates, v.id ∈ (id.ruleset.own first).map (·.id) := by
      intro v hv
      have hmanaged := (covered_of_plan planned hv).2
      exact ((Ruleset.managed_sublist_own id.ruleset first).map _).subset hmanaged
    have hrules : rules? u id.site = .some first := by
      rw [keeps.of_afterListings hu, hfirst]
      rfl
    have haccepts := reliable.accepts id updates u first hrules own
    exact absurd (hreply.symm.trans haccepts) (by simp [sent])
  -- Nor does the site vanish by it.
  | @unread first updates e planned =>
    rw [List.cons_append, List.append_assoc] at hanswers
    obtain ⟨hfirst, u, hu, h⟩ := keeps.of_listed hanswers
    obtain ⟨v, hreordered, h⟩ := keeps.of_accepted h
    obtain ⟨hlast, -⟩ := keeps.of_listed h
    have hrules : rules? u id.site = .some first := by
      rw [keeps.of_afterListings hu, hfirst]
      rfl
    obtain ⟨rules', hrules', -⟩ := hreordered.here first hrules
    rw [hrules'] at hlast
    cases hlast

/-- With a plan for the rules of the site, a creation succeeds. -/
theorem create_ok (reliable : Reliable answer rules?) {rules : List Rule}
    {updates : List IndexUpdate} (hrules : rules? s (config.target defaultSite).site = some rules)
    (planned : (Snapshot.ofSite (config.target defaultSite).ruleset rules).plan
      (config.target defaultSite) config.order = .ok updates) :
    ∃ result calls t, (create defaultSite config).runOn answer s = (.ok result, calls, t) := by
  rcases ran : (create defaultSite config).runOn answer s with ⟨outcome, calls, t⟩
  cases outcome with
  | ok result => exact ⟨result, calls, t, rfl⟩
  | error failure =>
    have hfailed := (reliable.of_create_error ran).1 rules hrules
    rw [planned] at hfailed
    cases hfailed

end Reliable

end Controllers

/-- The plan for rules that are not in their bands yet. -/
theorem Memory.plan_crossing : ((plan "default" crossing).runOn answer crossed).1 = .ok
    ⟨crossing.target "default", ⟨["a", "c"], ["b"]⟩, crossing.order,
      [⟨"b", 2000⟩, ⟨"c", 2001⟩, ⟨"a", 4000⟩]⟩ := by
  cbv

end FirewallOrder
