import FirewallOrder.Proofs.Managed.Turns
import FirewallOrder.Proofs.Ordering.Rearrange

/-!
# Creations of one ruleset by several clients

Clients create one and the same ruleset, each from a configuration of its own, and their turns
interleave in any way. Nothing is locked: what a client sends was worked out from its own listing,
and others may have sent theirs since. So the rules may end up in nobody's order, and two of them
may share an index.

But every plan is about rules of the bands and keeps them there, whichever indices they had when it
was made. So `Shared` is kept by every answer to a client that keeps to the `sharing` contract, and
all clients do. It follows that no rule gets lost from the bands, and that a client is refused for a
drift exactly if it would have been at first (`creations_share`).
-/

namespace FirewallOrder

open Dialogue Operation

section Sharing

variable {σ : Type} {answer : (call : Call) → σ → call.Answer × σ}
  {rules? : σ → String → Option (List Rule)}

/-- What a client asks, and what it is answered, if these were the rules of the site at first. -/
def sharing (id : RulesetId) (first : Option (List Rule)) : Contract Call Call.Answer where
  asks
    | .list site => site = id.site
    | .reorder site ruleset updates => site = id.site ∧ ruleset = id.ruleset ∧
      ∃ rules, first = some rules ∧
        ∀ u ∈ updates, Band.Covers u.index ∧ u.id ∈ (id.ruleset.managed rules).map (·.id)
  gets
    | .list _, (reply : Except ControllerError (List Rule)) =>
      Option.Rel id.ruleset.Rearranged first reply.toOption
    | .reorder .., _ => True

/-- A state in which rules of the ruleset moved within the bands, and nothing else has changed. -/
structure Shared (rules? : σ → String → Option (List Rule)) (id : RulesetId) (start s : σ) :
    Prop where
  here : Option.Rel id.ruleset.Rearranged (rules? start id.site) (rules? s id.site)
  elsewhere : ∀ site, site ≠ id.site → rules? s site = rules? start site

variable {id : RulesetId} {start s : σ}

namespace Shared

theorem refl : Shared rules? id start start := by
  refine ⟨?_, fun _ _ => rfl⟩
  cases rules? start id.site with
  | none => exact .none
  | some rules => exact .some (.refl rules)

theorem rules_eq (h : Shared rules? id start s) {rules : List Rule}
    (hrules : rules? start id.site = some rules) :
    ∃ now, rules? s id.site = some now ∧ id.ruleset.Rearranged rules now := by
  have here := h.here
  rw [hrules] at here
  cases hnow : rules? s id.site with
  | none =>
    rw [hnow] at here
    cases here
  | some now =>
    rw [hnow] at here
    cases here with
    | some rearranged => exact ⟨now, rfl, rearranged⟩

theorem rules_eq_none (h : Shared rules? id start s) (hrules : rules? start id.site = none) :
    rules? s id.site = none := by
  have here := h.here
  rw [hrules] at here
  cases hnow : rules? s id.site with
  | none => rfl
  | some now =>
    rw [hnow] at here
    cases here

end Shared

/-- A reliable controller answers as the contract says, and its rules stay in the bands. -/
theorem Reliable.honours_sharing (reliable : Reliable answer rules?)
    (distinct : ∀ rules, rules? start id.site = some rules →
      ((id.ruleset.own rules).map (·.id)).Nodup) :
    (sharing id (rules? start id.site)).Honoured (Shared rules? id start) answer := by
  intro call s shared hasks
  cases call with
  | list site =>
    obtain rfl : site = id.site := hasks
    have hreply : (answer (.list id.site) s).1.toOption = rules? s id.site :=
      reliable.lists id.site s
    have hstays := reliable.stays id.site s
    refine ⟨?_, ?_, ?_⟩
    · exact (congrArg (Option.Rel id.ruleset.Rearranged (rules? start id.site)) hreply).mpr
        shared.here
    · rw [hstays]
      exact shared.here
    · rw [hstays]
      exact shared.elsewhere
  | reorder site ruleset updates =>
    obtain ⟨rfl, rfl, rules, hrules, covered⟩ := hasks
    obtain ⟨now, hnow, rearranged⟩ := shared.rules_eq hrules
    -- The identities are the same as at first, so the updates suit the rules as they are now.
    have hdistinct : ((id.ruleset.own now).map (·.id)).Nodup := by
      rw [rearranged.own_ids]
      exact distinct rules hrules
    have hcovered : ∀ u ∈ updates,
        Band.Covers u.index ∧ u.id ∈ (id.ruleset.managed now).map (·.id) := by
      rw [rearranged.managed_ids]
      exact covered
    have hown : ∀ u ∈ updates, u.id ∈ (id.ruleset.own now).map (·.id) := fun u hu =>
      ((Ruleset.managed_sublist_own id.ruleset now).map _).subset (hcovered u hu).2
    have haccepted := reliable.accepts id updates s now hnow hown
    obtain ⟨here, elsewhere⟩ := reliable.reorders id updates s haccepted
    obtain ⟨later, hlater, hreindexed⟩ := here now hnow
    refine ⟨trivial, ?_, fun other hne => (elsewhere other hne).trans (shared.elsewhere other hne)⟩
    rw [hrules, hlater]
    exact .some (rearranged.trans (hreindexed.rearranged hdistinct hcovered))

/-- The report that a creation is refused with, if it is refused for a drift. -/
def reported? : Except ApplyFailure AppliedChange → Option Drift
  | .ok _ => none
  | .error refused => refused.error.report?

/-- A creation keeps to the contract, and is refused for what differed at first. -/
theorem keeps_sharing (first : Option (List Rule)) {defaultSite : String} {config : RulesetConfig}
    (target : config.target defaultSite = id) :
    (sharing id first).Keeps
      (fun result => reported? result =
        first.bind fun rules => (Snapshot.ofSite id.ruleset rules).report? config.order)
      4 (create defaultSite config).run := by
  have planned (reply : Except ControllerError (List Rule)) (updates : List IndexUpdate)
      (hgets : Option.Rel id.ruleset.Rearranged first reply.toOption)
      (hchanges : changesFor id config.order reply = .ok updates) :
      ∃ rules now, first = some rules ∧ id.ruleset.Rearranged rules now ∧
        (Snapshot.ofSite id.ruleset now).plan id config.order = .ok updates := by
    cases reply with
    | error e => cases hchanges
    | ok now =>
      cases hgets with
      | some rearranged => exact ⟨_, now, rfl, rearranged, hchanges⟩
  refine keeps_create target rfl ?_ ?_ ?_
  · intro reply hgets updates hchanges
    obtain ⟨rules, now, rfl, rearranged, hplan⟩ := planned reply updates hgets hchanges
    refine ⟨rfl, rfl, rules, rfl, fun u hu => ?_⟩
    rw [← rearranged.managed_ids]
    exact covered_of_plan hplan hu
  · intro reply hgets updates hchanges
    obtain ⟨rules, now, rfl, rearranged, hplan⟩ := planned reply updates hgets hchanges
    have agrees : (Snapshot.ofSite id.ruleset rules).report? config.order = none := by
      rw [← rearranged.report?_eq]
      exact Snapshot.report?_of_plan_ok hplan
    exact ⟨fun state => agrees.symm, fun e refreshed => agrees.symm⟩
  · intro reply hgets error hchanges refreshed
    cases reply with
    | error e =>
      cases hgets
      cases hchanges
      rfl
    | ok now =>
      cases hgets with
      | some rearranged =>
        have hplan : (Snapshot.ofSite id.ruleset now).plan id config.order = .error error :=
          hchanges
        exact (Snapshot.report?_of_plan_error hplan).trans (rearranged.report?_eq config.order)

variable {ι : Type} [DecidableEq ι] {defaultSite : ι → String} {config : ι → RulesetConfig}

/-- **Clients that share a ruleset keep its rules together.** In every state that creations of one
ruleset come to, however their turns interleave, if no identity occurred twice in the ruleset at
first:

* the snapshot has the identities that it had, and nothing has changed but indices of rules in the
  bands, which are still in the bands;
* a site that was unknown is still unknown, and every other site is as it was;
* whatever was sent gives rules of the ruleset an index in one of the bands;
* a client that is through is refused for a drift exactly if the rules that there were at first do
  not agree with its order, and with the report on these; and it is through after four turns. -/
theorem creations_share (reliable : Reliable answer rules?)
    (same : ∀ i, (config i).target (defaultSite i) = id)
    (distinct : ∀ rules, rules? start id.site = some rules →
      ((id.ruleset.own rules).map (·.id)).Nodup) (turns : List ι) :
    let pool := (creations defaultSite config start).play answer turns
    (∀ rules, rules? start id.site = some rules → ∃ now, rules? pool.state id.site = some now ∧
      ((Snapshot.ofSite id.ruleset now).ids true true).Perm
        ((Snapshot.ofSite id.ruleset rules).ids true true) ∧
      id.ruleset.Rearranged rules now) ∧
    (rules? start id.site = none → rules? pool.state id.site = none) ∧
    (∀ site, site ≠ id.site → rules? pool.state site = rules? start site) ∧
    (∀ i site ruleset updates, (i, Call.reorder site ruleset updates) ∈ pool.asked →
      site = id.site ∧ ruleset = id.ruleset ∧
        ∀ u ∈ updates, (2000 ≤ u.index ∧ u.index < 3000) ∨ (4000 ≤ u.index ∧ u.index < 5000)) ∧
    ∀ i, (∀ result, pool.left i = done result →
        reported? result = (rules? start id.site).bind fun rules =>
          (Snapshot.ofSite id.ruleset rules).report? (config i).order) ∧
      (4 ≤ turns.count i → ∃ result, pool.left i = done result) := by
  have begins : (sharing id (rules? start id.site)).Keeping (Shared rules? id start)
      (fun i result => reported? result = (rules? start id.site).bind fun rules =>
        (Snapshot.ofSite id.ruleset rules).report? (config i).order)
      (fun _ => 4) (creations defaultSite config start) :=
    Contract.keeping_start .refl fun i => keeps_sharing (rules? start id.site) (same i)
  have keeping := begins.play (reliable.honours_sharing distinct) turns
  have shared := keeping.state
  intro pool
  refine ⟨?_, shared.rules_eq_none, shared.elsewhere, ?_,
    fun i => ⟨fun result ended => keeping.result ended, creation_over start⟩⟩
  · intro rules hrules
    obtain ⟨now, hnow, rearranged⟩ := shared.rules_eq hrules
    exact ⟨now, hnow, rearranged.ids_perm, rearranged⟩
  · intro i site ruleset updates hasked
    obtain ⟨hsite, hruleset, rules, -, covered⟩ := keeping.asked _ hasked
    exact ⟨hsite, hruleset, fun u hu => (covered u hu).1⟩

end Sharing

/-- Clients that do not agree on an order. The last one also lists a rule outside the bands. -/
def Memory.rivals : Fin 3 → RulesetConfig
  | 0 => crossing
  | 1 => { crossing with order := ⟨["a"], ["c", "b"]⟩ }
  | 2 => { crossing with order := ⟨["b", "c", "p"], ["a"]⟩ }

theorem creations_share_rivals :
    let id := Memory.crossing.target "default"
    -- The first client sends what it worked out before the second one changed the rules.
    let pool := (creations (fun _ => "default") Memory.rivals Memory.crossed).play Memory.answer
      [0, 1, 1, 2, 0, 1, 2, 2, 2]
    (∀ i, (Memory.rivals i).target "default" = id) ∧
    (∀ rules, Memory.crossed.rules? id.site = some rules →
      ((id.ruleset.own rules).map (·.id)).Nodup) ∧
    (∃ now, pool.state.rules? "default" = some now ∧
      ((Snapshot.ofSite id.ruleset now).ids true true).Perm ["a", "c", "b"]) ∧
    ∃ result, pool.left 2 = done result ∧ reported? result = some ⟨[], ["p"], []⟩ := by
  have same (i : Fin 3) : (Memory.rivals i).target "default" =
      Memory.crossing.target "default" := by
    revert i
    decide
  have first : ((Memory.crossed.rules? "default").map fun rules =>
      (Snapshot.ofSite Memory.crossing.ruleset rules).ids true true) = some ["a", "c", "b"] := by
    cbv
  have differs : ((Memory.crossed.rules? "default").bind fun rules =>
      (Snapshot.ofSite Memory.crossing.ruleset rules).report? (Memory.rivals 2).order) =
      some ⟨[], ["p"], []⟩ := by
    cbv
  obtain ⟨rules, hrules, hids⟩ := Option.map_eq_some_iff.1 first
  obtain ⟨keeps, -, -, -, ends⟩ :=
    creations_share Memory.reliable same Memory.nodup_crossed [0, 1, 1, 2, 0, 1, 2, 2, 2]
  obtain ⟨now, hnow, perm, -⟩ := keeps rules hrules
  obtain ⟨reports, ended⟩ := ends 2
  obtain ⟨result, hresult⟩ := ended (by decide)
  rw [← hids]
  exact ⟨same, Memory.nodup_crossed, ⟨now, hnow, perm⟩, result, hresult,
    (reports result hresult).trans differs⟩

end FirewallOrder
