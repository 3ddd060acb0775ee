import FirewallOrder.Proofs.Managed.Kept

/-!
# Creations after a partial change

A change of several indices may take effect in part. The rules are then in an order that is neither
the old one nor the one wanted, and two of them may share an index, but no rule has left the bands:
the order wanted still fits. Creating again sends what is left of the plan (`create_resumes`).
-/

namespace FirewallOrder

open Operation Called RuleOrder

section Resume

variable {σ : Type} {answer : (call : Call) → σ → call.Answer × σ}
  {rules? : σ → String → Option (List Rule)}

/-- A plan is for the rules as they stand. -/
theorem KeepsRules.of_plan_ok (keeps : KeepsRules answer rules?) {s : σ} {defaultSite : String}
    {config : RulesetConfig} {planned : PlannedChange}
    (ran : ((plan defaultSite config).runOn answer s).1 = .ok planned) :
    let id := config.target defaultSite
    ∃ rules, rules? s id.site = some rules ∧
      (Snapshot.ofSite id.ruleset rules).plan id config.order = .ok planned.updates := by
  rcases hrun : (plan defaultSite config).runOn answer s with ⟨outcome, calls, t⟩
  rw [hrun] at ran
  obtain rfl : outcome = .ok planned := ran
  obtain ⟨turns, hturns, hanswers, -⟩ := Operation.runOn_eq_iff.1 hrun
  obtain ⟨rules, rfl, hplan, -⟩ := run_plan_ok_iff.1 hturns
  exact ⟨rules, (keeps.of_listed hanswers).1, hplan⟩

/-- **A change that took effect in part is brought to its end.** If there is a plan for an order,
and any of its updates take effect, in whatever way, then creating again

* finds that nothing differs between the order and the rules there are,
* sends the rest of the plan, in the order of the plan, or nothing if there is no rest,
* and leaves every rule of the order in its slot. -/
theorem create_resumes (reliable : Reliable answer rules?) {start partly : σ} {defaultSite : String}
    {config : RulesetConfig} {planned : PlannedChange} {taken : List IndexUpdate}
    (distinct : ∀ rules, rules? start (config.target defaultSite).site = some rules →
      ((config.ruleset.own rules).map (·.id)).Nodup)
    (ran : ((plan defaultSite config).runOn answer start).1 = .ok planned)
    (sub : taken ⊆ planned.updates)
    (effect : Reordered rules? (config.target defaultSite) taken start partly) :
    let id := config.target defaultSite
    let rest := planned.updates.filter fun u => u ∉ taken
    let run := (create defaultSite config).runOn answer partly
    (∃ rules, rules? partly id.site = some rules ∧
      ((Snapshot.ofSite id.ruleset rules).drift config.order).isEmpty = true) ∧
    run.1 = .ok ⟨rest, .ofOrder id config.order⟩ ∧
    run.2.1 = .list id.site ::
      ((if rest = [] then [] else [.reorder id.site id.ruleset rest]) ++ [.list id.site]) ∧
    ∃ rules, rules? run.2.2 id.site = some rules ∧
      Snapshot.ofSite id.ruleset rules = config.order.arranged := by
  have keeps := reliable.toKeepsRules
  obtain ⟨old, hold, hplan⟩ := keeps.of_plan_ok ran
  obtain ⟨now, hnow, hreindexed⟩ := effect.here old hold
  have hdistinct : (((config.target defaultSite).ruleset.own old).map (·.id)).Nodup :=
    distinct old hold
  have hrest := plan_of_reindexed hdistinct hplan sub hreindexed
  obtain ⟨result, calls, final, hrun⟩ := reliable.create_ok hnow hrest
  obtain ⟨first, last, hfirst, hlast, hplan', hreindexed', -, hstate, hcalls⟩ :=
    keeps.of_create_ok hrun
  obtain rfl : now = first := Option.some.inj (hnow.symm.trans hfirst)
  have hdistinct' : (((config.target defaultSite).ruleset.own now).map (·.id)).Nodup := by
    rw [hreindexed.eq_map_of_plan hdistinct hplan sub, Ruleset.map_id_own_map_reindex]
    exact hdistinct
  obtain ⟨fits, none⟩ := settled_of_reindexed hdistinct' hplan' hreindexed'
  obtain ⟨fitsNow, -⟩ := Snapshot.plan_ofSite_eq_ok_iff.1 hrest
  intro id rest run
  have hupdates : result.updates = rest := Except.ok.inj (hplan'.symm.trans hrest)
  have hrun' : run = (.ok result, calls, final) := hrun
  rw [hrun']
  refine ⟨⟨now, hnow, ?_⟩, ?_, ?_, last, hlast, ofSite_eq_arranged fits none⟩
  · have perm := Snapshot.ids_perm id.ruleset now
    rw [Snapshot.drift, Drift.isEmpty_compare_iff]
    exact ⟨perm.nodup_iff.2 fitsNow.distinct, fitsNow.nodup_ids, perm.trans fitsNow.perm⟩
  · rw [← RulesetState.ofListing_eq_of_settled id fits none, ← hstate, ← hupdates]
  · rw [hcalls, map_question_accepted, hupdates]

theorem create_resumes_crossing :
    let moved : List IndexUpdate := [⟨"c", 2001⟩, ⟨"b", 2000⟩]
    let partly := Memory.crossed.reorder "default" Memory.crossing.ruleset moved
    let run := (create "default" Memory.crossing).runOn Memory.answer partly
    (∀ rules, Memory.crossed.rules? "default" = some rules →
      ((Memory.crossing.ruleset.own rules).map (·.id)).Nodup) ∧
    (∃ planned, ((plan "default" Memory.crossing).runOn Memory.answer Memory.crossed).1 =
      .ok planned ∧ moved ⊆ planned.updates) ∧
    Reordered Memory.rules? (Memory.crossing.target "default") moved Memory.crossed partly ∧
    run.1 = .ok ⟨[⟨"a", 4000⟩],
      .ofOrder (Memory.crossing.target "default") Memory.crossing.order⟩ := by
  have sub : [⟨"c", 2001⟩, ⟨"b", 2000⟩] ⊆
      ([⟨"b", 2000⟩, ⟨"c", 2001⟩, ⟨"a", 4000⟩] : List IndexUpdate) := by
    decide
  have effect := Memory.reliable.reorders (Memory.crossing.target "default")
    [⟨"c", 2001⟩, ⟨"b", 2000⟩] Memory.crossed rfl
  obtain ⟨-, hresult, -⟩ :=
    create_resumes Memory.reliable Memory.nodup_crossed Memory.plan_crossing sub effect
  exact ⟨Memory.nodup_crossed, ⟨_, Memory.plan_crossing, sub⟩, effect, hresult⟩

end Resume

end FirewallOrder
