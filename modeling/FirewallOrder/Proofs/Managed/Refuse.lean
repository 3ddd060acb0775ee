import FirewallOrder.Proofs.Managed.Kept

/-!
# When a creation succeeds

With a reliable controller a creation succeeds exactly if the site exists, the order lists the rules
that can be put in order and no others, each once, and no part is longer than a band
(`create_succeeds_iff`). Every other creation only lists: nothing is sent, and the rules stay.
-/

namespace FirewallOrder

open Operation

section Refuse

variable {σ : Type} {answer : (call : Call) → σ → call.Answer × σ}
  {rules? : σ → String → Option (List Rule)}

/-- There is a plan for the rules of a site exactly if the order fits them. -/
theorem exists_plan_iff {id : RulesetId} {o : RuleOrder} {rules : List Rule} :
    (∃ updates, (Snapshot.ofSite id.ruleset rules).plan id o = .ok updates) ↔
      o.Fits ((id.ruleset.managed rules).map (·.id)) := by
  constructor
  · rintro ⟨updates, planned⟩
    exact (Snapshot.plan_ofSite_eq_ok_iff.1 planned).1
  · intro fits
    exact ⟨_, Snapshot.plan_ofSite_eq_ok_iff.2 ⟨fits, rfl⟩⟩

/-- A creation succeeds exactly if there is a plan. -/
theorem Reliable.exists_ok_iff (reliable : Reliable answer rules?) {start : σ}
    {defaultSite : String} {config : RulesetConfig} :
    (∃ result, ((create defaultSite config).runOn answer start).1 = .ok result) ↔
      ∃ rules, rules? start (config.target defaultSite).site = some rules ∧
        config.order.Fits (((config.target defaultSite).ruleset.managed rules).map (·.id)) := by
  constructor
  · rintro ⟨result, h⟩
    rcases ran : (create defaultSite config).runOn answer start with ⟨outcome, calls, final⟩
    rw [ran] at h
    obtain rfl : outcome = .ok result := h
    obtain ⟨first, last, hfirst, -, planned, -⟩ := reliable.toKeepsRules.of_create_ok ran
    exact ⟨first, hfirst, exists_plan_iff.1 ⟨result.updates, planned⟩⟩
  · rintro ⟨rules, hrules, fits⟩
    obtain ⟨updates, planned⟩ := exists_plan_iff.2 fits
    obtain ⟨result, calls, final, ran⟩ := reliable.create_ok hrules planned
    exact ⟨result, congrArg Prod.fst ran⟩

/-- **When a creation succeeds, and what is left of one that does not.** For a reliable controller
in any state, and any configuration:

* it succeeds exactly if the site exists, the order rearranges the identities of the rules in the
  bands, none of these occurs twice, in the order or at the site, and no part has more than 1000;
* if it fails, it has only listed, and the rules are as before, as is the controller if listing does
  not change it. The failure carries what a reading shows then, or nothing if there is no such
  site. -/
theorem create_succeeds_iff (reliable : Reliable answer rules?) (start : σ) (defaultSite : String)
    (config : RulesetConfig) :
    let id := config.target defaultSite
    let run := (create defaultSite config).runOn answer start
    ((∃ result, run.1 = .ok result) ↔ ∃ rules, rules? start id.site = some rules ∧
      ((id.ruleset.managed rules).map (·.id)).Perm (config.order.before ++ config.order.after) ∧
      ((id.ruleset.managed rules).map (·.id)).Nodup ∧
      (config.order.before ++ config.order.after).Nodup ∧
      config.order.before.length ≤ 1000 ∧ config.order.after.length ≤ 1000) ∧
    ∀ failure, run.1 = .error failure →
      (∀ call ∈ run.2.1, ∃ site, call = .list site) ∧
      rules? run.2.2 = rules? start ∧
      ((∀ site s, (answer (.list site) s).2 = s) → run.2.2 = start) ∧
      (∀ s, rules? s = rules? start → ∀ state : RulesetState, state.target = id →
        ((Operation.read state).runOn answer s).1.toOption = failure.refreshed) ∧
      (failure.refreshed = none ↔ rules? start id.site = none) := by
  intro id run
  refine ⟨reliable.exists_ok_iff.trans (exists_congr fun rules => and_congr_right fun _ => ?_), ?_⟩
  · constructor
    · intro fits
      exact ⟨fits.perm, fits.distinct, fits.nodup_ids, fits.before_le, fits.after_le⟩
    · rintro ⟨perm, distinct, -, hbefore, hafter⟩
      exact ⟨distinct, perm, hbefore, hafter⟩
  · intro failure failed
    have keeps := reliable.toKeepsRules
    have ran : (create defaultSite config).runOn answer start = (.error failure, run.2) :=
      Prod.ext failed rfl
    obtain ⟨-, hcalls, hlistings, hrefreshed⟩ := reliable.of_create_error ran
    refine ⟨?_, keeps.of_afterListings hlistings, hlistings.eq_of_pure, ?_, ?_⟩
    · intro call hcall
      rw [hcalls] at hcall
      exact ⟨id.site, by simpa using hcall⟩
    · intro s same state htarget
      rw [Operation.read, htarget, keeps.runOn_readState, same, hrefreshed]
    · rw [hrefreshed, Option.map_eq_none_iff]

/-- An order that lists a rule just outside its band. -/
def Memory.straying : RulesetConfig := { Memory.crossing with order := ⟨["b", "c", "p"], ["a"]⟩ }

theorem create_succeeds_iff_crossed :
    (∃ result, ((create "default" Memory.crossing).runOn Memory.answer Memory.crossed).1 =
      .ok result) ∧
    (∃ failure, ((create "default" Memory.straying).runOn Memory.answer Memory.crossed).1 =
      .error failure ∧ failure.refreshed ≠ none) ∧
    ((create "default" Memory.straying).runOn Memory.answer Memory.crossed).2.2 =
      Memory.crossed := by
  refine ⟨?_, ?_⟩
  · refine (create_succeeds_iff Memory.reliable _ _ _).1.2 ⟨_, rfl, ?_⟩
    decide
  · obtain ⟨succeeds, refuses⟩ :=
      create_succeeds_iff Memory.reliable Memory.crossed "default" Memory.straying
    cases hrun : ((create "default" Memory.straying).runOn Memory.answer Memory.crossed).1 with
    | ok result =>
      obtain ⟨rules, hrules, perm, -⟩ := succeeds.1 ⟨result, hrun⟩
      cases hrules
      exact absurd perm (by decide)
    | error failure =>
      obtain ⟨-, -, same, -, hnone⟩ := refuses failure hrun
      refine ⟨⟨failure, rfl, fun h => ?_⟩, same fun site m => Memory.answer_list_snd m site⟩
      cases hnone.1 h

end Refuse

end FirewallOrder
