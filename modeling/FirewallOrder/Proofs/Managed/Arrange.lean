import FirewallOrder.Proofs.Managed.Kept
import FirewallOrder.Proofs.Ordering.Rearrange

/-!
# What a creation brings about

A creation that succeeds leaves every rule of the configured order in its slot, shows this order,
and has touched nothing else (`create_arranges`).
-/

namespace FirewallOrder

open Operation RuleOrder

section Arrange

variable {σ : Type} {answer : (call : Call) → σ → call.Answer × σ}
  {rules? : σ → String → Option (List Rule)}

/-- Part of a plan that takes effect changes nothing of a rule but its index, moves no rule into the
bands or out of them, and leaves alone every rule that cannot be put in order. -/
theorem Reindexed.frame {id : RulesetId} {o : RuleOrder} {rules rules' : List Rule}
    {updates taken : List IndexUpdate} (distinct : ((id.ruleset.own rules).map (·.id)).Nodup)
    (planned : (Snapshot.ofSite id.ruleset rules).plan id o = .ok updates) (sub : taken ⊆ updates)
    (h : Reindexed id.ruleset taken rules rules') :
    List.Forall₂ (fun r r' => r' = { r with index := r'.index } ∧
      (Band.Covers r'.index ↔ Band.Covers r.index) ∧
      (¬ (r.ruleset = id.ruleset.spelling ∧ Band.Covers r.index) → r' = r)) rules rules' := by
  have covered : ∀ u ∈ taken, Band.Covers u.index ∧ u.id ∈ (id.ruleset.managed rules).map (·.id) :=
    fun u hu => covered_of_plan planned (sub hu)
  exact h.rearranged distinct covered

/-- **A creation that succeeds brings the configured order about.** Whatever controller keeps the
rules, and whatever rules the site has, if no identity occurs twice in the ruleset:

* what is shown is the configured order, and so it is whenever it is read before the next change;
* the rule at place `i` of a part has the index at place `i` of its band, and no other rule of the
  bands has it;
* all else is as it was: the other fields of the rules, their number and their order, the rules
  outside the bands and in other rulesets, and the other sites. -/
theorem create_arranges (keeps : KeepsRules answer rules?) {start : σ} {defaultSite : String}
    {config : RulesetConfig} {result : AppliedChange}
    (distinct : ∀ rules, rules? start (config.target defaultSite).site = some rules →
      ((config.ruleset.own rules).map (·.id)).Nodup)
    (ran : ((create defaultSite config).runOn answer start).1 = .ok result) :
    let id := config.target defaultSite
    let final := ((create defaultSite config).runOn answer start).2.2
    (result.state = .ofOrder id config.order ∧
      ∀ later, AfterListings answer final later → ∀ state : RulesetState, state.target = id →
        ((read state).runOn answer later).1 = .ok (.ofOrder id config.order)) ∧
    (∃ old new, rules? start id.site = some old ∧ rules? final id.site = some new ∧
      (∀ (i : Nat) (x : String), config.order.before[i]? = some x → ∃ rule ∈ new,
        rule.ruleset = id.ruleset.spelling ∧ rule.id = x ∧ rule.index = 2000 + i ∧
        rule.index < 3000) ∧
      (∀ (j : Nat) (x : String), config.order.after[j]? = some x → ∃ rule ∈ new,
        rule.ruleset = id.ruleset.spelling ∧ rule.id = x ∧ rule.index = 4000 + j ∧
        rule.index < 5000) ∧
      ((id.ruleset.managed new).map (·.index)).Nodup ∧
      List.Forall₂ (fun r r' => r' = { r with index := r'.index } ∧
        (Band.Covers r'.index ↔ Band.Covers r.index) ∧
        (¬ (r.ruleset = id.ruleset.spelling ∧ Band.Covers r.index) → r' = r)) old new) ∧
    ∀ site, site ≠ id.site → rules? final site = rules? start site := by
  rcases hrun : (create defaultSite config).runOn answer start with ⟨outcome, calls, final⟩
  rw [hrun] at ran
  obtain rfl : outcome = .ok result := ran
  obtain ⟨old, new, hold, hnew, planned, hreindexed, elsewhere, hstate, -⟩ :=
    keeps.of_create_ok hrun
  have hdistinct : (((config.target defaultSite).ruleset.own old).map (·.id)).Nodup :=
    distinct old hold
  obtain ⟨fits, none⟩ := settled_of_reindexed hdistinct planned hreindexed
  have shown := RulesetState.ofListing_eq_of_settled (config.target defaultSite) fits none
  refine ⟨⟨hstate.trans shown, ?_⟩, ⟨old, new, hold, hnew, ?_, ?_, ?_, ?_⟩, elsewhere⟩
  · intro later hlater state htarget
    rw [Operation.read, htarget, ← shown]
    apply keeps.runOn_readState_ok
    rw [keeps.of_afterListings hlater]
    exact hnew
  · intro i x hi
    have hlt : i < config.order.before.length := (List.getElem?_eq_some_iff.1 hi).1
    have hle := fits.before_le
    obtain ⟨r, hr, own, hid, hindex⟩ :=
      exists_rule_of_slot none (List.subset_append_left (slots 2000 config.order.before) _) hi
    exact ⟨r, hr, own, hid, hindex, by omega⟩
  · intro j x hj
    have hlt : j < config.order.after.length := (List.getElem?_eq_some_iff.1 hj).1
    have hle := fits.after_le
    obtain ⟨r, hr, own, hid, hindex⟩ :=
      exists_rule_of_slot none (List.subset_append_right _ (slots 4000 config.order.after)) hj
    exact ⟨r, hr, own, hid, hindex, by omega⟩
  · exact nodup_index_managed fits none
  · exact hreindexed.frame hdistinct planned (List.Subset.refl _)

theorem create_arranges_crossing :
    let run := (create "default" Memory.crossing).runOn Memory.answer Memory.crossed
    (∀ rules, Memory.crossed.rules? "default" = some rules →
      ((Memory.crossing.ruleset.own rules).map (·.id)).Nodup) ∧
    ∃ result new, run.1 = .ok result ∧ result.state.order = Memory.crossing.order ∧
      run.2.2.rules? "default" = some new ∧
      ((Memory.crossing.ruleset.managed new).map (·.index)).Nodup := by
  have ran : ((create "default" Memory.crossing).runOn Memory.answer Memory.crossed).1 = .ok
      ⟨[⟨"b", 2000⟩, ⟨"c", 2001⟩, ⟨"a", 4000⟩],
        .ofOrder ⟨"default", Memory.crossing.ruleset⟩ Memory.crossing.order⟩ := by
    cbv
  obtain ⟨⟨shown, -⟩, ⟨old, new, -, hnew, -, -, nodup, -⟩, -⟩ :=
    create_arranges Memory.reliable.toKeepsRules Memory.nodup_crossed ran
  exact ⟨Memory.nodup_crossed, _, new, ran, congrArg RulesetState.order shown, hnew, nodup⟩

end Arrange

end FirewallOrder
