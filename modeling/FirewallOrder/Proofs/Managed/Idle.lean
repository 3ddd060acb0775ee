import FirewallOrder.Proofs.Managed.Preview
import FirewallOrder.Proofs.Ordering.Compact

/-!
# When there is nothing to send

An order needs no change exactly if it is the order that the rules are in, and they sit at the first
indices of their bands, one at each (`nothing_to_send_iff`). So to arrange rules in the very order
that they are in can still move some of them: it closes the gaps of the bands and parts the rules
that share an index.
-/

namespace FirewallOrder

open Dialogue Operation Called

/-- An attempt whose plan succeeds sends nothing exactly if the plan is empty. -/
theorem Operation.apply_sends_nothing_iff {σ : Type} {answer : (call : Call) → σ → call.Answer × σ}
    {start : σ} {id : RulesetId} {o : RuleOrder} {rules : List Rule} {updates : List IndexUpdate}
    (listing : (answer (.list id.site) start).1 = .ok rules)
    (planned : (Snapshot.ofSite id.ruleset rules).plan id o = .ok updates) :
    (∀ call ∈ ((apply id o).runOn answer start).2.1, call.isChange = false) ↔ updates = [] := by
  rcases ran : (apply id o).runOn answer start with ⟨result, calls, final⟩
  obtain ⟨turns, hrun, hanswers, rfl⟩ := runOn_eq_iff.1 ran
  obtain ⟨reply, rest, rfl, follows⟩ := run_apply_follows hrun
  obtain rfl : reply = .ok rules := (answers_cons.1 hanswers).1.symm.trans listing
  have changes : changesFor id o (.ok rules) = .ok updates := planned
  rw [changes] at follows
  have quiet :
      (∀ call ∈ (listed id.site (.ok rules) :: rest).map Turn.question, call.isChange = false) ↔
      ((listed id.site (.ok rules) :: rest).map Turn.question).filter Call.isChange = [] := by
    simp only [List.filter_eq_nil_iff, Bool.not_eq_true]
  rw [quiet, follows]
  cases updates with
  | nil => exact iff_of_true rfl rfl
  | cons u us => exact iff_of_false (List.cons_ne_nil _ _) (List.cons_ne_nil _ _)

/-- **There is nothing to send exactly for the present order of compact bands.** For every list of
rules and every order,

* the plan succeeds and is empty if and only if no identity in the bands is repeated, the order is
  the one that the rules are in, and in each band the rules count on from its first index;
* if no identity is repeated, the plan for the present order is empty if and only if neither band
  has a gap, at its beginning or later, or a tie;
* where the plan for what a controller lists succeeds, an attempt asks it for no change in exactly
  these states. -/
theorem nothing_to_send_iff {σ : Type} (answer : (call : Call) → σ → call.Answer × σ) (start : σ)
    (id : RulesetId) (o : RuleOrder) :
    (∀ rules : List Rule,
      let s := Snapshot.ofRules rules
      let ids := (rules.filter fun r => Band.Covers r.index).map (·.id)
      (s.plan id o = .ok [] ↔ ids.Nodup ∧ o = s.order ∧
        ∀ (b : Band) (i : Nat) r, (s.band b)[i]? = some r → r.index = b.base + i) ∧
      (ids.Nodup →
        (s.plan id s.order = .ok [] ↔ ∀ b : Band, ¬ b.HasGap rules ∧ ¬ b.HasTie rules))) ∧
    ∀ rules updates, (answer (.list id.site) start).1 = .ok rules →
      (Snapshot.ofSite id.ruleset rules).plan id o = .ok updates →
      let own := id.ruleset.own rules
      ((∀ call ∈ ((Operation.apply id o).runOn answer start).2.1, call.isChange = false) ↔
        o = (Snapshot.ofRules own).order ∧ ∀ b : Band, ¬ b.HasGap own ∧ ¬ b.HasTie own) := by
  refine ⟨fun rules => ⟨Snapshot.plan_eq_nil_iff, fun distinct => ?_⟩, ?_⟩
  · rw [Snapshot.plan_eq_nil_iff, ← Snapshot.compact_ofRules_iff]
    exact ⟨fun h => h.2.2, fun compact => ⟨distinct, rfl, compact⟩⟩
  · intro rules updates listing planned own
    have distinct : ((own.filter fun r => Band.Covers r.index).map (·.id)).Nodup :=
      (Snapshot.plan_ofSite_eq_ok_iff.1 planned).1.distinct
    have empty : updates = [] ↔ (Snapshot.ofRules own).plan id o = .ok [] := by
      have same : (Snapshot.ofRules own).plan id o = .ok updates := planned
      rw [same, Except.ok.injEq]
    rw [apply_sends_nothing_iff listing planned, empty, Snapshot.plan_eq_nil_iff,
      ← Snapshot.compact_ofRules_iff]
    exact and_iff_right distinct

namespace Memory

/-- The rules of one ruleset in a row, from the first index of each band on, with a rule between the
bands, and one of another ruleset. -/
def inRow : List Rule :=
  [crossed.rule "a" "LAN_IN" 2000, crossed.rule "x" "WAN_IN" 2001, crossed.rule "b" "LAN_IN" 2001,
    crossed.rule "p" "LAN_IN" 3000, crossed.rule "c" "LAN_IN" 4000]

/-- Two rules at the first index of a band. -/
def tied : List Rule := [crossed.rule "a" "LAN_IN" 2000, crossed.rule "b" "LAN_IN" 2000]

end Memory

theorem nothing_to_send_iff_inRow :
    let id := Memory.crossing.target "default"
    let own := id.ruleset.own Memory.inRow
    (∀ call ∈
        ((apply id ⟨["a", "b"], ["c"]⟩).runOn Memory.answer ⟨[("default", Memory.inRow)]⟩).2.1,
      call.isChange = false) ∧
      (∀ b : Band, ¬ b.HasGap own ∧ ¬ b.HasTie own) ∧
      (Snapshot.ofRules Memory.tied).plan id (Snapshot.ofRules Memory.tied).order ≠ .ok [] := by
  intro id own
  have sends :=
    nothing_to_send_iff Memory.answer ⟨[("default", Memory.inRow)]⟩ id ⟨["a", "b"], ["c"]⟩
  have asked : ((apply (Memory.crossing.target "default") ⟨["a", "b"], ["c"]⟩).runOn Memory.answer
      ⟨[("default", Memory.inRow)]⟩).2.1 = [.list "default", .list "default"] := by
    cbv
  have quiet : ∀ call ∈ ((apply id ⟨["a", "b"], ["c"]⟩).runOn Memory.answer
      ⟨[("default", Memory.inRow)]⟩).2.1, call.isChange = false := by
    rw [asked]
    simp [Call.isChange]
  refine ⟨quiet, ((sends.2 Memory.inRow [] rfl (by cbv)).1 quiet).2, fun none => ?_⟩
  have untied := (((sends.1 Memory.tied).2 (by decide +kernel)).1 none .before).2
  exact untied ⟨2000, by decide, by decide +kernel⟩

end FirewallOrder
