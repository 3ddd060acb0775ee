import FirewallOrder.Proofs.Managed.Decode
import FirewallOrder.Proofs.Ordering.Plan

/-!
# Orders that were checked

There are three ways to plan: a plan is made, or something differs, or a part of the order does not
fit into its band (`Snapshot.plan_cases`). A look-up fails in none of them, since an order of which
nothing differs lists the rules of the snapshot only. And the checks of a configuration let no part
through that is too long for its band (`RulesetConfig.le_of_decode`), so that for its order the
third way is closed as well (`RulesetConfig.plan_or_drift`).
-/

namespace FirewallOrder

/-! ## The ways to plan -/

namespace Snapshot

variable {s : Snapshot} {o : RuleOrder}

theorem updatesIn_cases (ruleset : Ruleset) (b : Band) {ids : List String}
    (found : ∀ x ∈ ids, ∃ n, s.indexOf? x = some n) :
    (∃ updates, s.updatesIn ruleset b ids = .ok updates) ∨
      1000 < ids.length ∧ ∃ message, s.updatesIn ruleset b ids = .error (.invalid message) := by
  rcases Nat.lt_or_ge 1000 ids.length with overflow | fits
  · have hwidth : Band.width < ids.length := overflow
    rw [updatesIn, if_pos hwidth]
    exact .inr ⟨overflow, _, rfl⟩
  · exact .inl ⟨_, (updatesIn_eq_ok_iff found).2 ⟨fits, rfl⟩⟩

/-- If nothing differs, the only hindrance is a part of the order that is too long. -/
theorem updates_cases (ruleset : Ruleset) (found : ∀ x ∈ o.ids, ∃ n, s.indexOf? x = some n) :
    (∃ updates, s.updates ruleset o = .ok updates) ∨
      (1000 < o.before.length ∨ 1000 < o.after.length) ∧
        ∃ message, s.updates ruleset o = .error (.invalid message) := by
  rw [updates]
  rcases updatesIn_cases ruleset .before fun x hx => found x (List.mem_append_left _ hx) with
    ⟨front, hfront⟩ | ⟨overflow, message, h⟩
  · rw [hfront]
    rcases updatesIn_cases ruleset .after fun x hx => found x (List.mem_append_right _ hx) with
      ⟨rear, hrear⟩ | ⟨overflow, message, h⟩
    · rw [hrear]
      exact .inl ⟨_, rfl⟩
    · rw [h]
      exact .inr ⟨.inr overflow, message, rfl⟩
  · rw [h]
    exact .inr ⟨.inl overflow, message, rfl⟩

/-- Planning makes a plan, or reports what differs, or refuses an order that is too long for its
bands. -/
theorem plan_cases (s : Snapshot) (id : RulesetId) (o : RuleOrder) :
    ((s.drift o).isEmpty = true ∧ ∃ updates, s.plan id o = .ok updates) ∨
      ((s.drift o).isEmpty = false ∧ s.plan id o = .error (.drift id.site id.ruleset (s.drift o))) ∨
        (1000 < o.before.length ∨ 1000 < o.after.length) ∧
          ∃ message, s.plan id o = .error (.invalid message) := by
  rw [plan]
  by_cases empty : (s.drift o).isEmpty = true
  · rw [if_pos empty]
    obtain ⟨distinct, -, perm⟩ := Drift.isEmpty_compare_iff.1 empty
    rcases updates_cases id.ruleset (exists_indexOf?_of_perm distinct perm) with planned | overflow
    · exact .inl ⟨empty, planned⟩
    · exact .inr (.inr overflow)
  · rw [if_neg empty]
    exact .inr (.inl ⟨Bool.not_eq_true _ ▸ empty, rfl⟩)

end Snapshot

/-! ## Configurations -/

namespace RulesetConfig

/-- **For a configured order there is a plan, or something differs.** Whatever the snapshot, no
other error comes up, since the configuration was checked; and for no order at all is a rule missing
from the snapshot once nothing differs. -/
theorem plan_or_drift :
    (∀ value config, decode value = .ok config → ∀ (s : Snapshot) (id : RulesetId),
      ((s.drift config.order).isEmpty = true ∧ ∃ updates, s.plan id config.order = .ok updates) ∨
        ((s.drift config.order).isEmpty = false ∧
          s.plan id config.order = .error (.drift id.site id.ruleset (s.drift config.order)))) ∧
    ∀ (s : Snapshot) (id : RulesetId) (o : RuleOrder) (missing : String) (ruleset : Ruleset),
      s.plan id o ≠ .error (.ruleMissing missing ruleset) := by
  constructor
  · intro value config decoded s id
    obtain ⟨hbefore, hafter⟩ := le_of_decode decoded
    rcases s.plan_cases id config.order with planned | drift | ⟨overflow, -⟩
    · exact .inl planned
    · exact .inr drift
    · omega
  · intro s id o missing ruleset h
    rcases s.plan_cases id o with ⟨-, updates, planned⟩ | ⟨-, drift⟩ | ⟨-, message, invalid⟩
    · rw [h] at planned
      cases planned
    · rw [h] at drift
      cases drift
    · rw [h] at invalid
      cases invalid

theorem plan_or_drift_repeated :
    let value : Json := .obj [("ruleset", .str " lan_in "), ("before_predefined", .arr [.str "b"]),
      ("after_predefined", .arr [.str "a", .str "b"])]
    let s : Snapshot := ⟨[⟨"a", 2003⟩], [⟨"b", 4000⟩]⟩
    ∃ config, decode value = .ok config ∧ config.order.ids = ["b", "a", "b"] ∧
      (s.drift config.order).duplicated = ["b"] ∧
      s.plan (config.target "default") config.order =
        .error (.drift "default" config.ruleset (s.drift config.order)) := by
  intro value s
  have decoded : decode value = .ok ⟨none, ⟨.lan, .v4, .inbound⟩, ⟨["b"], ["a", "b"]⟩⟩ := by rfl
  refine ⟨_, decoded, rfl, rfl, ?_⟩
  rcases plan_or_drift.1 value _ decoded s ⟨"default", ⟨.lan, .v4, .inbound⟩⟩ with
    ⟨empty, -⟩ | ⟨-, drift⟩
  · cases empty
  · exact drift

end RulesetConfig

end FirewallOrder
