import FirewallOrder.Managed.Config
import FirewallOrder.Proofs.Ordering.Reindex

/-!
# Controllers that keep rules

Operations leave open which controller answers. Here it is one that keeps the rules of its sites
(`KeepsRules`): a listing gives the rules as they stand, and a change of indices that is accepted
sets them and nothing else. What such a controller remembers besides is its own affair: its rules
are seen through a function of its state.

`Reliable` controllers also accept every change to rules that they have. The controller in memory is
one of them (`Memory.reliable`).
-/

namespace FirewallOrder

section Controllers

variable {σ : Type} {answer : (call : Call) → σ → call.Answer × σ}
  {rules? : σ → String → Option (List Rule)}

/-- After the updates to a ruleset of a site: its rules have their new indices, and no other site
has changed. -/
structure Reordered (rules? : σ → String → Option (List Rule)) (id : RulesetId)
    (updates : List IndexUpdate) (before after : σ) : Prop where
  here : ∀ rules, rules? before id.site = some rules →
    ∃ rules', rules? after id.site = some rules' ∧ Reindexed id.ruleset updates rules rules'
  elsewhere : ∀ site, site ≠ id.site → rules? after site = rules? before site

/-- A controller that keeps the rules of its sites, which are seen through a function of its
state. -/
structure KeepsRules (answer : (call : Call) → σ → call.Answer × σ)
    (rules? : σ → String → Option (List Rule)) : Prop where
  /-- A listing gives the rules of the site as they stand, and fails if there is no such site. -/
  lists : ∀ site s, (answer (.list site) s).1.toOption = rules? s site
  /-- A listing changes no rule. -/
  stays : ∀ site s, rules? (answer (.list site) s).2 = rules? s
  /-- Updates that are accepted take effect, and nothing else changes. -/
  reorders : ∀ (id : RulesetId) updates s,
    (answer (.reorder id.site id.ruleset updates) s).1 = .ok () →
    Reordered rules? id updates s (answer (.reorder id.site id.ruleset updates) s).2

/-- A controller that keeps rules, and accepts all updates to rules that it has. -/
structure Reliable (answer : (call : Call) → σ → call.Answer × σ)
    (rules? : σ → String → Option (List Rule)) : Prop extends KeepsRules answer rules? where
  accepts : ∀ (id : RulesetId) (updates : List IndexUpdate) s rules, rules? s id.site = some rules →
    (∀ u ∈ updates, u.id ∈ (id.ruleset.own rules).map (·.id)) →
    (answer (.reorder id.site id.ruleset updates) s).1 = .ok ()

end Controllers

namespace Memory

theorem rules?_reorder (m : Memory) (id : RulesetId) (updates : List IndexUpdate) (site : String) :
    (m.reorder id.site id.ruleset updates).rules? site =
      if site = id.site then (m.rules? site).map (List.map (reindex id.ruleset updates))
      else m.rules? site := by
  obtain ⟨sites⟩ := m
  have same : ((fun s => s.1 == site) ∘ fun s : String × List Rule =>
      if s.1 == id.site then (s.1, s.2.map (reindex id.ruleset updates)) else s) =
      fun s => s.1 == site := by
    funext s
    by_cases h : s.1 == id.site
    · simp only [Function.comp, h, if_true]
    · simp only [Function.comp, h, Bool.false_eq_true, if_false]
  rw [rules?, rules?, reorder, List.find?_map, same]
  cases hfind : sites.find? fun s => s.1 == site with
  | none => exact (ite_self none).symm
  | some s =>
    have hsite : s.1 = site := by simpa using List.find?_some hfind
    by_cases h : site = id.site
    · simp [h, hsite]
    · simp [h, hsite]

/-- A listing leaves the controller in memory as it is. -/
theorem answer_list_snd (m : Memory) (site : String) : (answer (.list site) m).2 = m := by
  rw [answer]
  cases m.rules? site with
  | some rules => rfl
  | none => rfl

/-- The controller in memory keeps its rules, and refuses no update. -/
theorem reliable : Reliable answer rules? where
  lists := by
    intro site m
    rw [answer]
    cases m.rules? site with
    | some rules => rfl
    | none => rfl
  stays := by
    intro site m
    rw [answer_list_snd]
  reorders := by
    intro id updates m _
    refine ⟨?_, ?_⟩
    · intro rules hrules
      refine ⟨rules.map (reindex id.ruleset updates), ?_, reindexed id.ruleset updates rules⟩
      have h := rules?_reorder m id updates id.site
      rw [if_pos rfl, hrules] at h
      exact h
    · intro site hsite
      have h := rules?_reorder m id updates site
      rw [if_neg hsite] at h
      exact h
  accepts := fun _ _ _ _ _ _ => rfl

/-- Two sites, one of which has rules in both bands of a ruleset, two of them with one index, a rule
between the bands, and a rule of another ruleset with an identity that occurs in the first. -/
def crossed : Memory where
  sites :=
    [("default",
      [rule "a" "LAN_IN" 2005, rule "b" "LAN_IN" 4000, rule "a" "WAN_IN" 2000,
        rule "c" "LAN_IN" 2005, rule "p" "LAN_IN" 3000]),
      ("branch", [rule "a" "LAN_IN" 2001])]
where
  rule (id ruleset : String) (index : Int) : Rule :=
    ⟨id, none, none, ruleset, index, none, true, none, false, .empty⟩

/-- The rules of the first of them in an order that takes each to another index or band. -/
def crossing : RulesetConfig := ⟨none, ⟨.lan, .v4, .inbound⟩, ⟨["b", "c"], ["a"]⟩⟩

theorem nodup_crossed : ∀ rules, crossed.rules? "default" = some rules →
    ((crossing.ruleset.own rules).map (·.id)).Nodup := by
  intro rules h
  cases h
  decide

end Memory

end FirewallOrder
