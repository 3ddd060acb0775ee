import FirewallOrder.Proofs.Controller.Keeper
import FirewallOrder.Proofs.Dialogue.Apart
import FirewallOrder.Proofs.Ruleset.Name

/-!
# What one ruleset sees of a controller

The rules of one ruleset of one site are the portion of the controller in memory that an operation
on this ruleset depends on (`Memory.portion?`), even when rules of other rulesets have the same
identities. Operations on different rulesets, or on different sites, keep apart (`Memory.apart`):
each sees its portion only, and changes no other, and their changes commute.
-/

namespace FirewallOrder

open Dialogue

/-! ## Rulesets are told apart by their spelling -/

namespace Ruleset

/-- New indices in another ruleset leave the rules of a ruleset as they are. -/
theorem own_map_reindex_of_ne {r r' : Ruleset} (hne : r ≠ r') (updates : List IndexUpdate)
    (rules : List Rule) : r.own (rules.map (Memory.reindex r' updates)) = r.own rules := by
  have same : ∀ rule ∈ r.own rules, Memory.reindex r' updates rule = rule := by
    intro rule hrule
    have mine := (mem_own.1 hrule).2
    exact Memory.reindex_of_foreign fun h => hne (spelling_injective (mine.symm.trans h))
  rw [own_map_reindex, List.map_congr_left same, List.map_id']

end Ruleset

namespace Memory

theorem reindex_comm {r r' : Ruleset} (hne : r ≠ r') (updates updates' : List IndexUpdate)
    (rule : Rule) :
    reindex r' updates' (reindex r updates rule) =
      reindex r updates (reindex r' updates' rule) := by
  by_cases mine : rule.ruleset = r.spelling
  · have foreign : rule.ruleset ≠ r'.spelling := fun h =>
      hne (Ruleset.spelling_injective (mine.symm.trans h))
    rw [reindex_of_foreign foreign]
    exact reindex_of_foreign (by rwa [reindex_ruleset])
  · rw [reindex_of_foreign mine]
    exact (reindex_of_foreign (by rwa [reindex_ruleset])).symm

/-- Changes to different rulesets, or at different sites, commute. -/
theorem reorder_comm {id id' : RulesetId} (hne : id ≠ id') (updates updates' : List IndexUpdate)
    (m : Memory) :
    (m.reorder id.site id.ruleset updates).reorder id'.site id'.ruleset updates' =
      (m.reorder id'.site id'.ruleset updates').reorder id.site id.ruleset updates := by
  obtain ⟨site, r⟩ := id
  obtain ⟨site', r'⟩ := id'
  obtain ⟨sites⟩ := m
  simp only [reorder, List.map_map]
  refine congrArg _ (List.map_congr_left ?_)
  rintro ⟨name, rules⟩ -
  -- At one site the rulesets differ; at two sites, no list of rules is changed by both.
  by_cases sites : site = site'
  · subst sites
    have rulesets : r ≠ r' := fun h => hne (by rw [h])
    have same (rule : Rule) := reindex_comm rulesets updates updates' rule
    by_cases here : name = site <;> simp [here, Function.comp_def, same]
  · by_cases here : name = site
    · simp [here, sites]
    · by_cases there : name = site' <;> simp [here, there, Ne.symm sites]

/-! ## The portion of a ruleset -/

/-- The rules of the ruleset at its site, if there is such a site. -/
def portion? (m : Memory) (id : RulesetId) : Option (List Rule) :=
  (m.rules? id.site).map id.ruleset.own

variable {id id' : RulesetId} {m m' : Memory} {updates : List IndexUpdate}

theorem portion?_reorder (m : Memory) (id : RulesetId) (updates : List IndexUpdate) :
    (m.reorder id.site id.ruleset updates).portion? id =
      (m.portion? id).map (List.map (reindex id.ruleset updates)) := by
  rw [portion?, rules?_reorder, if_pos rfl, portion?, Option.map_map, Option.map_map]
  refine congrArg (Option.map · _) (funext fun rules => ?_)
  exact Ruleset.own_map_reindex _ _ _ _

theorem portion?_reorder_of_ne (hne : id' ≠ id) (m : Memory) (updates : List IndexUpdate) :
    (m.reorder id.site id.ruleset updates).portion? id' = m.portion? id' := by
  rw [portion?, rules?_reorder, portion?]
  by_cases site : id'.site = id.site
  · have rulesets : id'.ruleset ≠ id.ruleset := fun h => hne (by cases id; cases id'; simp_all)
    rw [if_pos site, Option.map_map]
    refine congrArg (Option.map · _) (funext fun rules => ?_)
    exact Ruleset.own_map_reindex_of_ne rulesets updates rules
  · rw [if_neg site]

end Memory

/-! ## Operations on one ruleset -/

/-- A dialogue that is about one ruleset: it lists the rules of the ruleset's site and goes by the
rules of the ruleset alone, and it changes no index elsewhere. -/
inductive Confined (id : RulesetId) {α : Type} : Dialogue Call Call.Answer α → Prop
  | done (a : α) : Confined id (done a)
  | list {next : Except ControllerError (List Rule) → Dialogue Call Call.Answer α}
      (looks : ∀ rules rules', id.ruleset.own rules = id.ruleset.own rules' →
        next (.ok rules) = next (.ok rules'))
      (rest : ∀ reply, Confined id (next reply)) : Confined id (ask (.list id.site) next)
  | reorder {updates : List IndexUpdate}
      {next : Except ControllerError Unit → Dialogue Call Call.Answer α}
      (rest : ∀ reply, Confined id (next reply)) :
      Confined id (ask (.reorder id.site id.ruleset updates) next)

namespace Memory

/-- A listing tells no more of a ruleset than its portion. -/
theorem next_listing_congr {α : Type} {id : RulesetId} {m m' : Memory}
    {next : Except ControllerError (List Rule) → Dialogue Call Call.Answer α}
    (looks : ∀ rules rules', id.ruleset.own rules = id.ruleset.own rules' →
      next (.ok rules) = next (.ok rules'))
    (same : m.portion? id = m'.portion? id) :
    next (answer (.list id.site) m).1 = next (answer (.list id.site) m').1 := by
  rw [portion?, portion?] at same
  rw [answer, answer]
  cases h : m.rules? id.site with
  | none =>
    cases h' : m'.rules? id.site with
    | none => rfl
    | some rules' =>
      rw [h, h'] at same
      cases same
  | some rules =>
    cases h' : m'.rules? id.site with
    | none =>
      rw [h, h'] at same
      cases same
    | some rules' =>
      rw [h, h'] at same
      exact looks rules rules' (Option.some.inj same)

/-- **Operations on different rulesets keep apart** on the controller in memory. -/
theorem apart {ι : Type} (α : Type) {ids : ι → RulesetId} (distinct : Function.Injective ids) :
    Apart answer (fun i m => m.portion? (ids i))
      fun i (d : Dialogue Call Call.Answer α) => Confined (ids i) d where
  next := by
    intro i q next own
    cases own with
    | list looks rest => exact rest
    | reorder rest => exact rest
  sees := by
    intro i q next m m' own same
    cases own with
    | list looks rest => exact next_listing_congr looks same
    | reorder rest => rfl
  moves := by
    intro i q next m m' own same
    cases own with
    | list looks rest =>
      rw [answer_list_snd, answer_list_snd]
      exact same
    | reorder rest =>
      rw [answer, answer, portion?_reorder, portion?_reorder, same]
  spares := by
    intro i j q next hne own m
    cases own with
    | list looks rest => rw [answer_list_snd]
    | reorder rest => exact portion?_reorder_of_ne (fun h => hne (distinct h)) m _
  commutes := by
    intro i j q q' next next' hne own own' m
    cases own with
    | list looks rest => rw [answer_list_snd, answer_list_snd]
    | reorder rest =>
      cases own' with
      | list looks' rest' => rw [answer_list_snd, answer_list_snd]
      | reorder rest' => exact reorder_comm (fun h => hne (distinct h)) _ _ m

end Memory

end FirewallOrder
