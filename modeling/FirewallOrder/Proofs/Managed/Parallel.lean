import Mathlib.Data.Fintype.Basic
import FirewallOrder.Proofs.Managed.Turns

/-!
# Creations in parallel

Creations of different rulesets at one controller in memory, whose turns interleave in any way. Each
returns what it would return if it ran alone, and the controller ends as if they had run one after
the other, in whichever order (`creations_keep_apart`). That rules of different rulesets have the
same identities is no obstacle.
-/

namespace FirewallOrder

open Dialogue

/-- An operation that has the controller to itself. -/
theorem Operation.runOn_eq_conclude {σ ε α : Type} (answer : (call : Call) → σ → call.Answer × σ)
    (op : Operation ε α) (s : σ) :
    (op.runOn answer s).1 = (op.run.conclude answer s).1 ∧
      (op.runOn answer s).2.2 = (op.run.conclude answer s).2 := by
  obtain ⟨turns, hrun, hanswers⟩ := exists_run_conclude answer op.run s
  have ran : op.runOn answer s = (_, turns.map Turn.question, _) :=
    runOn_eq_iff.2 ⟨turns, hrun, hanswers, rfl⟩
  rw [ran]
  exact ⟨rfl, rfl⟩

namespace Operation

section OneByOne

variable {ι σ : Type} (answer : (call : Call) → σ → call.Answer × σ)
  (defaultSite : ι → String) (config : ι → RulesetConfig)

/-- The controller's state after these creations, one after the other. -/
def oneByOne (order : List ι) (s : σ) : σ :=
  order.foldl (fun s i => ((create (defaultSite i) (config i)).runOn answer s).2.2) s

variable {answer defaultSite config}

theorem oneByOne_eq_finish (order : List ι) (s : σ) :
    oneByOne answer defaultSite config order s =
      finish answer (fun i => (create (defaultSite i) (config i)).run) order s :=
  List.foldl_ext _ _ s fun t i _ =>
    (runOn_eq_conclude answer (create (defaultSite i) (config i)) t).2

end OneByOne

end Operation

open Operation

section Parallel

variable {ι : Type} [Fintype ι] [DecidableEq ι] {defaultSite : ι → String}
  {config : ι → RulesetConfig}

/-- **Creations of different rulesets do not disturb each other.** However their turns interleave:

* each returns what it would return if it ran alone, and it returns within four turns;
* when all are over, the controller is in the one state that it would also be in if they had run one
  after the other, in whichever order. -/
theorem creations_keep_apart
    (distinct : Function.Injective fun i => (config i).target (defaultSite i)) (start : Memory) :
    ∃ final : Memory,
      (∀ order : List ι, order.Nodup → (∀ i, i ∈ order) →
        oneByOne Memory.answer defaultSite config order start = final) ∧
      ∀ turns : List ι,
        let pool := (creations defaultSite config start).play Memory.answer turns
        (∀ i result, pool.left i = done result →
          result = ((create (defaultSite i) (config i)).runOn Memory.answer start).1) ∧
        (∀ i, 4 ≤ turns.count i → ∃ result, pool.left i = done result) ∧
        ((∀ i, ∃ result, pool.left i = done result) → pool.state = final) := by
  have apart := Memory.apart (Except ApplyFailure AppliedChange) distinct
  have own (i : ι) : Confined ((config i).target (defaultSite i))
      ((creations defaultSite config start).left i) := confined_create (defaultSite i) (config i)
  have state (turns : List ι)
      (ended : ∀ i, ∃ result,
        ((creations defaultSite config start).play Memory.answer turns).left i =
        done result) {order : List ι} (hdistinct : order.Nodup) (all : ∀ i, i ∈ order) :
      oneByOne Memory.answer defaultSite config order start =
        ((creations defaultSite config start).play Memory.answer turns).state := by
    have ends := apart.finish_play own hdistinct all turns
    rw [Apart.finish_of_done ended] at ends
    rw [oneByOne_eq_finish]
    exact ends.symm
  have everyone (i : ι) : i ∈ (Finset.univ : Finset ι).toList :=
    Finset.mem_toList.2 (Finset.mem_univ i)
  have once := (Finset.univ : Finset ι).nodup_toList
  -- Four rounds in which every creation has a turn.
  have rounds (i : ι) : 4 ≤ (List.replicate 4 (Finset.univ : Finset ι).toList).flatten.count i := by
    have one := List.count_eq_one_of_mem once (everyone i)
    simp [one]
  refine ⟨_, fun order hdistinct all =>
    state _ (fun i => creation_over start (rounds i)) hdistinct all, fun turns => ⟨?_, ?_, ?_⟩⟩
  · intro i result ended
    have same := apart.conclude_play own turns i
    rw [ended] at same
    rw [(runOn_eq_conclude Memory.answer (create (defaultSite i) (config i)) start).1]
    exact same
  · intro i most
    exact creation_over start most
  · intro ended
    rw [← state turns ended once everyone]
    exact state _ (fun i => creation_over start (rounds i)) once everyone

end Parallel

/-- Three rulesets, two of them of one site, that have a rule "a" each. -/
def Memory.namesakes : Fin 3 → RulesetConfig
  | 0 => crossing
  | 1 => ⟨none, ⟨.wan, .v4, .inbound⟩, ⟨[], ["a"]⟩⟩
  | 2 => ⟨some "branch", crossing.ruleset, ⟨["a"], []⟩⟩

theorem creations_keep_apart_namesakes :
    let turns : List (Fin 3) := [0, 1, 2, 1, 0, 2, 0, 1, 2, 2, 1, 0]
    let pool :=
      (creations (fun _ => "default") Memory.namesakes Memory.crossed).play Memory.answer turns
    Function.Injective (fun i => (Memory.namesakes i).target "default") ∧
    (∀ i, pool.left i =
      done ((create "default" (Memory.namesakes i)).runOn Memory.answer Memory.crossed).1) ∧
    pool.state = oneByOne Memory.answer (fun _ => "default") Memory.namesakes
      [2, 0, 1] Memory.crossed := by
  intro turns pool
  have distinct : Function.Injective fun i => (Memory.namesakes i).target "default" := by decide
  obtain ⟨final, same, each⟩ := creations_keep_apart distinct Memory.crossed
  obtain ⟨returns, ended, ends⟩ := each turns
  have all (i : Fin 3) : ∃ result, pool.left i = done result := by
    refine ended i ?_
    revert i
    decide
  refine ⟨distinct, fun i => ?_, ?_⟩
  · obtain ⟨result, hresult⟩ := all i
    rw [hresult, returns i result hresult]
  · exact (ends all).trans (same [2, 0, 1] (by decide) (by decide)).symm

end FirewallOrder
