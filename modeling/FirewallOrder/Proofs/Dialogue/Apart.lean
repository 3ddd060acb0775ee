import Mathlib.Data.List.Basic
import FirewallOrder.Proofs.Dialogue.Pool

/-!
# Dialogues that keep apart

Dialogues with one party keep apart if each depends on its own part of the party's state only, and
leaves the parts of the others as they are (`Apart`). It then makes no difference how their turns
interleave: each ends as if it had the party to itself (`Apart.conclude_play`), and the party ends
as if they were held one after the other, in whichever order (`Apart.finish_play`).
-/

namespace FirewallOrder

namespace Dialogue

variable {ι Q : Type} {A : Q → Type} {α σ ω : Type}

/-! ## A dialogue that has the party to itself -/

section Conclude

variable (answer : (q : Q) → σ → A q × σ)

/-- The result of a dialogue that has the party to itself, and the party's state then. -/
def conclude : Dialogue Q A α → σ → α × σ
  | done a, s => (a, s)
  | ask q next, s => (next (answer q s).1).conclude (answer q s).2

/-- The party's state after these dialogues, one after the other. -/
def finish (dialogues : ι → Dialogue Q A α) (order : List ι) (s : σ) : σ :=
  order.foldl (fun s i => ((dialogues i).conclude answer s).2) s

theorem exists_run_conclude (d : Dialogue Q A α) (s : σ) :
    ∃ turns, Run d turns (d.conclude answer s).1 ∧
    Answers answer s turns (d.conclude answer s).2 := by
  induction d generalizing s with
  | done a => exact ⟨[], .done a, rfl⟩
  | ask q next ih =>
    obtain ⟨turns, hrun, hanswers⟩ := ih (answer q s).1 (answer q s).2
    exact ⟨_, .ask _ hrun, rfl, hanswers⟩

end Conclude

/-! ## Keeping apart -/

/-- Dialogues keep apart that are of these kinds, one for each name, if each name has a view of the
party's state such that: what a dialogue asks is answered, and changes its view, as its view tells;
it changes no other view; and it makes no difference which of two dialogues asks first. -/
structure Apart (answer : (q : Q) → σ → A q × σ) (view : ι → σ → ω)
    (Own : ι → Dialogue Q A α → Prop) : Prop where
  next : ∀ {i q next}, Own i (ask q next) → ∀ a, Own i (next a)
  sees : ∀ {i q next s t}, Own i (ask q next) → view i s = view i t →
    next (answer q s).1 = next (answer q t).1
  moves : ∀ {i q next s t}, Own i (ask q next) → view i s = view i t →
    view i (answer q s).2 = view i (answer q t).2
  spares : ∀ {i j q next}, i ≠ j → Own j (ask q next) → ∀ s, view i (answer q s).2 = view i s
  commutes : ∀ {i j q q' next next'}, i ≠ j → Own i (ask q next) → Own j (ask q' next') → ∀ s,
    (answer q' (answer q s).2).2 = (answer q (answer q' s).2).2

namespace Apart

variable {answer : (q : Q) → σ → A q × σ} {view : ι → σ → ω} {Own : ι → Dialogue Q A α → Prop}
  {i j : ι} {d : Dialogue Q A α} {s t : σ}

theorem conclude_congr (apart : Apart answer view Own) (own : Own i d)
    (same : view i s = view i t) : (d.conclude answer s).1 = (d.conclude answer t).1 := by
  induction d generalizing s t with
  | done a => rfl
  | ask q next ih =>
    rw [conclude, conclude, apart.sees own same]
    exact ih _ (apart.next own _) (apart.moves own same)

theorem view_conclude (apart : Apart answer view Own) (hne : i ≠ j) (own : Own j d) :
    view i (d.conclude answer s).2 = view i s := by
  induction d generalizing s with
  | done a => rfl
  | ask q next ih =>
    rw [conclude, ih _ (apart.next own _), apart.spares hne own]

/-- A question of another dialogue can as well be asked after it. -/
theorem conclude_answer (apart : Apart answer view Own) (hne : i ≠ j) {q : Q}
    {next : A q → Dialogue Q A α} (asks : Own i (ask q next)) (own : Own j d) :
    (d.conclude answer (answer q s).2).2 = (answer q (d.conclude answer s).2).2 := by
  induction d generalizing s with
  | done a => rfl
  | ask q' next' ih =>
    have same := apart.sees own (apart.spares hne.symm asks s)
    rw [conclude, conclude, same, apart.commutes hne asks own]
    exact ih _ (apart.next own _)

variable [DecidableEq ι] {p : Pool ι Q A α σ}

theorem own_turn (apart : Apart answer view Own) (own : ∀ i, Own i (p.left i)) (j : ι) :
    ∀ i, Own i ((p.turn answer j).left i) := by
  intro i
  by_cases same : i = j
  · subst same
    cases hleft : p.left i with
    | done a =>
      rw [Pool.turn_of_done hleft]
      exact own i
    | ask q next =>
      have asks := own i
      rw [hleft] at asks
      rw [Pool.left_turn_self hleft]
      exact apart.next asks _
  · rw [Pool.left_turn_of_ne same]
    exact own i

/-- A turn of whichever dialogue leaves the result that each would have on its own. -/
theorem conclude_turn (apart : Apart answer view Own) (own : ∀ i, Own i (p.left i)) (i j : ι) :
    (((p.turn answer j).left i).conclude answer (p.turn answer j).state).1 =
      ((p.left i).conclude answer p.state).1 := by
  cases hleft : p.left j with
  | done a => rw [Pool.turn_of_done hleft]
  | ask q next =>
    have asks := own j
    rw [hleft] at asks
    have state : (p.turn answer j).state = (answer q p.state).2 := by
      rw [Pool.turn_of_ask hleft]
    by_cases same : i = j
    · rw [same, Pool.left_turn_self hleft, hleft, conclude, state]
    · rw [Pool.left_turn_of_ne same, state]
      exact apart.conclude_congr (own i) (apart.spares same asks p.state)

/-- The rest of a dialogue after a question that was asked first, while others come before it. -/
theorem finish_ask (apart : Apart answer view Own) {dialogues : ι → Dialogue Q A α}
    (own : ∀ i, Own i (dialogues i)) {q : Q} {next : A q → Dialogue Q A α}
    (hask : dialogues i = ask q next) {order : List ι} (distinct : order.Nodup) (mem : i ∈ order)
    (same : view i s = view i t) :
    finish answer (Function.update dialogues i (next (answer q t).1)) order (answer q s).2 =
      finish answer dialogues order s := by
  have asks := own i
  rw [hask] at asks
  -- Along the order: the dialogues before the one that asks do not mind the question, and for those
  -- behind it nothing is different, since it occurs once.
  induction order generalizing s with
  | nil => cases mem
  | cons j order ih =>
    obtain ⟨hnot, distinct⟩ := List.nodup_cons.1 distinct
    rw [finish, finish, List.foldl_cons, List.foldl_cons]
    by_cases here : j = i
    · subst here
      rw [Function.update_self, ← apart.sees asks same, hask, conclude]
      refine List.foldl_ext _ _ _ fun u k hk => ?_
      have hne : k ≠ j := by
        rintro rfl
        exact hnot hk
      rw [Function.update_of_ne hne]
    · have later : i ∈ order := (List.mem_cons.1 mem).resolve_left fun h => here h.symm
      rw [Function.update_of_ne here, apart.conclude_answer (Ne.symm here) asks (own j)]
      refine ih distinct later ?_
      rw [apart.view_conclude (Ne.symm here) (own j), same]

theorem finish_turn (apart : Apart answer view Own) (own : ∀ i, Own i (p.left i)) {order : List ι}
    (distinct : order.Nodup) (mem : j ∈ order) :
    finish answer (p.turn answer j).left order (p.turn answer j).state =
      finish answer p.left order p.state := by
  cases hleft : p.left j with
  | done a => rw [Pool.turn_of_done hleft]
  | ask q next =>
    rw [Pool.turn_of_ask hleft]
    exact apart.finish_ask own hleft distinct mem rfl

/-- **Each dialogue ends as if it had the party to itself**, whatever turns were taken. -/
theorem conclude_play (apart : Apart answer view Own) (own : ∀ i, Own i (p.left i)) (turns : List ι)
    (i : ι) :
    (((p.play answer turns).left i).conclude answer (p.play answer turns).state).1 =
      ((p.left i).conclude answer p.state).1 := by
  induction turns generalizing p with
  | nil => rfl
  | cons j turns ih =>
    exact (ih (apart.own_turn own j)).trans (apart.conclude_turn own i j)

/-- **The party ends as if the dialogues were held one after the other**, whatever turns were
taken. -/
theorem finish_play (apart : Apart answer view Own) (own : ∀ i, Own i (p.left i)) {order : List ι}
    (distinct : order.Nodup) (all : ∀ i, i ∈ order) (turns : List ι) :
    finish answer (p.play answer turns).left order (p.play answer turns).state =
      finish answer p.left order p.state := by
  induction turns generalizing p with
  | nil => rfl
  | cons j turns ih =>
    exact (ih (apart.own_turn own j)).trans (apart.finish_turn own distinct (all j))

omit [DecidableEq ι] in
/-- When all dialogues are over, nothing is left to be done. -/
theorem finish_of_done {dialogues : ι → Dialogue Q A α} (ended : ∀ i, ∃ a, dialogues i = done a)
    (order : List ι) (s : σ) : finish answer dialogues order s = s := by
  induction order generalizing s with
  | nil => rfl
  | cons i order ih =>
    obtain ⟨a, ha⟩ := ended i
    rw [finish, List.foldl_cons, ha]
    exact ih s

end Apart

end Dialogue

end FirewallOrder
