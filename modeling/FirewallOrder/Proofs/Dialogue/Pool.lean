import Mathlib.Logic.Function.Basic
import FirewallOrder.Proofs.Dialogue.Run

/-!
# Dialogues that share a party

Several dialogues are held with one party, which answers one question at a time. Which dialogue has
the next turn is anybody's choice: a list of names says whose turn it is, and every interleaving is
such a list (`Pool.play`).

A dialogue keeps a contract if it asks only what the contract allows, as long as it is answered as
the contract promises (`Contract.Keeps`). If every dialogue keeps the contract and the party honours
it, then so it stays, whatever the interleaving (`Contract.Keeping.play`).
-/

namespace FirewallOrder

namespace Dialogue

variable {ι Q : Type} {A : Q → Type} {α β σ : Type}

/-- Dialogues with one party: what is left of each, who asked what so far, and the party's state. -/
structure Pool (ι Q : Type) (A : Q → Type) (α σ : Type) where
  left : ι → Dialogue Q A α
  asked : List (ι × Q)
  state : σ

namespace Pool

variable [DecidableEq ι] (answer : (q : Q) → σ → A q × σ)

/-- The dialogues before the first turn. -/
def start (dialogues : ι → Dialogue Q A α) (s : σ) : Pool ι Q A α σ := ⟨dialogues, [], s⟩

/-- One turn: the next question is answered. A dialogue that is over lets its turn pass. -/
def turn (p : Pool ι Q A α σ) (i : ι) : Pool ι Q A α σ :=
  match p.left i with
  | done _ => p
  | ask q next =>
    ⟨Function.update p.left i (next (answer q p.state).1), p.asked ++ [(i, q)],
      (answer q p.state).2⟩

/-- Turn after turn. -/
def play (p : Pool ι Q A α σ) (turns : List ι) : Pool ι Q A α σ := turns.foldl (turn answer) p

variable {answer} {p : Pool ι Q A α σ} {i : ι}

theorem turn_of_done {a : α} (h : p.left i = done a) : p.turn answer i = p := by
  rw [turn, h]

theorem turn_of_ask {q : Q} {next : A q → Dialogue Q A α} (h : p.left i = ask q next) :
    p.turn answer i =
      ⟨Function.update p.left i (next (answer q p.state).1), p.asked ++ [(i, q)],
        (answer q p.state).2⟩ := by
  rw [turn, h]

theorem left_turn_self {q : Q} {next : A q → Dialogue Q A α} (h : p.left i = ask q next) :
    (p.turn answer i).left i = next (answer q p.state).1 := by
  rw [turn_of_ask h]
  exact Function.update_self _ _ _

theorem left_turn_of_ne {j : ι} (hne : j ≠ i) : (p.turn answer i).left j = p.left j := by
  cases h : p.left i with
  | done a => rw [turn_of_done h]
  | ask q next =>
    rw [turn_of_ask h]
    exact Function.update_of_ne hne _ _

end Pool

/-! ## Contracts -/

/-- What may be asked, and what the answer to it may be. -/
structure Contract (Q : Type) (A : Q → Type) where
  asks : Q → Prop
  gets : (q : Q) → A q → Prop

namespace Contract

variable (c : Contract Q A)

/-- The dialogue asks at most so many questions, and only such as are allowed, as long as the
answers are such as are promised; and then it ends with such a result. -/
def Keeps (post : α → Prop) : Nat → Dialogue Q A α → Prop
  | _, done a => post a
  | 0, ask _ _ => False
  | n + 1, ask q next => c.asks q ∧ ∀ a, c.gets q a → Keeps post n (next a)

/-- The party gives the answers that are promised, and stays in the states in which it does. -/
def Honoured (inv : σ → Prop) (answer : (q : Q) → σ → A q × σ) : Prop :=
  ∀ q s, inv s → c.asks q → c.gets q (answer q s).1 ∧ inv (answer q s).2

variable {c} {post : α → Prop}

theorem keeps_done {n : Nat} {a : α} : c.Keeps post n (done a) ↔ post a := by
  cases n with
  | zero => exact Iff.rfl
  | succ n => exact Iff.rfl

theorem keeps_ask {n : Nat} {q : Q} {next : A q → Dialogue Q A α} :
    c.Keeps post (n + 1) (ask q next) ↔
      c.asks q ∧ ∀ a, c.gets q a → c.Keeps post n (next a) := Iff.rfl

theorem Keeps.eq_done {d : Dialogue Q A α} (h : c.Keeps post 0 d) : ∃ a, d = done a := by
  cases d with
  | done a => exact ⟨a, rfl⟩
  | ask q next => exact h.elim

variable [DecidableEq ι] {answer : (q : Q) → σ → A q × σ} {inv : σ → Prop} {p : Pool ι Q A α σ}

/-- What a pool keeps: the party is in a state in which it gives the promised answers, and what is
left of every dialogue keeps the contract, as did what was asked. -/
structure Keeping (c : Contract Q A) (inv : σ → Prop) (post : ι → α → Prop) (most : ι → Nat)
    (p : Pool ι Q A α σ) : Prop where
  state : inv p.state
  left : ∀ i, c.Keeps (post i) (most i) (p.left i)
  asked : ∀ call ∈ p.asked, c.asks call.2

variable {post : ι → α → Prop} {most : ι → Nat}

omit [DecidableEq ι] in
theorem keeping_start {dialogues : ι → Dialogue Q A α} {s : σ} (state : inv s)
    (left : ∀ i, c.Keeps (post i) (most i) (dialogues i)) :
    c.Keeping inv post most (.start dialogues s) :=
  ⟨state, left, fun _ hcall => (List.not_mem_nil hcall).elim⟩

theorem Keeping.turn (honoured : c.Honoured inv answer) (h : c.Keeping inv post most p) (j : ι) :
    c.Keeping inv post (fun i => most i - [j].count i) (p.turn answer j) := by
  have self : most j - [j].count j = most j - 1 := by
    rw [List.count_singleton_self]
  have other : ∀ i, i ≠ j → c.Keeps (post i) (most i - [j].count i) ((p.turn answer j).left i) := by
    intro i hne
    rw [List.count_singleton, if_neg (by simpa using hne.symm), Nat.sub_zero,
      Pool.left_turn_of_ne hne]
    exact h.left i
  -- All the others are where they were, with as many questions left.
  have mine := h.left j
  cases hleft : p.left j with
  | done a =>
    rw [hleft, keeps_done] at mine
    rw [Pool.turn_of_done hleft] at other ⊢
    refine ⟨h.state, fun i => ?_, h.asked⟩
    by_cases same : i = j
    · rw [same, hleft]
      exact keeps_done.2 mine
    · exact other i same
  | ask q next =>
    rw [hleft] at mine
    cases hmost : most j with
    | zero =>
      rw [hmost] at mine
      exact mine.elim
    | succ n =>
      rw [hmost, keeps_ask] at mine
      obtain ⟨hasks, hnext⟩ := mine
      obtain ⟨hgets, hinv⟩ := honoured q p.state h.state hasks
      refine ⟨?_, fun i => ?_, ?_⟩
      · rw [Pool.turn_of_ask hleft]
        exact hinv
      · by_cases same : i = j
        · rw [same, Pool.left_turn_self hleft, self, hmost]
          exact hnext _ hgets
        · exact other i same
      · rw [Pool.turn_of_ask hleft]
        intro call hcall
        rcases List.mem_append.1 hcall with hcall | hcall
        · exact h.asked call hcall
        · rw [List.mem_singleton.1 hcall]
          exact hasks

/-- **What every dialogue and the party keep, every interleaving keeps.** Each turn brings its
dialogue nearer to its end. -/
theorem Keeping.play (honoured : c.Honoured inv answer) (h : c.Keeping inv post most p)
    (turns : List ι) :
    c.Keeping inv post (fun i => most i - turns.count i) (p.play answer turns) := by
  induction turns generalizing p most with
  | nil => exact h
  | cons j turns ih =>
    have spent : (fun i => most i - (j :: turns).count i) =
        fun i => most i - [j].count i - turns.count i := by
      funext i
      rw [List.count_cons, List.count_singleton]
      omega
    rw [spent]
    exact ih (h.turn honoured j)

omit [DecidableEq ι] in
theorem Keeping.result (h : c.Keeping inv post most p) {i : ι} {a : α} (ended : p.left i = done a) :
    post i a := by
  have hleft := h.left i
  rw [ended, keeps_done] at hleft
  exact hleft

omit [DecidableEq ι] in
/-- A dialogue that had as many turns as it has questions is over. -/
theorem Keeping.returned (h : c.Keeping inv post most p) {i : ι} (spent : most i = 0) :
    ∃ a, p.left i = done a := by
  have hleft := h.left i
  rw [spent] at hleft
  exact hleft.eq_done

end Contract

end Dialogue

end FirewallOrder
