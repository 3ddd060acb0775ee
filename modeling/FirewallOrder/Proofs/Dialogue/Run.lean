import FirewallOrder.Controller.Memory

/-!
# Runs of a dialogue

What a dialogue does is seen in its runs: the questions it asks, the answers it gets, and the result
that it ends with. `Dialogue.Run` lets every question be answered in every way, so what holds of all
runs holds with every party. `Dialogue.Answers` says that the answers of a run are those of a party
that keeps a state.

`Operation.runOn_eq_iff` puts the two together: an operation that a controller answers takes the one
run whose answers are the controller's own.
-/

namespace FirewallOrder

namespace Dialogue

variable {Q : Type} {A : Q → Type} {α β σ : Type}

/-- A question and its answer. -/
structure Turn (Q : Type) (A : Q → Type) where
  question : Q
  answer : A question

/-- The turns that a dialogue takes, each answer being anything, and the result at the end. -/
inductive Run : Dialogue Q A α → List (Turn Q A) → α → Prop
  | done (a : α) : Run (done a) [] a
  | ask {q : Q} {next : A q → Dialogue Q A α} {turns : List (Turn Q A)} {a : α} (answer : A q)
      (rest : Run (next answer) turns a) : Run (ask q next) (⟨q, answer⟩ :: turns) a

@[simp] theorem run_done_iff {a b : α} {turns : List (Turn Q A)} :
    Run (done a : Dialogue Q A α) turns b ↔ turns = [] ∧ b = a := by
  constructor
  · intro h
    cases h
    exact ⟨rfl, rfl⟩
  · rintro ⟨rfl, rfl⟩
    exact .done b

@[simp] theorem run_ask_iff {q : Q} {next : A q → Dialogue Q A α}
    {turns : List (Turn Q A)} {a : α} : Run (ask q next) turns a ↔
      ∃ answer rest, turns = ⟨q, answer⟩ :: rest ∧ Run (next answer) rest a := by
  constructor
  · intro h
    cases h with
    | ask answer rest => exact ⟨answer, _, rfl, rest⟩
  · rintro ⟨answer, rest, rfl, h⟩
    exact .ask answer h

/-- A run of two dialogues is a run of the first and then one of the second. -/
theorem run_bind_iff {d : Dialogue Q A α} {f : α → Dialogue Q A β}
    {turns : List (Turn Q A)} {b : β} : Run (d.bind f) turns b ↔
      ∃ first second a, turns = first ++ second ∧ Run d first a ∧ Run (f a) second b := by
  induction d generalizing turns with
  | done a =>
    constructor
    · intro h
      exact ⟨[], turns, a, rfl, .done a, h⟩
    · rintro ⟨first, second, a', rfl, h, hf⟩
      obtain ⟨rfl, rfl⟩ := run_done_iff.1 h
      exact hf
  | ask q next ih =>
    rw [ask_bind]
    constructor
    · intro h
      obtain ⟨answer, rest, rfl, hrest⟩ := run_ask_iff.1 h
      obtain ⟨first, second, a, rfl, hd, hf⟩ := (ih answer).1 hrest
      exact ⟨⟨q, answer⟩ :: first, second, a, rfl, .ask answer hd, hf⟩
    · rintro ⟨first, second, a, rfl, h, hf⟩
      obtain ⟨answer, rest, rfl, hd⟩ := run_ask_iff.1 h
      exact .ask answer ((ih answer).2 ⟨rest, second, a, rfl, hd, hf⟩)

/-! ## Parties with a state -/

/-- A party that starts in one state gives the answers of these turns and comes to another state. -/
def Answers (answer : (q : Q) → σ → A q × σ) : σ → List (Turn Q A) → σ → Prop
  | s, [], t => t = s
  | s, turn :: turns, t =>
    (answer turn.question s).1 = turn.answer ∧ Answers answer (answer turn.question s).2 turns t

variable {answer : (q : Q) → σ → A q × σ}

@[simp] theorem answers_nil {s t : σ} : Answers answer s [] t ↔ t = s := Iff.rfl

@[simp] theorem answers_cons {s t : σ} {turn : Turn Q A} {turns : List (Turn Q A)} :
    Answers answer s (turn :: turns) t ↔
      (answer turn.question s).1 = turn.answer ∧
        Answers answer (answer turn.question s).2 turns t := Iff.rfl

/-- The turns that a dialogue takes when the party answers. -/
def turnsWith (answer : (q : Q) → σ → A q × σ) : Dialogue Q A α → σ → List (Turn Q A)
  | done _, _ => []
  | ask q next, s =>
    ⟨q, (answer q s).1⟩ :: turnsWith answer (next (answer q s).1) (answer q s).2

/-- No other run has the answers of the party. -/
theorem eq_turnsWith {d : Dialogue Q A α} {turns : List (Turn Q A)} {a : α} {s t : σ}
    (run : Run d turns a) (answers : Answers answer s turns t) : turns = d.turnsWith answer s := by
  induction run generalizing s with
  | done a => rfl
  | @ask q _ _ _ reply _ ih =>
    have given : (answer q s).1 = reply := answers.1
    rw [turnsWith, given, ← ih answers.2]

/-- The run that a dialogue takes when the party answers. -/
theorem run_interpret (answer : (q : Q) → σ → A q × σ) (d : Dialogue Q A α) (s : σ) :
    Run d (d.turnsWith answer s) (d.interpret (m := StateM σ) answer s).1 := by
  induction d generalizing s with
  | done a => exact .done a
  | ask q next ih => exact .ask _ (ih _ _)

/-- Answers a question, and writes it down behind those that were asked before. -/
def recording (answer : (q : Q) → σ → A q × σ) (q : Q) : StateM (List Q × σ) (A q) :=
  fun (asked, s) => ((answer q s).1, asked ++ [q], (answer q s).2)

theorem interpret_recording_done {asked : List Q} {s : σ} (b : α) :
    (done b : Dialogue Q A α).interpret (recording answer) (asked, s) = (b, asked, s) := rfl

theorem interpret_recording_ask {asked : List Q} {s : σ} (q : Q) (next : A q → Dialogue Q A α) :
    (ask q next).interpret (recording answer) (asked, s) =
      (next (answer q s).1).interpret (recording answer) (asked ++ [q], (answer q s).2) := rfl

/-- Only one run has the answers of the party, and it is the one that interpreting the dialogue
takes. -/
theorem interpret_recording_eq_iff {d : Dialogue Q A α} {asked asked' : List Q} {s t : σ} {a : α} :
    d.interpret (recording answer) (asked, s) = (a, asked', t) ↔
      ∃ turns, Run d turns a ∧ Answers answer s turns t ∧
        asked' = asked ++ turns.map Turn.question := by
  induction d generalizing asked s with
  | done b =>
    rw [interpret_recording_done]
    constructor
    · intro h
      cases h
      exact ⟨[], .done _, rfl, by simp⟩
    · rintro ⟨turns, h, hs, rfl⟩
      obtain ⟨rfl, rfl⟩ := run_done_iff.1 h
      obtain rfl := answers_nil.1 hs
      rw [List.map_nil, List.append_nil]
  | ask q next ih =>
    rw [interpret_recording_ask, ih]
    constructor
    · rintro ⟨turns, h, hs, rfl⟩
      exact ⟨⟨q, (answer q s).1⟩ :: turns, .ask _ h, ⟨rfl, hs⟩, by simp⟩
    · rintro ⟨turns, h, hs, rfl⟩
      obtain ⟨reply, rest, rfl, hrest⟩ := run_ask_iff.1 h
      have hreply : (answer q s).1 = reply := hs.1
      subst hreply
      exact ⟨rest, hrest, hs.2, by simp⟩

end Dialogue

open Dialogue

/-- An operation answered by a controller takes the run whose answers are the controller's. -/
theorem Operation.runOn_eq_iff {σ ε α : Type} {answer : (call : Call) → σ → call.Answer × σ}
    {op : Operation ε α} {start final : σ} {result : Except ε α} {calls : List Call} :
    op.runOn answer start = (result, calls, final) ↔
      ∃ turns, Run op.run turns result ∧ Answers answer start turns final ∧
        calls = turns.map Turn.question := by
  have same : op.runOn answer start = op.run.interpret (recording answer) ([], start) := rfl
  rw [same, interpret_recording_eq_iff]
  simp

/-- The turns of an operation that a controller answers. -/
theorem Operation.run_turnsWith {σ ε α : Type} (answer : (call : Call) → σ → call.Answer × σ)
    (op : Operation ε α) (start : σ) :
    Run op.run (op.run.turnsWith answer start) (op.runOn answer start).1 ∧
      (op.runOn answer start).2.1 = (op.run.turnsWith answer start).map Turn.question := by
  obtain ⟨turns, run, answers, calls⟩ := runOn_eq_iff.1 (rfl : op.runOn answer start = _)
  rw [← eq_turnsWith run answers]
  exact ⟨run, calls⟩

end FirewallOrder
