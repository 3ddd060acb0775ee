/-!
# Dialogues

A dialogue is a computation that asks questions of a party it does not know: it ends with a result,
or asks a question and goes on with whatever the answer is. `Dialogue.interpret` lets a party
answer; the party may keep a state, speak to a network, or write down what it is asked.
-/

namespace FirewallOrder

/-- A computation that asks questions of `Q`; the answer to `q` is an `A q`. -/
inductive Dialogue (Q : Type) (A : Q → Type) (α : Type)
  | done (result : α)
  | ask (question : Q) (next : A question → Dialogue Q A α)

namespace Dialogue

variable {Q : Type} {A : Q → Type} {α β γ : Type}

/-- The first dialogue, and then the one that its result calls for. -/
def bind : Dialogue Q A α → (α → Dialogue Q A β) → Dialogue Q A β
  | done a, f => f a
  | ask q next, f => ask q fun answer => (next answer).bind f

instance : Monad (Dialogue Q A) where
  pure := done
  bind := bind

/-- One question. -/
def question (q : Q) : Dialogue Q A (A q) := ask q done

/-- The result when every question is answered by a party. -/
def interpret {m : Type → Type} [Monad m] (answer : (q : Q) → m (A q)) : Dialogue Q A α → m α
  | done a => pure a
  | ask q next => do
    let a ← answer q
    (next a).interpret answer

/-! ## Laws -/

@[simp] theorem pure_eq (a : α) : (pure a : Dialogue Q A α) = done a := rfl

@[simp] theorem bind_eq (d : Dialogue Q A α) (f : α → Dialogue Q A β) : d >>= f = d.bind f := rfl

@[simp] theorem done_bind (a : α) (f : α → Dialogue Q A β) : (done a).bind f = f a := rfl

@[simp] theorem ask_bind (q : Q) (next : A q → Dialogue Q A α) (f : α → Dialogue Q A β) :
    (ask q next).bind f = ask q fun a => (next a).bind f := rfl

@[simp] theorem bind_done (d : Dialogue Q A α) : d.bind done = d := by
  induction d with
  | done a => rfl
  | ask q next ih => simp [ih]

theorem bind_assoc (d : Dialogue Q A α) (f : α → Dialogue Q A β) (g : β → Dialogue Q A γ) :
    (d.bind f).bind g = d.bind fun a => (f a).bind g := by
  induction d with
  | done a => rfl
  | ask q next ih => simp [ih]

instance : LawfulMonad (Dialogue Q A) :=
  LawfulMonad.mk' (Dialogue Q A) (fun d => bind_done d) (fun _ _ => rfl) bind_assoc

end Dialogue

end FirewallOrder
