/-!
# Dialogues

A computation that talks to somebody else: it has either come to a result, or it asks a question and
goes on according to the answer.  Who answers, and how, is left open, so whatever is shown about a
dialogue holds for every backend, every file system and every user.

## What is here

* `Dialogue`, with its monad laws.
* `Dialogue.say` — one question.
* `Dialogue.interpret` — the answers given in any monad.
-/

set_option autoImplicit false

namespace Sequitur

/-- A computation that asks questions from `Q`, the answer to `q` being in `Answer q`, and comes to
a result. -/
inductive Dialogue (Q : Type) (Answer : Q → Type) (α : Type) where
  | done (result : α)
  | ask (question : Q) (next : Answer question → Dialogue Q Answer α)

namespace Dialogue

variable {Q : Type} {Answer : Q → Type} {α β γ : Type}

/-- A dialogue followed by another one that depends on its result. -/
protected def bind : Dialogue Q Answer α → (α → Dialogue Q Answer β) → Dialogue Q Answer β
  | done a, f => f a
  | ask q next, f => ask q fun r ↦ (next r).bind f

instance : Monad (Dialogue Q Answer) where
  pure := done
  bind := Dialogue.bind

@[simp]
theorem pure_eq (a : α) : (pure a : Dialogue Q Answer α) = done a := rfl

@[simp]
theorem done_bind (a : α) (f : α → Dialogue Q Answer β) : done a >>= f = f a := rfl

@[simp]
theorem ask_bind (q : Q) (next : Answer q → Dialogue Q Answer α) (f : α → Dialogue Q Answer β) :
    ask q next >>= f = ask q fun r ↦ next r >>= f := rfl

theorem bind_done (d : Dialogue Q Answer α) : d >>= done = d := by
  induction d with
  | done a => rfl
  | ask q next ih => simp only [ask_bind, ih]

theorem bind_assoc (d : Dialogue Q Answer α) (f : α → Dialogue Q Answer β)
    (g : β → Dialogue Q Answer γ) : d >>= f >>= g = d >>= fun a ↦ f a >>= g := by
  induction d with
  | done a => rfl
  | ask q next ih => simp only [ask_bind, ih]

instance : LawfulMonad (Dialogue Q Answer) :=
  LawfulMonad.mk' _ bind_done (fun _ _ ↦ rfl) bind_assoc

/-- A single question, whose answer is the result. -/
def say (q : Q) : Dialogue Q Answer (Answer q) :=
  ask q done

/-- The result of a dialogue when every question is answered in a monad. -/
def interpret {m : Type → Type} [Monad m] (answer : (q : Q) → m (Answer q)) :
    Dialogue Q Answer α → m α
  | done a => pure a
  | ask q next => answer q >>= fun r ↦ interpret answer (next r)

@[simp]
theorem interpret_done {m : Type → Type} [Monad m] (answer : (q : Q) → m (Answer q)) (a : α) :
    interpret answer (done a) = pure a := rfl

@[simp]
theorem interpret_ask {m : Type → Type} [Monad m] (answer : (q : Q) → m (Answer q)) (q : Q)
    (next : Answer q → Dialogue Q Answer α) :
    interpret answer (ask q next) = answer q >>= fun r ↦ interpret answer (next r) := rfl

end Dialogue

end Sequitur
