/-!
# Scripts

A script is a description of work: it is done, or it asks something and goes on with the answer. It
says nothing about who answers, so the same script can be carried out, rehearsed or reasoned about.

* `Script`: the descriptions, for questions `Q` whose answers have the types `A`.
* The monad of scripts, with its laws; `Script.lift` asks one question.
* `Script.Follows`: the script, answered in some way, asks these questions and ends with this value.
* `Script.Asks`: whatever the answers, every question of the script has a property.
-/

namespace LocalCluster

/-- A description of work that asks questions. -/
inductive Script (Q : Type) (A : Q → Type) (α : Type) where
  | done (a : α)
  | ask (q : Q) (next : A q → Script Q A α)

namespace Script

variable {Q : Type} {A : Q → Type} {α β : Type}

/-- The second script after the first, given its value. -/
def bind : Script Q A α → (α → Script Q A β) → Script Q A β
  | .done a, f => f a
  | .ask q next, f => .ask q fun answer => (next answer).bind f

instance : Monad (Script Q A) where
  pure := .done
  bind := bind

/-- Asks one question. -/
def lift (q : Q) : Script Q A (A q) := .ask q .done

@[simp] theorem done_bind (a : α) (f : α → Script Q A β) : (Script.done a >>= f) = f a := rfl

@[simp] theorem ask_bind (q : Q) (next : A q → Script Q A α) (f : α → Script Q A β) :
    (Script.ask q next >>= f) = .ask q fun answer => next answer >>= f := rfl

theorem bind_done (s : Script Q A α) : s.bind .done = s := by
  induction s with
  | done a => rfl
  | ask q next ih => exact congrArg (Script.ask q) (funext ih)

theorem bind_bind {γ : Type} (s : Script Q A α) (f : α → Script Q A β) (g : β → Script Q A γ) :
    (s.bind f).bind g = s.bind fun a => (f a).bind g := by
  induction s with
  | done a => rfl
  | ask q next ih => exact congrArg (Script.ask q) (funext ih)

instance : LawfulMonad (Script Q A) :=
  LawfulMonad.mk' (Script Q A) bind_done (fun _ _ => rfl) bind_bind

/-- A question together with the answer that it got. -/
structure Exchange (Q : Type) (A : Q → Type) where
  question : Q
  answer : A question

/-- With the answers of a list of exchanges, the script asks the questions of that list and is done
with a value. -/
inductive Follows : Script Q A α → List (Exchange Q A) → α → Prop where
  | done (a : α) : Follows (.done a) [] a
  | ask {q : Q} {next : A q → Script Q A α} {answer : A q} {rest : List (Exchange Q A)} {a : α}
      (h : Follows (next answer) rest a) : Follows (.ask q next) (⟨q, answer⟩ :: rest) a

/-- Whatever the answers, every question that the script asks has the property `P`. -/
def Asks (P : Q → Prop) : Script Q A α → Prop
  | .done _ => True
  | .ask q next => P q ∧ ∀ answer, (next answer).Asks P

@[simp] theorem asks_pure (P : Q → Prop) (a : α) : (pure a : Script Q A α).Asks P := trivial

@[simp] theorem asks_lift (P : Q → Prop) (q : Q) : (lift q : Script Q A (A q)).Asks P ↔ P q :=
  ⟨And.left, fun h => ⟨h, fun _ => trivial⟩⟩

theorem Asks.bind {P : Q → Prop} {s : Script Q A α} {f : α → Script Q A β} (hs : s.Asks P)
    (hf : ∀ a, (f a).Asks P) : (s >>= f).Asks P := by
  induction s with
  | done a => exact hf a
  | ask q next ih => exact ⟨hs.1, fun answer => ih answer (hs.2 answer)⟩

end Script

end LocalCluster
