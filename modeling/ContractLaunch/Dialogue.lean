/-!
Programs that ask questions of the outside world. A dialogue is finished with a result, or it asks a
question and goes on with the answer, whose type may depend on the question. What it does is given by
running it against a respondent; nothing in a dialogue depends on how the answers come about.
-/
namespace ContractLaunch

/-- A program that asks questions `q : Q`, each answered by a value of `R q`. -/
inductive Dialogue (Q : Type) (R : Q → Type) (α : Type) where
  | done (result : α)
  | ask (question : Q) (resume : R question → Dialogue Q R α)

namespace Dialogue

variable {Q : Type} {R : Q → Type} {α β : Type}

def bind (d : Dialogue Q R α) (next : α → Dialogue Q R β) : Dialogue Q R β :=
  match d with
  | done a => next a
  | ask q resume => ask q fun r => (resume r).bind next

instance : Monad (Dialogue Q R) where
  pure := done
  bind := bind

def question (q : Q) : Dialogue Q R (R q) := ask q done

@[simp] theorem pure_bind (a : α) (next : α → Dialogue Q R β) : (done a).bind next = next a := rfl

@[simp] theorem bind_done (d : Dialogue Q R α) : d.bind done = d := by
  induction d with
  | done a => rfl
  | ask q resume ih => simp [bind, ih]

theorem bind_assoc {γ : Type} (d : Dialogue Q R α) (f : α → Dialogue Q R β)
    (g : β → Dialogue Q R γ) : (d.bind f).bind g = d.bind fun a => (f a).bind g := by
  induction d with
  | done a => rfl
  | ask q resume ih => simp [bind, ih]

abbrev Exchange (Q : Type) (R : Q → Type) := (q : Q) × R q

/-- A respondent whose answers may depend on everything that was asked and answered before. -/
abbrev Respondent (Q : Type) (R : Q → Type) := List (Exchange Q R) → (q : Q) → R q

/-- Runs a dialogue after the exchanges `past`: its result, and all exchanges up to its end. -/
def run (respond : Respondent Q R) : Dialogue Q R α → List (Exchange Q R) → α × List (Exchange Q R)
  | done a, past => (a, past)
  | ask q resume, past =>
    let r := respond past q
    (resume r).run respond (past ++ [⟨q, r⟩])

def interpret {m : Type → Type} [Monad m] (answer : (q : Q) → m (R q)) : Dialogue Q R α → m α
  | done a => pure a
  | ask q resume => do
    let r ← answer q
    (resume r).interpret answer

/-- The dialogue in which each question is settled by a dialogue of another kind. -/
def expand {Q' : Type} {R' : Q' → Type} (settle : (q : Q) → Dialogue Q' R' (R q)) :
    Dialogue Q R α → Dialogue Q' R' α
  | done a => done a
  | ask q resume => (settle q).bind fun r => (resume r).expand settle

end Dialogue

end ContractLaunch
