import ContractLaunch.Proofs.Daemon.Answer
/-!
Commands without their inputs. Two programs that give the same commands once the inputs are left out
cannot be told apart by a daemon that goes by arguments: they end alike, and so do the commands.
-/
namespace ContractLaunch

open Dialogue

namespace Invocation

/-- An invocation without its input. -/
def blinded (i : Invocation) : Invocation := { i with input := "" }

def spoken (i : Invocation) : String × List Argument := (i.program, i.arguments)

end Invocation

def CommandExchange.blinded (x : CommandExchange) : CommandExchange := ⟨x.1.blinded, x.2⟩

/-- Answers that depend on nothing but the arguments that were given so far. -/
def hearing (answer : List (String × List Argument) → Outcome) :
    Respondent Invocation fun _ => Outcome :=
  fun past i => answer (past.map (·.1.spoken) ++ [i.spoken])

namespace Commands

variable {α β : Type}

def blinded : Commands α → Commands α
  | .done a => .done a
  | .ask i resume => .ask i.blinded fun outcome => blinded (resume outcome)

theorem blinded_bind (d : Commands α) (next : α → Commands β) :
    blinded (d >>= next) = blinded d >>= fun a => blinded (next a) := by
  simp only [bind_eq]
  induction d with
  | done a => rfl
  | ask i resume ih => exact congrArg (Dialogue.ask _) (funext ih)

theorem blinded_run (answer : List (String × List Argument) → Outcome) (d : Commands α)
    (past : List CommandExchange) :
    (blinded d).run (hearing answer) (past.map CommandExchange.blinded) =
      ((d.run (hearing answer) past).1,
        (d.run (hearing answer) past).2.map CommandExchange.blinded) := by
  induction d generalizing past with
  | done a => rfl
  | ask i resume ih =>
    have heard : hearing answer (past.map CommandExchange.blinded) i.blinded =
        hearing answer past i := by
      unfold hearing
      rw [List.map_map]
      rfl
    have grown : past.map CommandExchange.blinded ++ [⟨i.blinded, hearing answer past i⟩] =
        (past ++ [(⟨i, hearing answer past i⟩ : CommandExchange)]).map CommandExchange.blinded := by
      rw [List.map_append]
      rfl
    rw [blinded, Dialogue.run, heard, grown]
    exact ih _ _

/-- The programs differ in nothing but the inputs of their commands. -/
def Alike (d e : Commands α) : Prop := blinded d = blinded e

theorem Alike.refl (d : Commands α) : Alike d d := rfl

theorem Alike.bind {d e : Commands α} {next other : α → Commands β} (alike : Alike d e)
    (onward : ∀ a, Alike (next a) (other a)) : Alike (d >>= next) (e >>= other) := by
  unfold Alike at *
  rw [blinded_bind, blinded_bind, alike]
  exact congrArg _ (funext onward)

/-- A daemon that goes by arguments makes the same of programs that are alike. -/
theorem Alike.run {d e : Commands α} (alike : Alike d e)
    (answer : List (String × List Argument) → Outcome) :
    (d.run (hearing answer) []).1 = (e.run (hearing answer) []).1 ∧
      (d.run (hearing answer) []).2.map CommandExchange.blinded =
        (e.run (hearing answer) []).2.map CommandExchange.blinded := by
  have first := blinded_run answer d []
  have second := blinded_run answer e []
  rw [alike] at first
  exact Prod.mk.inj (first.symm.trans second)

end Commands

theorem Invocation.blinded_run (i : Invocation) : Commands.blinded i.run = i.blinded.run := by
  have clean : i.blinded.hasNul = i.hasNul := rfl
  unfold Invocation.run
  rw [clean]
  split <;> rfl

theorem Invocation.run_alike {i j : Invocation} (same : i.blinded = j.blinded) :
    Commands.Alike i.run j.run := by
  unfold Commands.Alike
  rw [i.blinded_run, j.blinded_run, same]

theorem Daemon.runWithInput_alike (d : Daemon) (arguments : List String) (input other : String) :
    Commands.Alike (d.runWithInput arguments input) (d.runWithInput arguments other) :=
  Invocation.run_alike rfl

end ContractLaunch
