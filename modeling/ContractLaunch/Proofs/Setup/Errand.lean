import ContractLaunch.Daemon.Keyring
import ContractLaunch.Proofs.Daemon.Broadcast
import Mathlib.Data.List.Chain
/-!
The errands of a setup. The first arguments of a command tell what it is for, and its answer tells
whether another command may follow. A sequence of commands follows a plan when it is a beginning of
the plan and each command in it was led to by the answer to the one before; sequences that complete
their plans can be put together.
-/
namespace ContractLaunch

open Dialogue

inductive Errand where
  | deleteKey (entry : String)
  | addKey (entry : String)
  | showKey (entry : String)
  | store
  | instantiate
  | lookup (hash : String)
  deriving DecidableEq

/-- What a command is for, by its first three arguments. -/
def Invocation.errand? (i : Invocation) : Option Errand :=
  match i.arguments.take 3 with
  | [.text "keys", .text "delete", .text entry] => some (.deleteKey entry)
  | [.text "keys", .text "add", .text entry] => some (.addKey entry)
  | [.text "keys", .text "show", .text entry] => some (.showKey entry)
  | [.text "tx", .text "wasm", .text "store"] => some .store
  | [.text "tx", .text "wasm", .text "instantiate"] => some .instantiate
  | [.text "query", .text "tx", .text hash] => some (.lookup hash)
  | _ => none

def TxResponse.storedCode? (r : TxResponse) : Option CodeId :=
  (r.attributeOf? "store_code" "code_id").bind CodeId.read?

namespace Errand

/-- Whether an answer is good enough for the next errand of a setup. -/
def Accepted (x : CommandExchange) : Prop :=
  match x.1.errand? with
  | some (.deleteKey _) => True
  | some (.addKey _) | some (.showKey _) => x.2.printed?.isSome = true
  | some .store | some .instantiate => ∃ r, x.2.response? = some r ∧ r.code = 0
  | some (.lookup _) =>
    ∃ r, x.2.response? = some r ∧ r.code = 0 ∧ r.storedCode?.isSome = true
  | none => False

/-- Whether one command leads to another. A transaction that the node has taken is looked for by its
own hash, and looked for again only while it is in no block. -/
def Leads (x y : CommandExchange) : Prop :=
  match y.1.errand?, x.1.errand? with
  | some (.lookup _), some (.lookup _) => x.2.isPending = true
  | some (.lookup hash), _ => ∃ r, x.2.response? = some r ∧ r.code = 0 ∧ r.hash = hash
  | _, _ => Accepted x

def ofCommands (made : List CommandExchange) : List (Option Errand) := made.map (·.1.errand?)

/-- The commands are a beginning of a plan, each led to by the one before. -/
structure Follows (plan : List Errand) (made : List CommandExchange) : Prop where
  planned : ofCommands made <+: plan.map some
  led : made.IsChain Leads

/-- The commands are a whole plan, and their last answer was accepted as well. -/
structure Completes (plan : List Errand) (made : List CommandExchange) : Prop where
  done : ofCommands made = plan.map some
  led : made.IsChain Leads
  accepted : ∀ x ∈ made.getLast?, Accepted x

def isLookup : Errand → Bool
  | .lookup _ => true
  | _ => false

variable {plan more : List Errand} {made rest : List CommandExchange}

theorem ofCommands_append : ofCommands (made ++ rest) = ofCommands made ++ ofCommands rest :=
  List.map_append

theorem Follows.nil : Follows plan [] := ⟨List.nil_prefix, List.isChain_nil⟩

theorem Follows.extend (follows : Follows plan made) (more : List Errand) :
    Follows (plan ++ more) made := by
  refine ⟨follows.planned.trans ?_, follows.led⟩
  rw [List.map_append]
  exact List.prefix_append _ _

theorem Completes.follows (completes : Completes plan made) : Follows plan made :=
  ⟨completes.done ▸ List.prefix_rfl, completes.led⟩

theorem leads_of_accepted {x y : CommandExchange} {e : Errand} (accepted : Accepted x)
    (errand : y.1.errand? = some e) (fresh : e.isLookup = false) : Leads x y := by
  unfold Leads
  rw [errand]
  cases e with
  | lookup hash => contradiction
  | deleteKey | addKey | showKey | store | instantiate => exact accepted

theorem Completes.joined (first : Completes plan made) (second : Follows more rest)
    (fresh : ∀ e ∈ more.head?, e.isLookup = false) : (made ++ rest).IsChain Leads := by
  refine List.isChain_append.mpr ⟨first.led, second.led, ?_⟩
  intro x last y next
  have planned := second.planned
  cases rest with
  | nil => simp at next
  | cons z others =>
    obtain rfl := Option.some.inj next
    cases more with
    | nil => simp [ofCommands] at planned
    | cons e further =>
      have errand : z.1.errand? = some e := by
        simpa using (List.cons_prefix_cons.mp planned).1
      exact leads_of_accepted (first.accepted x last) errand (fresh e rfl)

theorem Completes.append_follows (first : Completes plan made) (second : Follows more rest)
    (fresh : ∀ e ∈ more.head?, e.isLookup = false) : Follows (plan ++ more) (made ++ rest) := by
  refine ⟨?_, first.joined second fresh⟩
  have planned := second.planned
  rw [ofCommands_append, List.map_append, first.done]
  exact (List.prefix_append_right_inj _).mpr planned

theorem Completes.append (first : Completes plan made) (second : Completes more rest)
    (fresh : ∀ e ∈ more.head?, e.isLookup = false) (some : more ≠ []) :
    Completes (plan ++ more) (made ++ rest) := by
  have made_some : rest ≠ [] := by
    intro same
    subst same
    exact some (List.map_eq_nil_iff.mp second.done.symm)
  refine ⟨?_, first.joined second.follows fresh, ?_⟩
  · rw [ofCommands_append, List.map_append, first.done, second.done]
  · rw [List.getLast?_append_of_ne_nil _ made_some]
    exact second.accepted

end Errand

end ContractLaunch
