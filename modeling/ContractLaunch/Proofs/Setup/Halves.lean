import ContractLaunch.Proofs.Setup.Course
import ContractLaunch.Proofs.Setup.Success
/-!
The parts of a run, read off its commands: those for the keys, those from the upload on, and those
from the instantiation on. When the commands show that the upload was confirmed with a code id, it is
this code that the run goes on to instantiate.
-/
namespace ContractLaunch

open Dialogue Errand

namespace Errand

def isKey : Errand → Bool
  | .deleteKey _ | .addKey _ | .showKey _ => true
  | .store | .instantiate | .lookup _ => false

end Errand

section Parts

variable {before rest made : List CommandExchange} {e : Errand}

def keyCommands (made : List CommandExchange) : List CommandExchange :=
  made.filter fun x => x.1.errand?.any isKey

/-- The commands from the first one of an errand on. -/
def since (e : Errand) (made : List CommandExchange) : List CommandExchange :=
  made.dropWhile fun x => x.1.errand? != some e

def instantiations (made : List CommandExchange) : List Invocation :=
  (made.map (·.1)).filter (·.errand? = some .instantiate)

theorem mem_of_mem_keyCommands {x : CommandExchange} (inside : x ∈ keyCommands made) : x ∈ made :=
  List.mem_of_mem_filter inside

theorem mem_of_mem_since {x : CommandExchange} (inside : x ∈ since e made) : x ∈ made :=
  (List.dropWhile_sublist _).subset inside

theorem since_append (none : ∀ x ∈ before, x.1.errand? ≠ some e) :
    since e (before ++ rest) = since e rest := by
  apply List.dropWhile_append_of_pos
  intro x inside
  simpa using none x inside

theorem since_cons {x : CommandExchange} (here : x.1.errand? = some e) :
    since e (x :: rest) = x :: rest := by
  simp [since, here]

theorem keyCommands_append (keys : ∀ x ∈ before, x.1.errand?.any isKey = true)
    (others : ∀ x ∈ rest, x.1.errand?.any isKey = false) : keyCommands (before ++ rest) = before := by
  have kept : before.filter (fun x => x.1.errand?.any isKey) = before := List.filter_eq_self.mpr keys
  have dropped : rest.filter (fun x => x.1.errand?.any isKey) = [] := by
    rw [List.filter_eq_nil_iff]
    intro x inside
    simp [others x inside]
  rw [keyCommands, List.filter_append, kept, dropped, List.append_nil]

theorem instantiations_append (none : ∀ x ∈ before, x.1.errand? ≠ some .instantiate) :
    instantiations (before ++ rest) = instantiations rest := by
  have dropped : (before.map (·.1)).filter (·.errand? = some .instantiate) = [] := by
    rw [List.filter_eq_nil_iff]
    intro i inside
    obtain ⟨x, member, rfl⟩ := List.mem_map.mp inside
    simpa using none x member
  rw [instantiations, List.map_append, List.filter_append, dropped, List.nil_append]
  rfl

theorem Errand.Follows.errand_mem {plan : List Errand} (follows : Follows plan made)
    {x : CommandExchange} (inside : x ∈ made) : ∃ e ∈ plan, x.1.errand? = some e := by
  have planned : x.1.errand? ∈ plan.map some :=
    follows.planned.subset (List.mem_map_of_mem inside)
  obtain ⟨e, member, same⟩ := List.mem_map.mp planned
  exact ⟨e, member, same.symm⟩

end Parts

namespace NodeClient

variable {client : NodeClient} {sent : Invocation} {made rest after upload looks : List CommandExchange}
  {found : Except ClientFault TxResponse} {included : TxResponse}

theorem errand?_lookup (hash : String) : (client.lookup hash).errand? = some (.lookup hash) := rfl

theorem Course.errands_cases {sending : Errand} (course : Course client sent made found)
    (errand : sent.errand? = some sending) :
    ∀ x ∈ made, x.1.errand? = some sending ∨ ∃ hash, x.1.errand? = some (.lookup hash) := by
  intro x inside
  rcases course.commands with rfl | ⟨answer, hash, looks, rfl, looking⟩
  · cases inside
  · rcases List.mem_cons.mp inside with rfl | looked
    · exact .inl errand
    · refine .inr ⟨hash, ?_⟩
      rw [looking x looked, errand?_lookup]

theorem not_key_of_errand {x : CommandExchange} {sending : Errand} (other : sending.isKey = false)
    (errand : x.1.errand? = some sending ∨ ∃ hash, x.1.errand? = some (.lookup hash)) :
    x.1.errand?.any isKey = false := by
  rcases errand with sent | ⟨hash, looked⟩
  · simp [sent, other]
  · simp [looked, isKey]

theorem Course.since_append {sending : Errand} (course : Course client sent made found)
    (errand : sent.errand? = some sending) (begun : made ≠ []) :
    since sending (made ++ rest) = made ++ rest := by
  rcases course.commands with rfl | ⟨answer, hash, looks, rfl, -⟩
  · exact absurd rfl begun
  · exact since_cons errand

theorem Course.since_self {sending : Errand} (course : Course client sent made found)
    (errand : sent.errand? = some sending) : since sending made = made := by
  rcases course.commands with rfl | ⟨answer, hash, looks, rfl, -⟩
  · rfl
  · exact since_cons errand

/-- If some look has found the transaction included, it was the last look, and nothing else came of
looking. -/
theorem Watch.settled {hash : String} {attempts : Nat} {early : List CommandExchange}
    {last : CommandExchange} (watch : Watch client hash attempts looks found)
    (aligned : looks ++ rest = early ++ [last] ++ after)
    (looking : ∀ x ∈ early ++ [last], ∃ hash, x.1.errand? = some (.lookup hash))
    (response : last.2.response? = some included)
    (onward : ∀ x ∈ rest.head?, ∀ hash, x.1.errand? ≠ some (.lookup hash)) :
    found = .ok included := by
  -- What stands behind the looks is no look, so the one that found the transaction is among them.
  have reaches : ∃ more, looks = early ++ [last] ++ more := by
    rcases List.append_eq_append_iff.mp aligned with ⟨more, whole, behind⟩ | ⟨more, whole, -⟩
    · cases more with
      | nil => exact ⟨[], by simpa using whole.symm⟩
      | cons y others =>
        obtain ⟨hash, looked⟩ := looking y (by simp [whole])
        have next := onward y (by simp [behind])
        exact absurd looked (next hash)
    · exact ⟨more, whole⟩
  obtain ⟨more, rfl⟩ := reaches
  -- Only the last look of a loop is answered with more than that nothing is known yet.
  have answered := Outcome.isPending_of_response response
  generalize whole : early ++ [last] ++ more = looks at watch
  cases watch with
  | exhausted waits pending spent =>
    have unsettled := (pending last (by simp [← whole])).2
    simp [answered] at unsettled
  | unasked nul left => simp at whole
  | decided waits pending answer decisive left =>
    rcases List.eq_nil_or_concat more with rfl | ⟨others, final, rfl⟩
    · have same : last = ⟨client.lookup hash, answer⟩ := by
        simpa using congrArg List.getLast? whole
      subst same
      exact Outcome.verdict_ok_iff.mpr response
    · have whole : (early ++ [last] ++ others) ++ [final] = waits ++ [⟨client.lookup hash, answer⟩] := by
        simpa using whole
      obtain ⟨same, -⟩ := List.append_inj' whole rfl
      have unsettled := (pending last (by simp [← same])).2
      simp [answered] at unsettled

/-- If the commands show that what a broadcast sent has landed, the broadcast has found that. -/
theorem Course.settled {sending : Invocation} (course : Course client sent made found)
    (begun : made ≠ []) (aligned : made ++ rest = upload ++ after)
    (landed : Landed sending included upload)
    (onward : ∀ x ∈ rest.head?, ∀ hash, x.1.errand? ≠ some (.lookup hash)) : found = .ok included := by
  obtain ⟨answer, taken, early, last, rfl, ⟨response, zero⟩, looking, included, code⟩ := landed
  cases course with
  | unsent nul => exact absurd rfl begun
  | turnedDown sendable other fault refused =>
    obtain ⟨same, -⟩ := List.cons.inj aligned
    cases same
    rw [submitted_ok_iff.mpr ⟨response, zero⟩] at refused
    cases refused
  | watched sendable other taken' response' zero' looks found watch =>
    obtain ⟨-, aligned⟩ := List.cons.inj aligned
    have looked := watch.settled aligned (fun x inside => ⟨_, looking x inside⟩) included onward
    rw [looked]
    exact accepted_ok_iff.mpr ⟨rfl, code⟩

end NodeClient

end ContractLaunch
