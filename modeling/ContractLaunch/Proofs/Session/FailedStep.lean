import ContractLaunch.Proofs.Session.Execution
import ContractLaunch.Proofs.Session.Plan
/-!
The step that a fault names. A task ends with the first answer that it cannot use, so its fault is
about the last call that it made; the fault of a task that made no call is the fee of an upload.
-/
namespace ContractLaunch

open Dialogue

def ClientCall.step : ClientCall → RemoteStep
  | upload .. => .storeCode
  | instantiate .. => .instantiate
  | execute .. => .execute
  | query .. => .query

theorem ClientFault.kind_ne_contractRejected (cause : ClientFault) : cause.kind ≠ .contractRejected := by
  cases cause <;> simp [kind]

namespace Session

def usable {α : Type} : Except DeployFault α → Except DeployFault Unit := Except.map fun _ => ()

/-- Whether the answer to a call can be used, or else the fault that it amounts to. -/
def verdict : CallExchange → Except DeployFault Unit
  | ⟨(_, .upload ..), reply⟩ => usable (storedFrom reply)
  | ⟨(_, .instantiate _ codeId ..), reply⟩ => usable (createdFrom codeId reply)
  | ⟨(_, .execute _ contract ..), reply⟩ => usable (reply.mapError (executeFault contract))
  | ⟨(_, .query contract _), reply⟩ => usable (reply.mapError (.queryFailure contract))

variable {α β : Type} {s : Session} {made : List CallExchange} {x : CallExchange} {fault : DeployFault}

theorem usable_map (f : α → β) (e : Except DeployFault α) : usable (e.map f) = usable e := by
  cases e <;> simp [usable, Except.map]

theorem usable_eq_error_iff {e : Except DeployFault α} : usable e = .error fault ↔ e = .error fault := by
  cases e <;> simp [usable, Except.map]

/-- The calls of a task from its start to its end: none without a fee, or all but the last were answered
with something to go on with, and the last answer decides the result. -/
inductive Ended {α : Type} : List CallExchange → Except DeployFault α → Prop
  | unpaid (fault : FeeFault) : Ended [] (.error (.fee fault))
  | decided (before last result) (usables : ∀ x ∈ before, verdict x = .ok ())
      (deciding : verdict last = usable result) : Ended (before ++ [last]) result

theorem ended_last {x : Role × ClientCall} {judge : x.2.Reply → Except DeployFault α}
    {result : Except DeployFault α}
    (transcript : Transcript (.ask x fun reply => .done (judge reply) : Plan _) made result)
    (judges : ∀ reply, verdict ⟨x, reply⟩ = usable (judge reply)) : Ended made result := by
  obtain ⟨reply, rfl, rfl⟩ := Task.transcript_last.mp transcript
  exact .decided [] ⟨x, reply⟩ _ nofun (judges reply)

theorem ended_paying {next : Fee → Plan (Except DeployFault α)} {paid : Except FeeFault Fee}
    {result : Except DeployFault α} (transcript : Transcript (Task.paying next paid) made result)
    (onward : ∀ fee, Transcript (next fee) made result → Ended made result) : Ended made result := by
  cases paid with
  | error fault =>
    obtain ⟨rfl, rfl⟩ := transcript_done.mp transcript
    exact .unpaid fault
  | ok fee => exact onward fee transcript

theorem Task.ended {task : Task} {result : Except DeployFault TaskResult}
    (transcript : Transcript (task.plan s) made result) : Ended made result := by
  cases task with
  | storeCode bytecode =>
    apply ended_paying transcript
    intro fee uploading
    apply ended_last uploading
    simp [verdict, usable_map]
  | deploy bytecode message =>
    apply ended_paying transcript
    intro fee uploading
    obtain ⟨reply, rest, rfl, judged⟩ := transcript_ask.mp uploading
    cases outcome : storedFrom reply with
    | error fault =>
      rw [outcome] at judged
      obtain ⟨rfl, rfl⟩ := transcript_done.mp judged
      apply Ended.decided [] _ _ nofun
      simp [verdict, outcome, usable, Except.map]
    | ok stored =>
      rw [outcome] at judged
      obtain ⟨created, rfl, rfl⟩ := transcript_last.mp judged
      apply Ended.decided [_]
      · simp [verdict, outcome, usable, Except.map]
      · simp [verdict, usable_map]
  | instantiate | resume | execute | query =>
    apply ended_last transcript
    simp [verdict, usable_map]

/-- A fault names a call by its answer: the step, and of a client's fault the kind and the cause unless
the contract has rejected the message. -/
structure Names (fault : DeployFault) (x : CallExchange) : Prop where
  step : fault.step? = some x.1.2.step
  rejection : ∀ cause, x.2 = .error cause →
    (fault.kind = .contractRejected ↔ x.1.2.step = .execute ∧ ∃ log, cause.IsVerdict log)
  kind : ∀ cause, x.2 = .error cause → fault.kind ≠ .contractRejected → fault.kind = cause.kind
  cause : ∀ cause, x.2 = .error cause →
    (fault.clientFault? = some cause ↔ fault.kind ≠ .contractRejected)
  invalid : ∀ answer, x.2 = .ok answer → ∃ detail, fault = .invalidResponse x.1.2.step detail

variable {role : Role} {c : ClientCall} {cause : ClientFault} {contract log : String}

theorem names_invalid (c : ClientCall) (answer : c.Answer) (detail : String) :
    Names (.invalidResponse c.step detail) ⟨(role, c), .ok answer⟩ where
  step := rfl
  rejection _ refused := nomatch refused
  kind _ refused := nomatch refused
  cause _ refused := nomatch refused
  invalid _ _ := ⟨detail, rfl⟩

theorem names_cause (step : fault.step? = some c.step)
    (kind : fault.kind = cause.kind) (kept : fault.clientFault? = some cause)
    (undecided : c.step = .execute → ∀ log, ¬ cause.IsVerdict log) : Names fault ⟨(role, c), .error cause⟩ where
  step := step
  rejection other same := by
    obtain rfl := Except.error.inj same
    simp only [kind, cause.kind_ne_contractRejected, false_iff, not_and]
    intro execution given
    obtain ⟨log, verdict⟩ := given
    exact undecided execution log verdict
  kind other same _ := by
    obtain rfl := Except.error.inj same
    exact kind
  cause other same := by
    obtain rfl := Except.error.inj same
    simp [kept, kind, cause.kind_ne_contractRejected]
  invalid _ answered := nomatch answered

theorem names_rejection (execution : c.step = .execute) (rejection : cause.IsVerdict log) :
    Names (.contractRejected contract log) ⟨(role, c), .error cause⟩ where
  step := by rw [execution, DeployFault.step?]
  rejection other same := by
    obtain rfl := Except.error.inj same
    simp only [DeployFault.kind, true_iff]
    exact ⟨execution, log, rejection⟩
  kind _ _ other := absurd rfl other
  cause _ _ := by simp [DeployFault.kind, DeployFault.clientFault?]
  invalid _ answered := nomatch answered

theorem names_of_verdict (refused : verdict x = .error fault) : Names fault x := by
  obtain ⟨⟨role, call⟩, reply⟩ := x
  cases call with
  | upload sender bytecode fee memo =>
    have failed := usable_eq_error_iff.mp refused
    cases reply with
    | error cause =>
      obtain rfl := Except.error.inj failed
      exact names_cause rfl rfl rfl nofun
    | ok response =>
      obtain ⟨detail, rfl⟩ := StoreResponse.fault_of_validate failed
      exact names_invalid (.upload sender bytecode fee memo) response detail
  | instantiate sender codeId message label fee =>
    obtain ⟨cause, rfl, rfl⟩ | ⟨response, rfl, rfl⟩ := createdFrom_error (usable_eq_error_iff.mp refused)
    · exact names_cause rfl rfl rfl nofun
    · exact names_invalid (.instantiate sender codeId message label fee) response _
  | execute sender contract message fee memo coins =>
    have failed := usable_eq_error_iff.mp refused
    cases reply with
    | ok receipt => contradiction
    | error cause =>
      obtain rfl : executeFault contract cause = fault := Except.error.inj failed
      by_cases decided : ∃ log, cause.IsVerdict log
      · obtain ⟨log, rejection⟩ := decided
        rw [executeFault_of_verdict rejection]
        exact names_rejection rfl rejection
      · have undecided := not_exists.mp decided
        rw [executeFault_of_undecided undecided]
        exact names_cause rfl rfl rfl fun _ => undecided
  | query contract message =>
    have failed := usable_eq_error_iff.mp refused
    cases reply with
    | ok payload => contradiction
    | error cause =>
      obtain rfl := Except.error.inj failed
      exact names_cause rfl rfl rfl nofun

theorem Ended.of_error (ended : Ended made (.error fault : Except DeployFault α)) :
    (made = [] ∧ ∃ unpaid, fault = .fee unpaid) ∨
      ∃ before last, made = before ++ [last] ∧ verdict last = .error fault ∧
        ∀ x ∈ before, verdict x = .ok () := by
  generalize same : (.error fault : Except DeployFault α) = result at ended
  cases ended with
  | unpaid unpaid =>
    left
    exact ⟨rfl, unpaid, Except.error.inj same⟩
  | decided before last _ usables deciding =>
    right
    subst same
    exact ⟨before, last, rfl, deciding, usables⟩

/-- A task that fails names the step of its last call, with what the answer to that call says of the
fault, and it names no step exactly if it made no call. The first answer that it cannot use ends it. -/
theorem failed_step_named (s : Session) (task : Task) (client : Respondent Act Act.Reply)
    (fault : DeployFault) (failed : ((task.attempt s).run.run client []).1 = .error fault) :
    let calls := callsIn ((task.attempt s).run.run client []).2
    (fault.step? = none ↔ calls = []) ∧
    (∀ x, calls.getLast? = some x → verdict x = .error fault ∧ Names fault x) ∧
    ∀ before x after, calls = before ++ x :: after → verdict x ≠ .ok () → after = [] := by
  intro calls
  have ran : Transcript (task.plan s).program ((task.attempt s).run.run client []).2 (.error fault) := by
    rw [← failed, ← Task.attempt_run]
    exact transcript_of_run client (task.attempt s).run
  have ended : Ended calls (.error fault) := Task.ended (Plan.transcript_callsIn ran)
  rcases ended.of_error with ⟨none, unpaid, rfl⟩ | ⟨before, last, split, deciding, usables⟩
  · rw [none]
    exact ⟨by simp [DeployFault.step?], nofun, by simp⟩
  · have named := names_of_verdict deciding
    rw [split]
    refine ⟨by simp [named.step], ?_, ?_⟩
    · intro x isLast
      rw [List.getLast?_concat] at isLast
      obtain rfl := Option.some.inj isLast
      exact ⟨deciding, named⟩
    · intro early x after same unusable
      rcases List.eq_nil_or_concat after with none | ⟨front, y, later⟩
      · exact none
      · have regrouped : before ++ [last] = (early ++ x :: front) ++ [y] := by
          simpa [later] using same
        obtain rfl := List.append_inj_left' regrouped rfl
        have usable := usables x (by simp)
        contradiction

theorem nameless_attempt :
    ((Task.deploy [0] .null).attempt crossingSession).run.run namelessClient [] =
      (.error (.invalidResponse .instantiate "no contract address in response"),
        locked .deployer (uploadOf crossingSession crossingFee [0]) (.ok namelessStored) ++
          locked .deployer (instantiationOf crossingSession .null ⟨42, by decide⟩)
            (.ok ⟨"H2", none, 250000, 190000⟩)) := by
  rfl

theorem failed_step_named_nameless :
    let ran := ((Task.deploy [0] .null).attempt crossingSession).run.run namelessClient []
    let fault := DeployFault.invalidResponse .instantiate "no contract address in response"
    let creation : CallExchange := ⟨(.deployer, instantiationOf crossingSession .null ⟨42, by decide⟩),
      .ok ⟨"H2", none, 250000, 190000⟩⟩
    ran.1 = .error fault ∧
    (callsIn ran.2).map (·.1.2.step) = [.storeCode, .instantiate] ∧
    (callsIn ran.2).getLast? = some creation ∧ verdict creation = .error fault ∧ Names fault creation := by
  intro ran fault creation
  have failed : ran.1 = .error fault := congrArg Prod.fst nameless_attempt
  have isLast : (callsIn ran.2).getLast? = some creation := by
    rw [show ran = _ from nameless_attempt]
    rfl
  have steps : (callsIn ran.2).map (·.1.2.step) = [.storeCode, .instantiate] := by
    rw [show ran = _ from nameless_attempt]
    rfl
  obtain ⟨-, named, -⟩ := failed_step_named crossingSession _ namelessClient fault failed
  obtain ⟨deciding, names⟩ := named creation isLast
  exact ⟨failed, steps, isLast, deciding, names⟩

end Session
end ContractLaunch
