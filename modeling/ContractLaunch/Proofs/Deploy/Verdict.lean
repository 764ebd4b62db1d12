import ContractLaunch.Proofs.Setup.Course
/-!
Whether a contract's verdict on a message reaches the operator as such. The text of a failed command
is searched for other marks first, and a contract writes part of that text: a message of its own that
speaks of connections or keys hides the verdict. A verdict in a transaction response is never hidden.
-/
namespace ContractLaunch

open Dialogue

namespace Failure

def isContractFailure (text : String) : Bool := contractMarks.any (mentions text.toList)

/-- Whether a text has one of the marks that are searched before those of a contract's failure. -/
def isOvershadowed (text : String) : Bool :=
  transportMarks.any (mentions text.toList) || signatureMarks.any (mentions text.toList)

variable {text : String}

theorem classify_clear (marked : isContractFailure text = true)
    (clear : isOvershadowed text = false) :
    classify text = .plainRejection (contractMessageText text) := by
  obtain ⟨reachable, signable⟩ := Bool.or_eq_false_iff.mp clear
  have contract : contractMarks.any (mentions text.toList) = true := marked
  simp only [classify, reachable, signable, contract, Bool.false_eq_true, if_false, if_true]

theorem classify_overshadowed (hidden : isOvershadowed text = true) :
    (∃ line, classify text = .transport line) ∨ ∃ line, classify text = .signature line := by
  dsimp only [classify]
  split
  · exact .inl ⟨_, rfl⟩
  next reachable =>
    have unsigned : signatureMarks.any (mentions text.toList) = true := by
      simpa [isOvershadowed, reachable] using hidden
    rw [if_pos unsigned]
    exact .inr ⟨_, rfl⟩

theorem executeFault_classify (marked : isContractFailure text = true) (contract : String) :
    Session.executeFault contract (classify text) =
      if isOvershadowed text then .executeFailure contract (classify text)
      else .contractRejected contract (contractMessageText text) := by
  cases hidden : isOvershadowed text with
  | true =>
    rcases classify_overshadowed hidden with ⟨line, classified⟩ | ⟨line, classified⟩
    · rw [classified]
      rfl
    · rw [classified]
      rfl
  | false =>
    rw [classify_clear marked hidden]
    rfl

theorem classify_eq_rejection_iff (marked : isContractFailure text = true) :
    classify text = .plainRejection (contractMessageText text) ↔ isOvershadowed text = false := by
  cases hidden : isOvershadowed text with
  | false => exact iff_of_true (classify_clear marked hidden) rfl
  | true =>
    refine iff_of_false ?_ Bool.noConfusion
    rcases classify_overshadowed hidden with ⟨line, classified⟩ | ⟨line, classified⟩
    · simp [classified, ClientFault.plainRejection]
    · simp [classified, ClientFault.plainRejection]

end Failure

theorem TxResponse.executeFault_check {r : TxResponse} (refused : r.code ≠ 0)
    (foreign : r.codespace ≠ ClientFault.sdkCodespace) :
    ∃ cause, r.check = .error cause ∧ ∀ contract, Session.executeFault contract cause =
      .contractRejected contract (Failure.contractMessageText r.rawLog) := by
  rw [check, if_neg refused]
  refine ⟨_, rfl, ?_⟩
  intro contract
  by_cases unnamed : r.codespace.isEmpty
  · simp [Session.executeFault, unnamed]
  · simp [Session.executeFault, unnamed, foreign]

namespace DaemonSetup

variable {d : DaemonSetup} {s : Session} {made : List CommandExchange} {role : Role}
  {contract : String} {message : Json} {funds : Option Coin} {result : Except DeployFault Receipt}

def executeCommand (d : DaemonSetup) (s : Session) (role : Role) (contract : String) (message : Json)
    (funds : Option Coin) : Invocation :=
  let account := s.account role
  d.daemon.invocation (((d.clientOf account).executeArguments account.key contract message .auto
    s.executeMemo (Session.attachedFunds funds)).map .text)

theorem execute_course
    (ran : Transcript (d.carryOut s (s.execute role contract message funds)) made result) :
    ∃ found, NodeClient.Course (d.clientOf (s.account role))
        (d.executeCommand s role contract message funds) made found ∧
      ∀ cause, found = .error cause → result = .error (Session.executeFault contract cause) := by
  obtain ⟨reply, mapped, calling⟩ := transcript_signedOr.mp ran
  obtain ⟨found, rfl, course⟩ := own_course rfl calling
  refine ⟨found, course, ?_⟩
  rintro cause rfl
  exact mapped

end DaemonSetup

/-- A text with the mark of a contract's failure is classified as a rejection by the contract exactly
if it has no mark of an unreachable node or an unusable key. So an execute whose command fails with
the text surfaces as a rejection by the contract only then, while a response that brings the refusal
always does. -/
theorem Failure.contract_verdict_iff (text : String) (marked : isContractFailure text = true) :
    (classify text = .plainRejection (contractMessageText text) ↔ isOvershadowed text = false) ∧
    ∀ (d : DaemonSetup) (s : Session) (role : Role) (contract : String) (message : Json)
      (funds : Option Coin) (daemon : Respondent Invocation fun _ => Outcome),
      let ended := (d.carryOut s (s.execute role contract message funds)).run daemon []
      (∀ x ∈ ended.2, x.2.failure? = some text → ended.2.head? = some x ∨ x.2.isPending = false →
        ended.1 = .error (if isOvershadowed text then .executeFailure contract (classify text)
          else .contractRejected contract (contractMessageText text))) ∧
      ∀ x ∈ ended.2, ∀ r, x.2.response? = some r → r.code ≠ 0 →
        r.codespace ≠ ClientFault.sdkCodespace →
        ended.1 = .error (.contractRejected contract (contractMessageText r.rawLog)) := by
  refine ⟨classify_eq_rejection_iff marked, ?_⟩
  intro d s role contract message funds daemon ended
  have ran := transcript_of_run daemon (d.carryOut s (s.execute role contract message funds))
  obtain ⟨found, course, surfaces⟩ := DaemonSetup.execute_course ran
  refine ⟨?_, ?_⟩
  · intro x member failed decisive
    rw [← executeFault_classify marked]
    exact surfaces _ (course.error_of_failure member failed decisive)
  · intro x member r response refused foreign
    obtain ⟨cause, judged, verdict⟩ := TxResponse.executeFault_check refused foreign
    rw [← verdict]
    exact surfaces _ (course.error_of_refusal member response judged)

section Masked

def maskedText : String :=
  "failed to execute message; message index: 0: key not found: execute wasm contract failed"

def maskedSetup : DaemonSetup where
  daemon := { program := "wasmd", node := "tcp://localhost:26657", chainId := "testing" }
  settings := ⟨"0.05utoken", 2, 0⟩
  staging _ := none

def maskedSession : Session :=
  .start ⟨.deployer, "wasm1deployer", ⟨"cwdeploy-deployer"⟩⟩
    ⟨.tester, "wasm1tester", ⟨"cwdeploy-tester"⟩⟩ ⟨⟨⟨50000000000000000, by decide⟩⟩, "utoken"⟩

def maskedAnswer : Outcome := .exited 1 [] (Utf8.encode maskedText)

def maskedRun : Except DeployFault Receipt × List CommandExchange :=
  (maskedSetup.carryOut maskedSession
    (maskedSession.execute .tester "wasm1contract" (.object []) none)).run (fun _ _ => maskedAnswer) []

theorem masked_marked : Failure.isContractFailure maskedText = true := by
  decide +kernel

theorem masked_overshadowed : Failure.isOvershadowed maskedText = true := by
  have unsigned : Failure.signatureMarks.any (Failure.mentions maskedText.toList) = true := by
    decide +kernel
  simp [Failure.isOvershadowed, unsigned]

theorem masked_failure : maskedAnswer.failure? = some maskedText := by
  decide +kernel

def maskedCommand : Invocation :=
  maskedSetup.executeCommand maskedSession .tester "wasm1contract" (.object []) none

theorem masked_made : maskedRun.2 = [⟨maskedCommand, maskedAnswer⟩] := by
  rfl

theorem contract_verdict_iff_masked :
    Failure.isContractFailure maskedText = true ∧
    (Failure.classify maskedText = .plainRejection (Failure.contractMessageText maskedText) ↔
      Failure.isOvershadowed maskedText = false) ∧
    maskedRun.2 = [⟨maskedCommand, maskedAnswer⟩] ∧ maskedAnswer.failure? = some maskedText ∧
    maskedRun.1 = .error (if Failure.isOvershadowed maskedText then
      .executeFailure "wasm1contract" (Failure.classify maskedText)
      else .contractRejected "wasm1contract" (Failure.contractMessageText maskedText)) := by
  obtain ⟨classified, surfaces⟩ := Failure.contract_verdict_iff maskedText masked_marked
  have first : ⟨maskedCommand, maskedAnswer⟩ ∈ maskedRun.2 := by simp [masked_made]
  have head : maskedRun.2.head? = some ⟨maskedCommand, maskedAnswer⟩ := by simp [masked_made]
  have outcome := (surfaces maskedSetup maskedSession .tester "wasm1contract" (.object []) none
    (fun _ _ => maskedAnswer)).1 _ first masked_failure (.inl head)
  exact ⟨masked_marked, classified, masked_made, masked_failure, outcome⟩

/-- So a contract's failure can be classified as something else. -/
theorem contract_verdict_not_always_kept :
    ¬ ∀ text, Failure.isContractFailure text = true →
      Failure.classify text = .plainRejection (Failure.contractMessageText text) := by
  intro always
  have kept := always maskedText masked_marked
  rcases Failure.classify_overshadowed masked_overshadowed with
    ⟨line, classified⟩ | ⟨line, classified⟩
  · simp [classified, ClientFault.plainRejection] at kept
  · simp [classified, ClientFault.plainRejection] at kept

end Masked

end ContractLaunch
