import ContractLaunch.Proofs.Session.Deploys
/-!
What a failed deployment tells about the code that it has stored. Once the upload was accepted, only
the instantiation can still fail, in one of two ways: the client answers it with a fault, which is
reported with the code id, or with a response that names no contract, which is reported without it.
-/
namespace ContractLaunch

open Dialogue

namespace Report

def resumeHint (codeId : CodeId) : String :=
  "  Code " ++ toString codeId ++ " is already on chain. Set `resume_code_id = " ++
    toString codeId ++ "` to retry instantiation without uploading again."

variable {fault : DeployFault} {codeId : CodeId}

theorem resumeHint_mem (named : fault.storedCodeId? = some codeId) :
    resumeHint codeId ∈ hints fault := by
  simp [hints, named, resumeHint]

theorem resumeHint_not_mem (silent : fault.storedCodeId? = none) : resumeHint codeId ∉ hints fault := by
  -- The other hints speak of the chain and of the transaction, from their third character on.
  have start : (resumeHint codeId).toList.take 3 = "  C".toList := by simp [resumeHint]
  intro inside
  have other : (resumeHint codeId).toList.take 3 = "  T".toList := by
    simp only [hints, silent, List.nil_append, List.mem_append] at inside
    rcases inside with refused | pending
    · split at refused
      · rw [List.mem_singleton.mp refused]
        rfl
      · cases refused
    · split at pending
      · rw [List.mem_singleton.mp pending]
        rfl
      · cases pending
  rw [start] at other
  revert other
  decide

end Report

namespace Session

/-- The exchanges of a signed call, with the lock around it. -/
def locked (role : Role) (c : ClientCall) (reply : c.Reply) : List (Exchange Act Act.Reply) :=
  [⟨.acquire role, ()⟩, ⟨.call role c, reply⟩, ⟨.release role, ()⟩]

section Course

variable {s : Session} {bytecode : Bytes} {message : Json} {made : List (Exchange Act Act.Reply)}
  {result : Except DeployFault Deployment}

/-- The ways in which a deployment goes: the exchanges that it makes, and its result. -/
inductive DeployCourse (s : Session) (bytecode : Bytes) (message : Json) :
    List (Exchange Act Act.Reply) → Except DeployFault Deployment → Prop
  | unpaid (fault) (unpaid : Fee.compute Fee.uploadGasLimit s.gasPrice = .error fault) :
      DeployCourse s bytecode message [] (.error (.fee fault))
  | unstored (fee reply fault) (paid : Fee.compute Fee.uploadGasLimit s.gasPrice = .ok fee)
      (refused : storedFrom reply = .error fault) :
      DeployCourse s bytecode message (locked .deployer (uploadOf s fee bytecode) reply) (.error fault)
  | stored (fee reply stored created)
      (paid : Fee.compute Fee.uploadGasLimit s.gasPrice = .ok fee)
      (accepted : storedFrom reply = .ok stored) :
      DeployCourse s bytecode message
        (locked .deployer (uploadOf s fee bytecode) reply ++
          locked .deployer (instantiationOf s message stored.codeId) created)
        ((createdFrom stored.codeId created).map fun contract => ⟨some stored, contract⟩)

theorem deployCourse (ran : Transcript (s.deploy bytecode message).run made result) :
    DeployCourse s bytecode message made result := by
  cases paid : Fee.compute Fee.uploadGasLimit s.gasPrice with
  | error fault =>
    have unpaid : (s.deploy bytecode message).run = .done (.error (.fee fault)) := by
      unfold deploy storeCode
      rw [paid]
      rfl
    rw [unpaid] at ran
    obtain ⟨rfl, rfl⟩ := transcript_done.mp ran
    exact .unpaid fault paid
  | ok fee =>
    rw [deploy_run paid] at ran
    obtain ⟨⟨⟩, _, rfl, upload⟩ := transcript_ask.mp ran
    obtain ⟨reply, _, rfl, uploaded⟩ := transcript_ask.mp upload
    obtain ⟨⟨⟩, _, rfl, judged⟩ := transcript_ask.mp uploaded
    cases outcome : storedFrom reply with
    | error fault =>
      rw [outcome] at judged
      obtain ⟨rfl, rfl⟩ := transcript_done.mp judged
      exact .unstored fee reply fault paid outcome
    | ok stored =>
      rw [outcome] at judged
      obtain ⟨⟨⟩, _, rfl, creation⟩ := transcript_ask.mp judged
      obtain ⟨created, _, rfl, instantiated⟩ := transcript_ask.mp creation
      obtain ⟨⟨⟩, _, rfl, finished⟩ := transcript_ask.mp instantiated
      obtain ⟨rfl, rfl⟩ := transcript_done.mp finished
      exact .stored fee reply stored created paid outcome

theorem createdFrom_error {codeId : CodeId} {reply : Except ClientFault InstantiateResponse}
    {fault : DeployFault} (failed : createdFrom codeId reply = .error fault) :
    (∃ cause, reply = .error cause ∧ fault = .instantiateFailure codeId cause) ∨
      ∃ response, reply = .ok response ∧
        fault = .invalidResponse .instantiate "no contract address in response" := by
  cases reply with
  | error cause => exact .inl ⟨cause, rfl, (Except.error.inj failed).symm⟩
  | ok response => exact .inr ⟨response, rfl, InstantiateResponse.fault_of_validate failed⟩

theorem instantiation_of_failed {fee : Fee} {response : StoreResponse} {stored : StoredCode}
    {fault : DeployFault} (course : DeployCourse s bytecode message made (.error fault))
    (uploaded : ⟨.call .deployer (uploadOf s fee bytecode), .ok response⟩ ∈ made)
    (accepted : response.validate = .ok stored) :
    ∃ reply, createdFrom stored.codeId reply = .error fault ∧
      ∀ other, ⟨.call .deployer (instantiationOf s message stored.codeId), other⟩ ∈ made ↔
        other = reply := by
  generalize ended : Except.error fault = result at course
  cases course with
  | unpaid => cases uploaded
  | unstored paidFee reply refusal paid refused =>
    obtain ⟨rfl, same⟩ : fee = paidFee ∧ Except.ok response = reply := by
      simpa [locked] using uploaded
    subst same
    have judged : response.validate = .error refusal := refused
    rw [accepted] at judged
    contradiction
  | stored paidFee reply code created paid judged =>
    obtain ⟨rfl, same⟩ : fee = paidFee ∧ Except.ok response = reply := by
      simpa [locked] using uploaded
    subst same
    have validated : response.validate = .ok code := judged
    rw [accepted] at validated
    obtain rfl := Except.ok.inj validated
    refine ⟨created, ?_, ?_⟩
    · cases outcome : createdFrom stored.codeId created with
      | error cause =>
        rw [outcome] at ended
        obtain rfl : fault = cause := Except.error.inj ended
        rfl
      | ok contract =>
        rw [outcome] at ended
        contradiction
    · intro other
      simp [locked]

end Course

/-- A deployment that failed after its upload was accepted names the stored code, in its fault and in
the hints of its report, exactly if the client answered the instantiation with a fault. After a
response without a usable address, the stored code is not told. -/
theorem stored_code_named_iff (s : Session) (bytecode : Bytes) (message : Json)
    (client : Respondent Act Act.Reply) (fee : Fee) (response : StoreResponse) (stored : StoredCode)
    (fault : DeployFault)
    (uploaded : ⟨.call .deployer (uploadOf s fee bytecode), .ok response⟩ ∈
      ((s.deploy bytecode message).run.run client []).2)
    (accepted : response.validate = .ok stored)
    (failed : ((s.deploy bytecode message).run.run client []).1 = .error fault) :
    let refused := ∃ cause, ⟨.call .deployer (instantiationOf s message stored.codeId), .error cause⟩ ∈
      ((s.deploy bytecode message).run.run client []).2
    (fault.storedCodeId? = some stored.codeId ↔ refused) ∧
    (Report.resumeHint stored.codeId ∈ Report.hints fault ↔ refused) ∧
    (¬ refused ↔ fault = .invalidResponse .instantiate "no contract address in response") := by
  have ran := transcript_of_run client (s.deploy bytecode message).run
  rw [failed] at ran
  obtain ⟨reply, created, answered⟩ := instantiation_of_failed (deployCourse ran) uploaded accepted
  simp only [answered]
  obtain ⟨cause, rfl, rfl⟩ | ⟨unusable, rfl, rfl⟩ := createdFrom_error created
  · have hinted : Report.resumeHint stored.codeId ∈
        Report.hints (.instantiateFailure stored.codeId cause) := Report.resumeHint_mem rfl
    simp [DeployFault.storedCodeId?, hinted]
  · have unhinted : Report.resumeHint stored.codeId ∉
        Report.hints (.invalidResponse .instantiate "no contract address in response") :=
      Report.resumeHint_not_mem rfl
    simp [DeployFault.storedCodeId?, unhinted]

def namelessStored : StoreResponse := ⟨"H1", some "42", 3000000, 2143511⟩

def namelessClient : Respondent Act Act.Reply := fun _ act =>
  match act with
  | .acquire _ | .release _ => ()
  | .call _ (.upload ..) => .ok namelessStored
  | .call _ (.instantiate ..) => .ok ⟨"H2", none, 250000, 190000⟩
  | .call _ (.execute ..) | .call _ (.query ..) => .error (.transport "not here")

def crossingFee : Fee := ⟨3000000, [⟨"utoken", ⟨75000, by decide⟩⟩]⟩

theorem namelessStored_validate :
    namelessStored.validate = .ok ⟨"H1", ⟨42, by decide⟩, 3000000, 2143511⟩ := by
  decide

theorem nameless_run :
    (crossingSession.deploy [0] .null).run.run namelessClient [] =
      (.error (.invalidResponse .instantiate "no contract address in response"),
        locked .deployer (uploadOf crossingSession crossingFee [0]) (.ok namelessStored) ++
          locked .deployer (instantiationOf crossingSession .null ⟨42, by decide⟩)
            (.ok ⟨"H2", none, 250000, 190000⟩)) := by
  rfl

theorem nameless_uploaded :
    ⟨.call .deployer (uploadOf crossingSession crossingFee [0]), .ok namelessStored⟩ ∈
      ((crossingSession.deploy [0] .null).run.run namelessClient []).2 := by
  simp [nameless_run, locked]

theorem stored_code_named_iff_nameless :
    let made := ((crossingSession.deploy [0] .null).run.run namelessClient []).2
    let fault := DeployFault.invalidResponse .instantiate "no contract address in response"
    let refused := ∃ cause, ⟨.call .deployer
      (instantiationOf crossingSession .null ⟨42, by decide⟩), .error cause⟩ ∈ made
    ⟨.call .deployer (uploadOf crossingSession crossingFee [0]), .ok namelessStored⟩ ∈ made ∧
    namelessStored.validate = .ok ⟨"H1", ⟨42, by decide⟩, 3000000, 2143511⟩ ∧
    ((crossingSession.deploy [0] .null).run.run namelessClient []).1 = .error fault ∧
    (fault.storedCodeId? = some ⟨42, by decide⟩ ↔ refused) ∧
    (Report.resumeHint ⟨42, by decide⟩ ∈ Report.hints fault ↔ refused) ∧
    (¬ refused ↔ fault = .invalidResponse .instantiate "no contract address in response") := by
  intro made fault refused
  have failed : ((crossingSession.deploy [0] .null).run.run namelessClient []).1 = .error fault := by
    rw [nameless_run]
  exact ⟨nameless_uploaded, namelessStored_validate, failed,
    stored_code_named_iff crossingSession [0] .null namelessClient crossingFee namelessStored _ fault
      nameless_uploaded namelessStored_validate failed⟩

/-- So a deployment can fail and lose the code id that its upload was answered with. -/
theorem stored_code_not_always_named :
    ¬ ∀ (s : Session) (bytecode : Bytes) (message : Json) (client : Respondent Act Act.Reply)
      (fee : Fee) (response : StoreResponse) (stored : StoredCode) (fault : DeployFault),
      ⟨.call .deployer (uploadOf s fee bytecode), .ok response⟩ ∈
        ((s.deploy bytecode message).run.run client []).2 →
      response.validate = .ok stored →
      ((s.deploy bytecode message).run.run client []).1 = .error fault →
      fault.storedCodeId? = some stored.codeId := by
  intro always
  have failed := congrArg Prod.fst nameless_run
  have named := always crossingSession [0] .null namelessClient crossingFee namelessStored _ _
    nameless_uploaded namelessStored_validate failed
  contradiction

end Session

end ContractLaunch
