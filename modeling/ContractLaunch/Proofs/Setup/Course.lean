import ContractLaunch.Proofs.Daemon.Signing
import ContractLaunch.Proofs.Deploy.Validation
import ContractLaunch.Proofs.Setup.Stages
import ContractLaunch.Setup
/-!
The course of a setup, from the keys of the two accounts to the deployment: which transactions are
sent, in what order, and what the outcome is made of.
-/
namespace ContractLaunch

open Dialogue Errand

namespace DaemonSetup

variable {d : DaemonSetup} {s : Session} {made : List CommandExchange}

theorem transcript_identify {role : Role} {act : IdentityAct}
    {result : Except DeployFault act.Answer} :
    Transcript ((Session.identify role act).run.expand d.settleIdentity) made result ↔
      ∃ reply, result = reply.mapError (.identity role) ∧
        Transcript (d.settleIdentity act) made reply := transcript_expand_reply

theorem establishAccount_follows {c : Configuration} {role : Role}
    {result : Except DeployFault Account}
    (ran : Transcript ((Session.establishAccount c role).run.expand d.settleIdentity) made result) :
    Follows (Keyring.errands role) made ∧
      ∀ account, result = .ok account → Completes (Keyring.errands role) made := by
  rcases transcript_expand_bind.mp ran with ⟨fault, rfl, missing⟩ | ⟨_, mnemonic, _, rfl, found, next⟩
  · obtain ⟨rfl, -⟩ := transcript_expand_lift.mp missing
    refine ⟨Follows.nil, ?_⟩
    intro account ok
    contradiction
  · obtain ⟨rfl, -⟩ := transcript_expand_lift.mp found
    rcases transcript_expand_bind.mp next with
      ⟨fault, rfl, failed⟩ | ⟨made, account, quiet, rfl, derived, last⟩
    · obtain ⟨reply, -, importing⟩ := transcript_identify.mp failed
      refine ⟨(Keyring.derive_follows importing).1, ?_⟩
      intro account ok
      contradiction
    · obtain ⟨reply, named, importing⟩ := transcript_identify.mp derived
      have completes : Completes (Keyring.errands role) made := by
        cases reply with
        | error fault => contradiction
        | ok found => exact (Keyring.derive_follows importing).2 found rfl
      -- A client needs no connection, so no command comes after the key.
      have connected : quiet = [] := by
        rcases transcript_expand_bind.mp last with
          ⟨fault, rfl, failed⟩ | ⟨_, _, _, rfl, connecting, ended⟩
        · obtain ⟨reply, -, connecting⟩ := transcript_identify.mp failed
          exact (transcript_pure.mp connecting).1
        · obtain ⟨reply, -, connecting⟩ := transcript_identify.mp connecting
          obtain ⟨rfl, -⟩ := transcript_pure.mp connecting
          exact (transcript_expand_pure.mp ended).1
      rw [connected, List.nil_append, List.append_nil]
      exact ⟨completes.follows, fun _ _ => completes⟩

theorem establish_follows {c : Configuration} {result : Except DeployFault Session}
    (ran : Transcript (d.establish c) made result) :
    Follows (Keyring.errands .deployer ++ Keyring.errands .tester) made ∧
      ∀ s, result = .ok s →
        Completes (Keyring.errands .deployer ++ Keyring.errands .tester) made := by
  rcases transcript_expand_bind.mp ran with
    ⟨fault, rfl, failed⟩ | ⟨first, deployer, _, rfl, deploying, next⟩
  · refine ⟨(establishAccount_follows failed).1.extend _, ?_⟩
    intro s ok
    contradiction
  · have completes := (establishAccount_follows deploying).2 deployer rfl
    rcases transcript_expand_bind.mp next with
      ⟨fault, rfl, failed⟩ | ⟨second, tester, quiet, rfl, testing, last⟩
    · refine ⟨completes.append_follows (establishAccount_follows failed).1 ?_, ?_⟩
      · intro e same
        cases same
        rfl
      · intro s ok
        contradiction
    · have both : Completes (Keyring.errands .deployer ++ Keyring.errands .tester)
          (first ++ second) := by
        refine completes.append ((establishAccount_follows testing).2 tester rfl) ?_ ?_
        · intro e same
          cases same
          rfl
        · exact List.cons_ne_nil _ _
      have priced : quiet = [] := by
        rcases transcript_expand_bind.mp last with
          ⟨fault, rfl, failed⟩ | ⟨_, _, _, rfl, pricing, ended⟩
        · exact (transcript_expand_lift.mp failed).1
        · obtain ⟨rfl, -⟩ := transcript_expand_lift.mp pricing
          exact (transcript_expand_pure.mp ended).1
      rw [priced, List.append_nil]
      exact ⟨both.follows, fun _ _ => both⟩

def storeCommand (d : DaemonSetup) (s : Session) (bytecode : Bytes) (fee : Fee) : Invocation :=
  d.daemon.invocation ((d.clientOf s.deployer).storeArguments s.deployer.key (.staged bytecode) fee
    s.uploadMemo)

def instantiateCommand (d : DaemonSetup) (s : Session) (codeId : CodeId) (message : Json) :
    Invocation :=
  d.daemon.invocation (((d.clientOf s.deployer).instantiateArguments s.deployer.key codeId message
    s.label .auto).map .text)

theorem transcript_signedOr {fault : ClientFault → DeployFault} {role : Role} {c : ClientCall}
    {result : Except DeployFault c.Answer} :
    Transcript ((Session.signedOr fault role c).run.expand (d.settleAct s)) made result ↔
      ∃ reply, result = reply.mapError fault ∧
        Transcript ((d.clientOf (s.account role)).call c) made reply := by
  change Transcript (((d.clientOf (s.account role)).call c).bind fun reply =>
    .done (reply.mapError fault)) made result ↔ _
  exact transcript_map

section Own

variable {account : Account} {α : Type} {arguments : KeyName → Except ClientFault (List Argument)}
  {read : TxResponse → α} {reply : Except ClientFault α}

theorem own_signing :
    ((d.clientOf account).signingKey account.address).bind arguments = arguments account.key := by
  have signing : (d.clientOf account).signingKey account.address = .ok account.key := if_pos rfl
  rw [signing]
  rfl

theorem own_unready {fault : ClientFault} (unready : arguments account.key = .error fault)
    (ran : Transcript ((d.clientOf account).signed account.address arguments read) made reply) :
    made = [] ∧ reply = .error fault := by
  rcases NodeClient.signed_course ran with ⟨other, missing, silent, failed⟩ | ⟨ready, _, found, -⟩
  · rw [own_signing, unready] at missing
    obtain rfl := Except.error.inj missing
    exact ⟨silent, failed⟩
  · rw [own_signing, unready] at found
    cases found

theorem own_course {ready : List Argument} (found : arguments account.key = .ok ready)
    (ran : Transcript ((d.clientOf account).signed account.address arguments read) made reply) :
    ∃ result, reply = result.map read ∧
      NodeClient.Course (d.clientOf account) (d.daemon.invocation ready) made result := by
  rcases NodeClient.signed_course ran with ⟨_, missing, -⟩ | ⟨other, result, same, mapped, course⟩
  · rw [own_signing, found] at missing
    cases missing
  · rw [own_signing, found] at same
    obtain rfl := Except.ok.inj same
    exact ⟨result, mapped, course⟩

end Own

theorem transcript_validated {γ : Type} {fault : ClientFault → DeployFault} {role : Role}
    {c : ClientCall} {validate : c.Answer → Except DeployFault γ} {result : Except DeployFault γ}
    (ran : Transcript ((Session.signedOr fault role c >>= fun response =>
      liftM (validate response)).run.expand (d.settleAct s)) made result) :
    ∃ reply, result = (reply.mapError fault).bind validate ∧
      Transcript ((d.clientOf (s.account role)).call c) made reply := by
  rcases transcript_expand_bind.mp ran with
    ⟨e, rfl, failed⟩ | ⟨first, response, _, rfl, answered, last⟩
  · obtain ⟨reply, mapped, calling⟩ := transcript_signedOr.mp failed
    refine ⟨reply, ?_, calling⟩
    rw [← mapped]
    rfl
  · obtain ⟨reply, mapped, calling⟩ := transcript_signedOr.mp answered
    obtain ⟨rfl, rfl⟩ := transcript_expand_lift.mp last
    rw [List.append_nil]
    refine ⟨reply, ?_, calling⟩
    rw [← mapped]
    rfl

/-- A fault that ends the storing of code before any command: there is no fee for it, or no file. -/
inductive Unstored (d : DaemonSetup) (bytecode : Bytes) : DeployFault → Prop
  | unpaid (fault : FeeFault) : Unstored d bytecode (.fee fault)
  | unstaged (reason : String) (failed : d.staging bytecode = some reason) :
      Unstored d bytecode (.storeFailure (NodeClient.stagingFault reason))

/-- Storing code is one broadcast, unless it ends before. -/
theorem storeCode_course {bytecode : Bytes} {result : Except DeployFault StoredCode}
    (ran : Transcript (d.carryOut s (s.storeCode bytecode)) made result) :
    (∃ fault, made = [] ∧ result = .error fault ∧ d.Unstored bytecode fault) ∨
      ∃ fee found, NodeClient.Course (d.clientOf s.deployer) (d.storeCommand s bytecode fee) made found ∧
        result = ((found.map NodeClient.storeOutcome).mapError .storeFailure).bind
          StoreResponse.validate := by
  rcases transcript_expand_bind.mp ran with ⟨fault, rfl, unpaid⟩ | ⟨_, fee, _, rfl, paid, next⟩
  · obtain ⟨rfl, refused⟩ := transcript_expand_lift.mp unpaid
    cases priced : Fee.compute Fee.uploadGasLimit s.gasPrice with
    | error cause =>
      rw [priced] at refused
      obtain rfl : fault = .fee cause := Except.error.inj refused
      exact .inl ⟨_, rfl, rfl, .unpaid cause⟩
    | ok fee =>
      rw [priced] at refused
      contradiction
  · obtain ⟨rfl, -⟩ := transcript_expand_lift.mp paid
    obtain ⟨reply, outcome, calling⟩ := transcript_validated next
    cases staged : d.staging bytecode with
    | some reason =>
      have failed : (d.clientOf s.deployer).stage bytecode =
          .error (NodeClient.stagingFault reason) := NodeClient.stage_eq_error staged
      obtain ⟨rfl, rfl⟩ := own_unready (congrArg (Except.map _) failed) calling
      exact .inl ⟨_, rfl, outcome, .unstaged reason staged⟩
    | none =>
      have placed : (d.clientOf s.deployer).stage bytecode = .ok (.staged bytecode) :=
        NodeClient.stage_eq_ok staged
      obtain ⟨found, rfl, course⟩ := own_course (congrArg (Except.map _) placed) calling
      exact .inr ⟨fee, found, course, outcome⟩

theorem instantiate_course {codeId : CodeId} {message : Json}
    {result : Except DeployFault LiveContract}
    (ran : Transcript (d.carryOut s (s.instantiate codeId message)) made result) :
    ∃ found,
      NodeClient.Course (d.clientOf s.deployer) (d.instantiateCommand s codeId message) made found ∧
      result = ((found.map NodeClient.instantiateOutcome).mapError (.instantiateFailure codeId)).bind
        InstantiateResponse.validate := by
  obtain ⟨reply, outcome, calling⟩ := transcript_validated ran
  obtain ⟨found, rfl, course⟩ := own_course rfl calling
  exact ⟨found, course, outcome⟩

theorem storeCode_ok {bytecode : Bytes} {stored : StoredCode}
    (ran : Transcript (d.carryOut s (s.storeCode bytecode)) made (.ok stored)) :
    ∃ fee included,
      NodeClient.Course (d.clientOf s.deployer) (d.storeCommand s bytecode fee) made (.ok included) ∧
      included.storedCode? = some stored.codeId := by
  rcases storeCode_course ran with ⟨fault, -, failed, -⟩ | ⟨fee, found, course, outcome⟩
  · contradiction
  · cases found with
    | error fault => contradiction
    | ok included =>
      obtain ⟨codeId, named, rfl⟩ := StoreResponse.validate_eq_ok_iff.mp outcome.symm
      exact ⟨fee, included, course, named⟩

theorem instantiate_ok {codeId : CodeId} {message : Json} {contract : LiveContract}
    (ran : Transcript (d.carryOut s (s.instantiate codeId message)) made (.ok contract)) :
    ∃ included,
      NodeClient.Course (d.clientOf s.deployer) (d.instantiateCommand s codeId message) made
        (.ok included) ∧
      ∃ raw, included.attributeOf? "instantiate" "_contract_address" = some raw ∧
        contract.address = Text.trimmed raw ∧ contract.address ≠ "" := by
  obtain ⟨found, course, outcome⟩ := instantiate_course ran
  cases found with
  | error fault => contradiction
  | ok included =>
    obtain ⟨address, trimmed, filled, rfl⟩ := InstantiateResponse.validate_eq_ok_iff.mp outcome.symm
    obtain ⟨raw, named, rfl⟩ := Option.map_eq_some_iff.mp trimmed
    exact ⟨included, course, raw, named, rfl, filled⟩

theorem deploy_split {bytecode : Bytes} {message : Json} {result : Except DeployFault Deployment}
    (ran : Transcript (d.carryOut s (s.deploy bytecode message)) made result) :
    (∃ fault, result = .error fault ∧
        Transcript (d.carryOut s (s.storeCode bytecode)) made (.error fault)) ∨
      ∃ first stored rest outcome, made = first ++ rest ∧
        Transcript (d.carryOut s (s.storeCode bytecode)) first (.ok stored) ∧
        Transcript (d.carryOut s (s.instantiate stored.codeId message)) rest outcome ∧
        result = outcome.map fun contract => ⟨some stored, contract⟩ := by
  rcases transcript_expand_bind.mp ran with ⟨fault, rfl, failed⟩ | ⟨first, stored, rest, rfl, storing, next⟩
  · exact .inl ⟨fault, rfl, failed⟩
  · refine .inr ⟨first, stored, rest, ?_⟩
    rcases transcript_expand_bind.mp next with
      ⟨fault, rfl, failed⟩ | ⟨rest, contract, _, rfl, instantiating, last⟩
    · exact ⟨.error fault, rfl, storing, failed, rfl⟩
    · obtain ⟨rfl, rfl⟩ := transcript_expand_pure.mp last
      rw [List.append_nil]
      exact ⟨.ok contract, rfl, storing, instantiating, rfl⟩

theorem resume_split {codeId : CodeId} {message : Json} {result : Except DeployFault Deployment}
    (ran : Transcript (d.carryOut s (s.resume codeId message)) made result) :
    ∃ outcome, Transcript (d.carryOut s (s.instantiate codeId message)) made outcome ∧
      result = outcome.map fun contract => ⟨none, contract⟩ := by
  rcases transcript_expand_bind.mp ran with
    ⟨fault, rfl, failed⟩ | ⟨first, contract, _, rfl, instantiating, last⟩
  · exact ⟨.error fault, failed, rfl⟩
  · obtain ⟨rfl, rfl⟩ := transcript_expand_pure.mp last
    rw [List.append_nil]
    exact ⟨.ok contract, instantiating, rfl⟩

end DaemonSetup

end ContractLaunch
