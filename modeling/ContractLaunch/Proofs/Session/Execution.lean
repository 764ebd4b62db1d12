import ContractLaunch.Proofs.Daemon.Signing
import ContractLaunch.Proofs.Deploy.Verdict
import ContractLaunch.Proofs.Session.Recovery
/-!
Executes, from the session to the command line. An execute is one call of the client, with the coin
that is worth something, and its answer decides what it comes to. Through the daemon the call is one
command, which names that coin and differs in nothing else.
-/
namespace ContractLaunch

open Dialogue

namespace ClientFault

variable {codespace : Option String} {code : Option UInt32} {log : String}

theorem isSdkRejection_rejected :
    (rejected codespace code log).isSdkRejection = true ↔ codespace = some sdkCodespace := by
  cases codespace with
  | none => simp [isSdkRejection]
  | some name => simp [isSdkRejection]

/-- A contract's refusal of a message. -/
def IsVerdict (cause : ClientFault) (log : String) : Prop :=
  cause.isSdkRejection = false ∧ ∃ codespace code, cause = .rejected codespace code log

theorem isVerdict_rejected {name : String} :
    (rejected codespace code log).IsVerdict name ↔ codespace ≠ some sdkCodespace ∧ log = name := by
  rw [IsVerdict, ← Bool.not_eq_true, isSdkRejection_rejected]
  simp

end ClientFault

namespace Session

variable {contract : String} {cause : ClientFault} {log : String}

theorem executeFault_of_verdict (verdict : cause.IsVerdict log) :
    executeFault contract cause = .contractRejected contract log := by
  cases cause with
  | transport | signature => simp [ClientFault.IsVerdict] at verdict
  | rejected codespace code text =>
    obtain ⟨foreign, rfl⟩ := ClientFault.isVerdict_rejected.mp verdict
    simp [executeFault, foreign]

theorem executeFault_of_undecided (undecided : ∀ log, ¬ cause.IsVerdict log) :
    executeFault contract cause = .executeFailure contract cause := by
  cases cause with
  | transport text => rfl
  | signature text => rfl
  | rejected codespace code log =>
    have same : codespace = some ClientFault.sdkCodespace := by
      simpa [ClientFault.isVerdict_rejected] using undecided log
    simp [executeFault, same]

theorem executeFault_rejection_iff {name : String} :
    executeFault contract cause = .contractRejected name log ↔ name = contract ∧ cause.IsVerdict log := by
  constructor
  · intro rejected
    by_cases decided : ∃ text, cause.IsVerdict text
    · obtain ⟨text, verdict⟩ := decided
      rw [executeFault_of_verdict verdict] at rejected
      obtain ⟨rfl, rfl⟩ := DeployFault.contractRejected.inj rejected
      exact ⟨rfl, verdict⟩
    · rw [executeFault_of_undecided (not_exists.mp decided)] at rejected
      contradiction
  · intro given
    obtain ⟨rfl, verdict⟩ := given
    exact executeFault_of_verdict verdict

theorem executeFault_failure_iff {name : String} {other : ClientFault} :
    executeFault contract cause = .executeFailure name other ↔
      name = contract ∧ other = cause ∧ ∀ log, ¬ cause.IsVerdict log := by
  constructor
  · intro failed
    by_cases decided : ∃ log, cause.IsVerdict log
    · obtain ⟨log, verdict⟩ := decided
      rw [executeFault_of_verdict verdict] at failed
      contradiction
    · have undecided := not_exists.mp decided
      rw [executeFault_of_undecided undecided] at failed
      obtain ⟨rfl, rfl⟩ := DeployFault.executeFailure.inj failed
      exact ⟨rfl, rfl, undecided⟩
  · intro given
    obtain ⟨rfl, rfl, undecided⟩ := given
    exact executeFault_of_undecided undecided

/-- What goes with a message: the coins of the call, and the arguments of the command that name them. -/
inductive Attached : Option Coin → List Coin → List String → Prop
  | none : Attached none [] []
  | worthless (coin : Coin) (zero : coin.amount = 0) : Attached (some coin) [] []
  | worth (coin : Coin) (positive : 0 < coin.amount) :
      Attached (some coin) [coin] ["--amount", toString coin.amount.val ++ coin.denom]

theorem attachedFunds_worthless {coin : Coin} (zero : coin.amount = 0) :
    attachedFunds (some coin) = [] := by
  simp [attachedFunds, Coin.isZero, zero]

theorem attachedFunds_worth {coin : Coin} (positive : 0 < coin.amount) :
    attachedFunds (some coin) = [coin] := by
  have worth : coin.amount.val ≠ 0 := by
    apply Nat.ne_of_gt
    exact positive
  simp [attachedFunds, Coin.isZero, worth]

theorem attachedFunds_attached (funds : Option Coin) :
    Attached funds (attachedFunds funds) (NodeClient.amountFlag (attachedFunds funds)) := by
  cases funds with
  | none => exact .none
  | some coin =>
    by_cases zero : coin.amount = 0
    · rw [attachedFunds_worthless zero]
      exact .worthless coin zero
    · have positive := Fin.pos_iff_ne_zero.mpr zero
      rw [attachedFunds_worth positive]
      exact .worth coin positive

/-- What the answer to an execute comes to. -/
structure Judged (contract : String) (reply : Except ClientFault Receipt)
    (result : Except DeployFault Receipt) : Prop where
  receipt : ∀ receipt, reply = .ok receipt → result = .ok receipt
  rejection : ∀ cause, reply = .error cause → ∀ name log,
    result = .error (.contractRejected name log) ↔ name = contract ∧ cause.IsVerdict log
  failure : ∀ cause, reply = .error cause → ∀ name other,
    result = .error (.executeFailure name other) ↔
      name = contract ∧ other = cause ∧ ∀ log, ¬ cause.IsVerdict log

theorem judged_mapError (contract : String) (reply : Except ClientFault Receipt) :
    Judged contract reply (reply.mapError (executeFault contract)) where
  receipt receipt same := by rw [same, Except.mapError]
  rejection cause same name log := by
    rw [same, Except.mapError, Except.error.injEq, executeFault_rejection_iff]
  failure cause same name other := by
    rw [same, Except.mapError, Except.error.injEq, executeFault_failure_iff]

def executionOf (s : Session) (role : Role) (contract : String) (message : Json) (coins : List Coin) :
    ClientCall :=
  .execute (s.account role).address contract message .auto s.executeMemo coins

variable {s : Session} {role : Role} {message : Json} {funds : Option Coin}

theorem run_execute (client : Respondent Act Act.Reply) : ∃ reply : Except ClientFault Receipt,
    (s.execute role contract message funds).run.run client [] =
      (reply.mapError (executeFault contract),
        locked role (executionOf s role contract message (attachedFunds funds)) reply) :=
  ⟨_, rfl⟩

end Session

namespace DaemonSetup

def executeCommandWith (d : DaemonSetup) (s : Session) (role : Role) (contract : String)
    (message : Json) (coins : List String) : Invocation :=
  d.daemon.invocation ((["tx", "wasm", "execute", contract, message.compact] ++ coins ++
    NodeClient.feeFlags d.settings .auto ++ NodeClient.memoFlag s.executeMemo ++
    d.daemon.txFlags (s.account role).key).map .text)

variable {d : DaemonSetup} {s : Session} {role : Role} {contract : String} {message : Json}
  {funds : Option Coin}

theorem run_carryOut_execute (daemon : Respondent Invocation fun _ => Outcome) :
    (d.carryOut s (s.execute role contract message funds)).run daemon [] =
      (((d.clientOf (s.account role)).call (Session.executionOf s role contract message
        (Session.attachedFunds funds))).run daemon []).map
          (Except.mapError (Session.executeFault contract)) id := by
  change Dialogue.run daemon ((d.clientOf (s.account role)).call (Session.executionOf s role contract
    message (Session.attachedFunds funds)) >>= fun reply => pure (reply.mapError _)) [] = _
  exact run_bind _ _ _ _

theorem begins_execute (coins : List Coin) :
    (d.clientOf (s.account role)).BeginsWith (Session.executionOf s role contract message coins)
      (d.executeCommandWith s role contract message (NodeClient.amountFlag coins)) := by
  have signs : (Session.executionOf s role contract message coins).sender? =
      some (s.account role).address := rfl
  have holds : (d.clientOf (s.account role)).signer =
      some ⟨(s.account role).key, (s.account role).address⟩ := rfl
  exact NodeClient.call_begins signs holds rfl

end DaemonSetup

namespace Session

/-- An execute makes one call, as the account, with the message and the coin that is worth something,
and its result is what the answer comes to. Through the daemon the call begins with one command, in
which only the arguments about the coin depend on it. What is worth nothing is the same as nothing. -/
theorem execute_end_to_end (s : Session) (role : Role) (contract : String) (message : Json)
    (funds : Option Coin) :
    (∃ coins flags, Attached funds coins flags ∧
      (∀ client : Respondent Act Act.Reply, ∃ reply result,
        (s.execute role contract message funds).run.run client [] =
          (result, locked role (.execute (s.account role).address contract message .auto s.executeMemo
            coins) reply) ∧
        Judged contract reply result) ∧
      ∀ (d : DaemonSetup) (daemon : Respondent Invocation fun _ => Outcome),
        let sent := d.executeCommandWith s role contract message flags
        let ended := (d.carryOut s (s.execute role contract message funds)).run daemon []
        (∃ reply, ((d.clientOf (s.account role)).call (.execute (s.account role).address contract
              message .auto s.executeMemo coins)).run daemon [] = (reply, ended.2) ∧
          Judged contract reply ended.1) ∧
        ((sent.hasNul = true ∧ ended.2 = []) ∨ ∃ answer looks, ended.2 = ⟨sent, answer⟩ :: looks ∧
          ∀ x ∈ looks, ∃ hash, x.1 = (d.clientOf (s.account role)).lookup hash)) ∧
    (∀ denom, s.execute role contract message (some ⟨denom, 0⟩) = s.execute role contract message none) ∧
    s.execute role contract message (s.nativeFunds 0) = s.execute role contract message none := by
  refine ⟨⟨_, _, attachedFunds_attached funds, ?_, ?_⟩, ?_, ?_⟩
  · intro client
    obtain ⟨reply, ran⟩ := run_execute client
    exact ⟨reply, _, ran, judged_mapError contract reply⟩
  · intro d daemon sent ended
    have ran : ended = _ := DaemonSetup.run_carryOut_execute daemon
    have begins : (d.clientOf (s.account role)).BeginsWith _ sent :=
      DaemonSetup.begins_execute (attachedFunds funds)
    rw [ran]
    refine ⟨⟨_, rfl, judged_mapError contract _⟩, ?_⟩
    rw [Prod.map_snd]
    cases nul : sent.hasNul with
    | true =>
      rw [begins.unsent rfl nul]
      exact .inl ⟨rfl, rfl⟩
    | false =>
      obtain ⟨looks, grown, looked⟩ := begins.sent rfl nul daemon []
      exact .inr ⟨_, looks, grown, looked⟩
  · intro denom
    rw [execute, execute, attachedFunds_worthless (by simp)]
    rfl
  · rfl

end Session
end ContractLaunch
