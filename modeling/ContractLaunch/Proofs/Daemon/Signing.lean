import ContractLaunch.Proofs.Daemon.Broadcast
import ContractLaunch.Proofs.Questions
/-!
Who signs. A client that cannot sign for the sender of a call refuses it and gives no command. Any
other signed call first gives one transaction, with the key of the client in its flags; whatever it
does after that is to look for that transaction.
-/
namespace ContractLaunch

open Dialogue

def ClientCall.sender? : ClientCall → Option String
  | upload sender .. | instantiate sender .. | execute sender .. => some sender
  | query .. => none

/-- A transaction for the chain's contracts. -/
def Invocation.IsWasm (i : Invocation) : Prop := i.arguments.take 2 = [.text "tx", .text "wasm"]

namespace NodeClient

variable {client : NodeClient} {c : ClientCall} {sender : String} {signer : Signer}

theorem signingKey_ok_iff {key : KeyName} :
    client.signingKey sender = .ok key ↔ client.signer = some ⟨key, sender⟩ := by
  unfold signingKey
  split
  next none => simp [none]
  next signer holds =>
    obtain ⟨held, address⟩ := signer
    rw [holds]
    by_cases own : address = sender
    · simp [own]
    · simp [own]

/-- The arguments of the command that a call is made with. -/
def argumentsOf (client : NodeClient) (key : KeyName) : ClientCall → List Argument
  | .upload _ bytecode fee memo => client.storeArguments key (.staged bytecode) fee memo
  | .instantiate _ codeId message label fee =>
    (client.instantiateArguments key codeId message label fee).map .text
  | .execute _ contract message fee memo funds =>
    (client.executeArguments key contract message fee memo funds).map .text
  | .query contract message => (client.queryArguments contract message).map .text

def commandOf (client : NodeClient) (key : KeyName) (c : ClientCall) : Invocation :=
  client.daemon.invocation (client.argumentsOf key c)

/-- Why the command of a call cannot be made: bytecode that is to be uploaded is put into a file first. -/
def unstaged? (client : NodeClient) : ClientCall → Option ClientFault
  | .upload _ bytecode _ _ => (client.staging bytecode).map stagingFault
  | _ => none

def prepared (client : NodeClient) (c : ClientCall) (key : KeyName) :
    Except ClientFault (List Argument) :=
  match client.unstaged? c with
  | some fault => .error fault
  | none => .ok (client.argumentsOf key c)

theorem stage_eq_error {bytecode : Bytes} {reason : String}
    (failed : client.staging bytecode = some reason) :
    client.stage bytecode = .error (stagingFault reason) := by
  rw [stage, failed]

theorem stage_eq_ok {bytecode : Bytes} (clear : client.staging bytecode = none) :
    client.stage bytecode = .ok (.staged bytecode) := by
  rw [stage, clear]

theorem call_eq_signed (signs : c.sender? = some sender) :
    ∃ read : TxResponse → c.Answer, client.call c = client.signed sender (client.prepared c) read := by
  cases c with
  | upload own bytecode fee memo =>
    obtain rfl := Option.some.inj signs
    have same : (fun key => (client.stage bytecode).map (client.storeArguments key · fee memo)) =
        client.prepared (.upload own bytecode fee memo) := by
      funext key
      simp only [stage, prepared, unstaged?]
      cases client.staging bytecode <;> rfl
    exact ⟨_, congrArg (client.signed own · storeOutcome) same⟩
  | instantiate | execute =>
    obtain rfl := Option.some.inj signs
    exact ⟨_, rfl⟩
  | query => contradiction

/-- How a call goes with the command that it is made with: it is the first command, and looks follow.
The call ends without any command if this one cannot be made or cannot be given. -/
structure BeginsWith (client : NodeClient) (c : ClientCall) (i : Invocation) : Prop where
  unstaged : ∀ fault, client.unstaged? c = some fault → client.call c = .done (.error fault)
  unsent : client.unstaged? c = none → i.hasNul = true →
    client.call c = .done (.error i.nulFault.clientFault)
  sent : client.unstaged? c = none → i.hasNul = false →
    ∀ (daemon : Respondent Invocation fun _ => Outcome) (past : List CommandExchange), ∃ looks,
      ((client.call c).run daemon past).2 = past ++ ⟨i, daemon past i⟩ :: looks ∧
        ∀ x ∈ looks, ∃ hash, x.1 = client.lookup hash

theorem broadcast_unsent {arguments : List Argument}
    (nul : (client.daemon.invocation arguments).hasNul = true) :
    client.broadcast arguments =
      .done (.error (client.daemon.invocation arguments).nulFault.clientFault) := by
  rw [broadcast, Invocation.run, if_pos nul]
  rfl

theorem broadcast_sent {arguments : List Argument}
    (sendable : (client.daemon.invocation arguments).hasNul = false)
    (daemon : Respondent Invocation fun _ => Outcome) (past : List CommandExchange) :
    ∃ looks, ((client.broadcast arguments).run daemon past).2 =
        past ++ ⟨client.daemon.invocation arguments,
          daemon past (client.daemon.invocation arguments)⟩ :: looks ∧
      ∀ x ∈ looks, ∃ hash, x.1 = client.lookup hash := by
  rw [broadcast, run_bind, Invocation.run_run sendable]
  cases submitted ((daemon past (client.daemon.invocation arguments)).read _) with
  | error fault => exact ⟨[], rfl, fun x inside => absurd inside List.not_mem_nil⟩
  | ok taken =>
    obtain ⟨looks, grown, ran⟩ := run_transcript daemon
      (client.confirm taken.hash client.settings.confirmAttempts)
      (past ++ [⟨client.daemon.invocation arguments,
        daemon past (client.daemon.invocation arguments)⟩])
    refine ⟨looks, ?_, fun x inside => ⟨taken.hash, (confirm_watch ran).commands x inside⟩⟩
    rw [List.append_assoc] at grown
    exact (congrArg Prod.snd (run_bind _ _ _ _)).trans grown

theorem call_begins (signs : c.sender? = some sender) (holds : client.signer = some signer)
    (own : signer.address = sender) : client.BeginsWith c (client.commandOf signer.key c) := by
  obtain ⟨key, _⟩ := signer
  obtain rfl := own
  obtain ⟨read, same⟩ := @call_eq_signed client c _ signs
  have signing := signingKey_ok_iff.mpr holds
  have sends (staged : client.unstaged? c = none) : client.call c = do
      let response ← client.broadcast (client.argumentsOf key c)
      return response.map read := by
    have ready : client.prepared c key = .ok (client.argumentsOf key c) := by rw [prepared, staged]
    rw [same, signed, signing, Except.bind, ready]
  refine ⟨fun fault failed => ?_, fun staged nul => ?_, fun staged sendable daemon past => ?_⟩
  · have unready : client.prepared c key = .error fault := by rw [prepared, failed]
    rw [same, signed, signing, Except.bind, unready]
    rfl
  · rw [sends staged, broadcast_unsent nul]
    rfl
  · obtain ⟨looks, grown, looked⟩ := broadcast_sent sendable daemon past
    refine ⟨looks, ?_, looked⟩
    rw [sends staged]
    exact (congrArg Prod.snd (run_bind _ _ _ _)).trans grown

section Every

variable {asked : Invocation → Prop}

end Every

end NodeClient

end ContractLaunch
