import ContractLaunch.Proofs.Daemon.Signing
import ContractLaunch.Proofs.Session.Recovery
import ContractLaunch.Proofs.Setup.Resumption
/-!
The warning that a transaction may still land. It is given for every fault that leaves no verdict, and
there are faults of that kind before any transaction: a key that could not be imported because its
command did not start, bytecode that could not be put into a file for its upload, and a transaction
whose own command did not start. In all other cases a transaction was under way.
-/
namespace ContractLaunch

open Dialogue Errand

namespace Report

def pendingHint : String :=
  "  The transaction may still land. Check chain state before running again."

theorem pendingHint_mem_iff {fault : DeployFault} :
    pendingHint ∈ hints fault ↔ fault.kind = .transport := by
  have resume : ∀ codeId, pendingHint ≠ resumeHint codeId := by
    intro codeId same
    have third : ∀ text, pendingHint = text → text.toList.take 3 = "  T".toList := by
      rintro _ rfl
      rfl
    have other : (resumeHint codeId).toList.take 3 = "  C".toList := by simp [resumeHint]
    rw [third _ same] at other
    revert other
    decide
  constructor
  · intro inside
    by_contra kind
    simp only [hints, if_neg kind, List.append_nil, List.mem_append] at inside
    rcases inside with resumes | refused
    · split at resumes
      · exact resume _ (List.mem_singleton.mp resumes)
      · cases resumes
    · split at refused
      · have same := List.mem_singleton.mp refused
        revert same
        decide
      · cases refused
  · intro kind
    simp [hints, kind, pendingHint]

end Report

def Outcome.isStarted : Outcome → Bool
  | .exited .. => true
  | .notStarted _ => false

theorem Outcome.isStarted_of_response {answer : Outcome} {r : TxResponse}
    (response : answer.response? = some r) : answer.isStarted = true := by
  cases answer with
  | exited => rfl
  | notStarted => contradiction

/-- One of the commands is a transaction whose program came into being. -/
def TransactionStarted (made : List CommandExchange) : Prop :=
  ∃ x ∈ made, x.1.IsWasm ∧ x.2.isStarted = true

def Quiet (made : List CommandExchange) : Prop := ∀ x ∈ made, ¬ x.1.IsWasm

/-- No transaction was started, which is the fault: there is no file with the bytecode to upload, the
transaction could not be put into a command, or its command did not start. `unfiled` tells why there is
no file, if there is none. -/
inductive Unstarted (unfiled : Option String) : List CommandExchange → ClientFault → Prop
  | unstaged (keys) (reason) (quiet : Quiet keys) (failed : unfiled = some reason) :
      Unstarted unfiled keys (NodeClient.stagingFault reason)
  | unsent (keys) (i : Invocation) (quiet : Quiet keys) (transaction : i.IsWasm) (nul : i.hasNul = true) :
      Unstarted unfiled keys i.nulFault.clientFault
  | unanswered (keys) (i : Invocation) (reason) (quiet : Quiet keys) (transaction : i.IsWasm) :
      Unstarted unfiled (keys ++ [⟨i, .notStarted reason⟩])
        (CommandFault.notStarted i.description reason).clientFault

variable {made keys rest : List CommandExchange} {cause : ClientFault} {unfiled : Option String}

theorem Quiet.not_started (quiet : Quiet made) : ¬ TransactionStarted made := by
  rintro ⟨x, inside, transaction, -⟩
  exact quiet x inside transaction

theorem Unstarted.not_started (unstarted : Unstarted unfiled made cause) :
    ¬ TransactionStarted made := by
  cases unstarted with
  | unstaged keys reason quiet failed => exact quiet.not_started
  | unsent keys i quiet transaction nul => exact quiet.not_started
  | unanswered keys i reason quiet transaction =>
    rintro ⟨x, inside, started⟩
    rcases List.mem_append.mp inside with early | last
    · exact quiet x early started.1
    · rw [List.mem_singleton.mp last] at started
      cases started.2

theorem TransactionStarted.append (first : TransactionStarted made) (rest : List CommandExchange) :
    TransactionStarted (made ++ rest) := by
  obtain ⟨x, inside, started⟩ := first
  exact ⟨x, List.mem_append_left _ inside, started⟩

theorem TransactionStarted.after (keys : List CommandExchange) (started : TransactionStarted made) :
    TransactionStarted (keys ++ made) := by
  obtain ⟨x, inside, transaction⟩ := started
  exact ⟨x, List.mem_append_right _ inside, transaction⟩

theorem Invocation.not_isWasm_of_key {i : Invocation} (key : i.errand?.any isKey = true) :
    ¬ i.IsWasm := by
  intro transaction
  have start : (i.arguments.take 3).take 2 = [.text "tx", .text "wasm"] := by
    rw [List.take_take]
    exact transaction
  unfold errand? at key
  split at key
  case h_1 three | h_2 three | h_3 three =>
    rw [three] at start
    simp at start
  all_goals contradiction

namespace NodeClient

variable {client : NodeClient} {sent : Invocation}

theorem Course.started_of_ok {included : TxResponse} (course : Course client sent made (.ok included))
    (transaction : sent.IsWasm) : TransactionStarted made := by
  obtain ⟨answer, taken, waits, last, rfl, response, -⟩ := course.landed
  exact ⟨_, List.mem_cons_self, transaction, Outcome.isStarted_of_response response⟩

/-- A broadcast that fails has started its transaction, or the fault is that it could not. -/
theorem Course.started_or_unstarted (unfiled : Option String)
    (course : Course client sent made (.error cause)) (transaction : sent.IsWasm)
    (quiet : Quiet keys) : TransactionStarted (keys ++ made) ∨ Unstarted unfiled (keys ++ made) cause := by
  generalize ended : (.error cause : Except ClientFault TxResponse) = result at course
  cases course with
  | unsent nul =>
    obtain rfl := Except.error.inj ended
    rw [List.append_nil]
    exact .inr (.unsent keys sent quiet transaction nul)
  | turnedDown sendable answer fault refused =>
    obtain rfl := Except.error.inj ended
    cases answer with
    | exited status output complaints =>
      have started : TransactionStarted [⟨sent, .exited status output complaints⟩] :=
        ⟨_, List.mem_singleton_self _, transaction, rfl⟩
      exact .inl (started.after keys)
    | notStarted reason =>
      obtain rfl := Except.error.inj refused
      exact .inr (.unanswered keys sent reason quiet transaction)
  | watched sendable answer taken response zero looks found watch =>
    have started : TransactionStarted (⟨sent, answer⟩ :: looks) :=
      ⟨_, List.mem_cons_self, transaction, Outcome.isStarted_of_response response⟩
    exact .inl (started.after keys)

end NodeClient

section Course

variable {d : DaemonSetup} {s : Session} {c : Configuration} {fault : DeployFault}

theorem DaemonSetup.establishAccount_error {role : Role}
    (ran : Transcript ((Session.establishAccount c role).run.expand d.settleIdentity) made
      (.error fault)) : (∃ cause, fault = .identity role cause) ∨ fault.kind = .config := by
  have identified {act : IdentityAct} {made : List CommandExchange} {e : DeployFault}
      (ran : Transcript ((Session.identify role act).run.expand d.settleIdentity) made (.error e)) :
      ∃ cause, e = .identity role cause := by
    obtain ⟨reply, mapped, -⟩ := transcript_identify.mp ran
    cases reply with
    | ok answer => contradiction
    | error cause => exact ⟨cause, Except.error.inj mapped⟩
  rcases transcript_expand_bind.mp ran with ⟨e, same, missing⟩ | ⟨_, mnemonic, _, rfl, -, next⟩
  · obtain rfl := Except.error.inj same
    rw [Configuration.mnemonic_error (transcript_expand_lift.mp missing).2.symm]
    exact .inr rfl
  rcases transcript_expand_bind.mp next with ⟨e, same, failed⟩ | ⟨_, account, _, rfl, -, last⟩
  · obtain rfl := Except.error.inj same
    exact .inl (identified failed)
  rcases transcript_expand_bind.mp last with ⟨e, same, failed⟩ | ⟨_, _, _, rfl, -, ended⟩
  · obtain rfl := Except.error.inj same
    exact .inl (identified failed)
  · cases (transcript_expand_pure.mp ended).2

theorem Settings.kind_of_price_error {settings : Settings} (refused : settings.price = .error fault) :
    fault.kind = .config := by
  unfold Settings.price at refused
  cases parsed : GasPrice.parse (Text.trimmed settings.gasPrice ++ settings.nativeDenom) with
  | ok price => simp [parsed, Except.mapError] at refused
  | error cause =>
    rw [parsed] at refused
    obtain rfl := Except.error.inj refused
    rfl

theorem DaemonSetup.establish_error (ran : Transcript (d.establish c) made (.error fault)) :
    (∃ role cause, fault = .identity role cause) ∨ fault.kind = .config := by
  rcases transcript_expand_bind.mp ran with ⟨e, same, failed⟩ | ⟨_, deployer, _, rfl, -, next⟩
  · obtain rfl := Except.error.inj same
    exact (establishAccount_error failed).imp_left fun found => ⟨.deployer, found⟩
  rcases transcript_expand_bind.mp next with ⟨e, same, failed⟩ | ⟨_, tester, _, rfl, -, last⟩
  · obtain rfl := Except.error.inj same
    exact (establishAccount_error failed).imp_left fun found => ⟨.tester, found⟩
  rcases transcript_expand_bind.mp last with ⟨e, same, failed⟩ | ⟨_, _, _, rfl, -, ended⟩
  · obtain rfl := Except.error.inj same
    exact .inr (Settings.kind_of_price_error (transcript_expand_lift.mp failed).2.symm)
  · cases (transcript_expand_pure.mp ended).2

/-- What a fault without a verdict says of the commands up to it: it is a remote step's, and either
its transaction could not be started or one was started. -/
structure StepFault (unfiled : Option String) (made : List CommandExchange) (fault : DeployFault) :
    Prop where
  step : fault.step?.isSome = true
  started : TransactionStarted made ∨
    ∃ cause, fault.clientFault? = some cause ∧ Unstarted unfiled made cause

theorem DaemonSetup.instantiate_transport (unfiled : Option String) {codeId : CodeId} {message : Json}
    (ran : Transcript (d.carryOut s (s.instantiate codeId message)) made (.error fault))
    (kind : fault.kind = .transport) (quiet : Quiet keys) :
    StepFault unfiled (keys ++ made) fault := by
  obtain ⟨found, course, outcome⟩ := instantiate_course ran
  cases found with
  | error cause =>
    obtain rfl : fault = .instantiateFailure codeId cause := Except.error.inj outcome
    have started := course.started_or_unstarted unfiled rfl quiet
    exact ⟨rfl, started.imp_right fun unstarted => ⟨cause, rfl, unstarted⟩⟩
  | ok included =>
    obtain rfl := InstantiateResponse.fault_of_validate outcome.symm
    cases kind

theorem DaemonSetup.storeCode_transport {bytecode : Bytes}
    (ran : Transcript (d.carryOut s (s.storeCode bytecode)) made (.error fault))
    (kind : fault.kind = .transport) (quiet : Quiet keys) :
    StepFault (d.staging bytecode) (keys ++ made) fault := by
  rcases storeCode_course ran with ⟨_, rfl, refused, unstored⟩ | ⟨fee, found, course, outcome⟩
  · obtain rfl := Except.error.inj refused
    cases unstored with
    | unpaid cause => cases kind
    | unstaged reason failed =>
      rw [List.append_nil]
      exact ⟨rfl, .inr ⟨_, rfl, .unstaged keys reason quiet failed⟩⟩
  cases found with
  | error cause =>
    obtain rfl : fault = .storeFailure cause := Except.error.inj outcome
    have started := course.started_or_unstarted (d.staging bytecode) rfl quiet
    exact ⟨rfl, started.imp_right fun unstarted => ⟨cause, rfl, unstarted⟩⟩
  | ok included =>
    obtain ⟨detail, rfl⟩ := StoreResponse.fault_of_validate outcome.symm
    cases kind

theorem DaemonSetup.attempt_transport {p : Setup.Plan}
    (ran : Transcript (p.daemon.carryOut s (Setup.attempt p s)) made (.error fault))
    (kind : fault.kind = .transport) (quiet : Quiet keys) :
    StepFault (p.source.getRight?.bind p.daemon.staging) (keys ++ made) fault := by
  unfold Setup.attempt at ran
  split at ran
  next codeId resumes =>
    obtain ⟨outcome, instantiating, result⟩ := resume_split ran
    cases outcome with
    | ok contract => cases result
    | error cause =>
      obtain rfl : fault = cause := Except.error.inj result
      exact instantiate_transport _ instantiating kind quiet
  next bytecode stores =>
    rw [stores]
    rcases deploy_split ran with
      ⟨cause, same, storing⟩ | ⟨first, _, rest, outcome, rfl, storing, instantiating, result⟩
    · obtain rfl := Except.error.inj same
      exact storeCode_transport storing kind quiet
    · cases outcome with
      | ok contract => cases result
      | error cause =>
        obtain rfl : fault = cause := Except.error.inj result
        -- Whatever became of the instantiation, the upload before it was in a block.
        obtain ⟨fee, included, course, -⟩ := storeCode_ok storing
        have stored : TransactionStarted first := course.started_of_ok rfl
        have nothing : Quiet [] := nofun
        have step := (instantiate_transport none instantiating kind nothing).step
        exact ⟨step, .inl ((stored.append rest).after keys)⟩

end Course

namespace Setup

variable {fault : DeployFault} {contexts : List String}

/-- Why the bytecode that a setup is to upload cannot be put into a file, if it cannot. -/
def unstaged? (around : Surroundings) (name : String) : Option String := do
  let p ← (plan around name).toOption
  let bytecode ← p.source.getRight?
  around.staging bytecode

theorem deploy_transport {around : Surroundings} {name : String}
    (ran : Transcript (deploy around name) made (.error ⟨contexts, .inl fault⟩))
    (kind : fault.kind = .transport) :
    (Quiet made ∧ ∃ role cause, fault = .identity role cause) ∨
      StepFault (unstaged? around name) made fault := by
  unfold deploy at ran
  split at ran
  next planning refused =>
    obtain ⟨-, same⟩ := transcript_pure.mp ran
    obtain rfl := Except.error.inj same
    obtain ⟨cause, same, early⟩ := fails_plan _ refused
    obtain rfl := Sum.inl.inj same
    cases fault with
    | config | artifact => cases kind
    | _ => cases early
  next p planned =>
    obtain ⟨keys, established, rest, rfl, establishing, next⟩ := transcript_bind.mp ran
    have quiet : Quiet keys := fun x inside =>
      Invocation.not_isWasm_of_key (establish_keys establishing x inside)
    cases established with
    | error cause =>
      obtain ⟨rfl, same⟩ := transcript_pure.mp next
      cases same
      rw [List.append_nil]
      have identity := (DaemonSetup.establish_error establishing).resolve_right (by simp [kind])
      exact .inl ⟨quiet, identity⟩
    | ok session =>
      obtain ⟨deployed, outcome, _, rfl, deploying, ended⟩ := transcript_bind.mp next
      obtain ⟨rfl, same⟩ := transcript_pure.mp ended
      cases outcome with
      | ok deployment => cases same
      | error cause =>
        cases same
        rw [List.append_nil]
        have unstaged : p.source.getRight?.bind p.daemon.staging = unstaged? around name := by
          rw [unstaged?, planned, (plan_grounded planned).staged]
          rfl
        rw [← unstaged]
        exact .inr (DaemonSetup.attempt_transport deploying kind quiet)

theorem complaints_of_fault {around : Surroundings} {arguments : List String} {name : String}
    {daemon : Respondent Invocation fun _ => Outcome} (blocked : Option String)
    (named : contractName? arguments = some name)
    (failed : ((deploy around name).run daemon []).1 = .error ⟨contexts, .inl fault⟩) :
    ((run around blocked arguments).run daemon []).1.complaints =
      (blocked.map logWarning).getD "" ++ Report.failure ⟨contexts, .inl fault⟩ := by
  unfold run
  rw [named]
  have finished := congrArg Prod.fst (run_bind daemon (deploy around name)
    (fun outcome => pure (ending blocked outcome)) [])
  rw [failed] at finished
  exact congrArg Finish.complaints finished

/-- A setup that fails reports its hints, and among them the warning that its transaction may still land
exactly if the fault leaves no verdict. Then a transaction was started, except if an account could not
be established, if the bytecode to upload could not be put into a file, or if the only transaction
could not be started. -/
theorem pending_hint_started_iff (around : Surroundings) (blocked : Option String)
    (arguments : List String) (daemon : Respondent Invocation fun _ => Outcome) (name : String)
    (contexts : List String) (fault : DeployFault)
    (named : contractName? arguments = some name)
    (failed : ((deploy around name).run daemon []).1 = .error ⟨contexts, .inl fault⟩) :
    let made := ((run around blocked arguments).run daemon []).2
    ((run around blocked arguments).run daemon []).1.complaints =
      (blocked.map logWarning).getD "" ++ Report.unlines (Report.headline fault ::
        ("  " ++ Report.chain ⟨contexts, .inl fault⟩) :: Report.hints fault) ∧
    (Report.pendingHint ∈ Report.hints fault ↔ fault.kind = .transport) ∧
    (Report.pendingHint ∈ Report.hints fault →
      (TransactionStarted made ↔
        (∀ role cause, fault ≠ .identity role cause) ∧
        ∀ cause, fault.clientFault? = some cause →
          ¬ Unstarted (unstaged? around name) made cause)) := by
  rw [run_of_name named]
  have ran := transcript_of_run daemon (deploy around name)
  rw [failed] at ran
  generalize ((deploy around name).run daemon []).2 = made at ran
  refine ⟨complaints_of_fault blocked named failed, Report.pendingHint_mem_iff, fun hinted => ?_⟩
  have kind := Report.pendingHint_mem_iff.mp hinted
  constructor
  · intro started
    refine ⟨?_, fun cause _ unstarted => unstarted.not_started started⟩
    rintro role cause rfl
    rcases deploy_transport ran kind with ⟨quiet, -⟩ | stepped
    · exact quiet.not_started started
    · cases stepped.step
  · rintro ⟨remote, sent⟩
    rcases deploy_transport ran kind with ⟨-, role, cause, identity⟩ | stepped
    · exact absurd identity (remote role cause)
    · refine stepped.started.resolve_right ?_
      rintro ⟨cause, caused, unstarted⟩
      exact sent cause caused unstarted

def absentDaemon : Respondent Invocation fun _ => Outcome := fun _ _ =>
  .notStarted "No such file or directory (os error 2)"

def absentFault : DeployFault :=
  .identity .deployer (.transport
    "failed to execute \x60wasmd keys add cwdeploy-deployer\x60: No such file or directory (os error 2)")

theorem absent_deploy :
    ((deploy ⟨campaignDisk, operatorEnvironment, fun _ => none⟩ "campaign").run absentDaemon []).1 =
      .error ⟨[], .inl absentFault⟩ := by
  rw [deploy, storing_plan]
  rfl

theorem pending_hint_started_iff_absent :
    let around : Surroundings := ⟨campaignDisk, operatorEnvironment, fun _ => none⟩
    let made := ((run around none ["campaign"]).run absentDaemon []).2
    contractName? ["campaign"] = some "campaign" ∧
    ((deploy around "campaign").run absentDaemon []).1 = .error ⟨[], .inl absentFault⟩ ∧
    Report.pendingHint ∈ Report.hints absentFault ∧
    (TransactionStarted made ↔
      (∀ role cause, absentFault ≠ .identity role cause) ∧
      ∀ cause, absentFault.clientFault? = some cause →
        ¬ Unstarted (unstaged? around "campaign") made cause) := by
  intro around made
  have named : contractName? ["campaign"] = some "campaign" := by decide
  obtain ⟨-, hinted, started⟩ := pending_hint_started_iff around none ["campaign"] absentDaemon
    "campaign" [] absentFault named absent_deploy
  have given := hinted.mpr rfl
  exact ⟨named, absent_deploy, given, started given⟩

/-- So the warning can be given where no transaction was started. -/
theorem pending_hint_not_always_started :
    ¬ ∀ (around : Surroundings) (blocked : Option String) (arguments : List String)
      (daemon : Respondent Invocation fun _ => Outcome) (name : String) (contexts : List String)
      (fault : DeployFault), contractName? arguments = some name →
      ((deploy around name).run daemon []).1 = .error ⟨contexts, .inl fault⟩ →
      Report.pendingHint ∈ Report.hints fault →
      TransactionStarted ((run around blocked arguments).run daemon []).2 := by
  intro always
  have named : contractName? ["campaign"] = some "campaign" := by decide
  have started := always ⟨campaignDisk, operatorEnvironment, fun _ => none⟩ none ["campaign"]
    absentDaemon "campaign" [] absentFault named absent_deploy (Report.pendingHint_mem_iff.mpr rfl)
  -- None of the commands of this run was started, transaction or not.
  obtain ⟨x, inside, -, program⟩ := started
  have absent := mem_run_steady (fun _ => .notStarted "No such file or directory (os error 2)") _ []
    (by simp) x inside
  rw [absent] at program
  cases program

end Setup

end ContractLaunch
