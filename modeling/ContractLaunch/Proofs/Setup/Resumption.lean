import ContractLaunch.Proofs.Daemon.Confirmation
import ContractLaunch.Proofs.Setup.Halves
import ContractLaunch.Proofs.Setup.Precheck
import ContractLaunch.Proofs.Setup.Sendable
import ContractLaunch.Proofs.Setup.Sequence
import Mathlib
/-!
Resuming as the second half of a deployment. A setup that resumes with a code id looks neither at the
contract's name nor at the artifacts, and stores nothing. Compared with a setup that stores the code
and has it confirmed under that id, it instantiates by the same command, and what follows from equal
answers is equal but for the section of the report that tells of the store.
-/
namespace ContractLaunch

open Dialogue Errand

def Settings.resumedFrom (s : Settings) (codeId : CodeId) : Settings :=
  { s with resumeCode := some codeId.value }

namespace Report

def storeSection (store : Option StoredCode) : String :=
  unlines (match store with
    | some stored =>
      ["1. Stored source code",
        "  transactionHash: " ++ stored.hash,
        "  codeId: " ++ toString stored.codeId,
        gasLine stored.gasWanted stored.gasUsed]
    | none => ["1. Reused stored code"])

def contractSection (contract : LiveContract) : String :=
  unlines ["2. Instantiated contract",
    "  transactionHash: " ++ contract.hash,
    "  contractAddress: " ++ contract.address,
    gasLine contract.gasWanted contract.gasUsed,
    "Contract setup completed!"]

theorem unlines_append (before after : List String) :
    unlines (before ++ after) = unlines before ++ unlines after := by
  simp [unlines, String.join_append]

theorem success_sections (d : Deployment) :
    success d = storeSection d.store ++ contractSection d.contract :=
  unlines_append _ _

end Report

namespace Setup

/-- The upload was confirmed with a code id: its transaction landed, and the response that the last
look found names the id. -/
def Confirms (codeId : CodeId) (made : List CommandExchange) : Prop :=
  ∃ sending included upload after, since .store made = upload ++ after ∧
    Landed sending included upload ∧ included.storedCode? = some codeId

theorem confirms_append {codeId : CodeId} {before rest : List CommandExchange}
    (none : ∀ x ∈ before, x.1.errand? ≠ some .store) :
    Confirms codeId (before ++ rest) ↔ Confirms codeId rest := by
  rw [Confirms, Confirms, since_append none]

theorem not_confirms_nil {codeId : CodeId} : ¬ Confirms codeId [] := by
  intro confirms
  obtain ⟨sending, included, upload, after, confirmed, landed, -⟩ := confirms
  obtain ⟨answer, taken, looks, last, rfl, -⟩ := landed
  cases confirmed

/-- What a run does after its keys are there and its code is known: it instantiates the code, and
reports what came of this. -/
structure SecondHalf (p : Plan) (session : Session) (codeId : CodeId) (store : Option StoredCode)
    (made : List CommandExchange) (outcome : Except SetupFault Deployment) : Prop where
  established : Transcript (p.daemon.establish p.configuration) (keyCommands made) (.ok session)
  instantiated : ∃ result, Transcript (p.daemon.carryOut session
      (session.instantiate codeId p.configuration.settings.instantiateMessage))
      (since .instantiate made) result ∧
    outcome = (result.map fun contract => ⟨store, contract⟩).mapError fault
  issued : instantiations made = Invocation.started [p.daemon.instantiateCommand session codeId
    p.configuration.settings.instantiateMessage]

section Parts

variable {d : DaemonSetup} {c : Configuration} {s : Session} {p : Plan} {codeId : CodeId}
  {message : Json} {keys made rest : List CommandExchange} {outcome : Except SetupFault Deployment}

theorem establish_keys {established : Except DeployFault Session}
    (ran : Transcript (d.establish c) keys established) :
    ∀ x ∈ keys, x.1.errand?.any isKey = true := by
  have planned : ∀ e ∈ Keyring.errands .deployer ++ Keyring.errands .tester, e.isKey = true := by
    decide
  intro x inside
  obtain ⟨e, member, errand⟩ := (DaemonSetup.establish_follows ran).1.errand_mem inside
  simp [errand, planned e member]

theorem errand?_ne_of_key {x : CommandExchange} {e : Errand} (key : x.1.errand?.any isKey = true)
    (other : e.isKey = false) : x.1.errand? ≠ some e := by
  intro same
  simp [same, other] at key

theorem unstored_of_establish {established : Except DeployFault Session}
    (ran : Transcript (d.establish c) keys established) :
    ∀ x ∈ keys, x.1.errand? ≠ some .store :=
  fun x inside => errand?_ne_of_key (establish_keys ran x inside) rfl

structure Creation (command : Invocation) (made : List CommandExchange) : Prop where
  others : ∀ x ∈ made, x.1.errand?.any isKey = false
  unstored : ∀ x ∈ made, x.1.errand? ≠ some .store
  whole : since .instantiate made = made
  issued : instantiations made = Invocation.started [command]
  onward : ∀ x ∈ made.head?, ∀ hash, x.1.errand? ≠ some (.lookup hash)

theorem creation_of_instantiate {result : Except DeployFault LiveContract}
    (ran : Transcript (d.carryOut s (s.instantiate codeId message)) made result) :
    Creation (d.instantiateCommand s codeId message) made := by
  obtain ⟨found, course, -⟩ := DaemonSetup.instantiate_course ran
  have errand : (d.instantiateCommand s codeId message).errand? = some .instantiate := rfl
  have errands := course.errands_cases errand
  refine ⟨fun x inside => NodeClient.not_key_of_errand rfl (errands x inside), ?_,
    course.since_self errand, ?_, ?_⟩
  · intro x inside
    rcases errands x inside with sent | ⟨hash, looked⟩
    · simp [sent]
    · simp [looked]
  · rcases course.commands with rfl | ⟨answer, hash, looks, rfl, looking⟩
    · simp [instantiations, Invocation.started, course.eq_nil_iff.mp rfl]
    · have given : (d.instantiateCommand s codeId message).hasNul = false := by
        simpa using mt course.eq_nil_iff.mpr (List.cons_ne_nil _ _)
      have dropped : (looks.map (·.1)).filter (·.errand? = some .instantiate) = [] := by
        rw [List.filter_eq_nil_iff]
        intro i inside
        obtain ⟨x, member, rfl⟩ := List.mem_map.mp inside
        simp [looking x member, NodeClient.errand?_lookup]
      simp [instantiations, Invocation.started, given, errand, dropped]
  · intro x first hash
    rcases course.commands with rfl | ⟨answer, _, looks, rfl, -⟩
    · cases first
    · obtain rfl := Option.some.inj first
      simp [errand]

theorem errands_of_storeCode {bytecode : Bytes} {result : Except DeployFault StoredCode}
    (ran : Transcript (d.carryOut s (s.storeCode bytecode)) made result) :
    ∀ x ∈ made, x.1.errand? = some .store ∨ ∃ hash, x.1.errand? = some (.lookup hash) := by
  rcases DaemonSetup.storeCode_course ran with ⟨_, rfl, -⟩ | ⟨fee, found, course, -⟩
  · simp
  · exact course.errands_cases rfl

theorem stored_of_confirms {bytecode : Bytes} {result : Except DeployFault StoredCode}
    (ran : Transcript (d.carryOut s (s.storeCode bytecode)) made result)
    (confirms : Confirms codeId (made ++ rest)) (unstored : ∀ x ∈ rest, x.1.errand? ≠ some .store)
    (onward : ∀ x ∈ rest.head?, ∀ hash, x.1.errand? ≠ some (.lookup hash)) :
    ∃ stored, result = .ok stored ∧ stored.codeId = codeId := by
  have begun : made ≠ [] := by
    rintro rfl
    have silent : Confirms codeId [] := (confirms_append unstored).mp (by simpa using confirms)
    exact not_confirms_nil silent
  obtain ⟨sending, included, upload, after, confirmed, landed, code⟩ := confirms
  rcases DaemonSetup.storeCode_course ran with ⟨_, rfl, -⟩ | ⟨fee, found, course, outcome⟩
  · exact absurd rfl begun
  · rw [course.since_append rfl begun] at confirmed
    obtain rfl := course.settled begun confirmed landed onward
    have accepted : (NodeClient.storeOutcome included).validate =
        .ok ⟨included.hash, codeId, included.gasWanted, included.gasUsed⟩ :=
      StoreResponse.validate_eq_ok_iff.mpr ⟨codeId, code, rfl⟩
    exact ⟨_, outcome.trans accepted, rfl⟩

theorem secondHalf_of_parts {storing creation : List CommandExchange} {store : Option StoredCode}
    {result : Except DeployFault LiveContract}
    (establishing : Transcript (p.daemon.establish p.configuration) keys (.ok s))
    (uploading : ∀ x ∈ storing,
      x.1.errand? = some .store ∨ ∃ hash, x.1.errand? = some (.lookup hash))
    (instantiating : Transcript (p.daemon.carryOut s
      (s.instantiate codeId p.configuration.settings.instantiateMessage)) creation result) :
    SecondHalf p s codeId store (keys ++ (storing ++ creation))
      ((result.map fun contract => ⟨store, contract⟩).mapError fault) := by
  have keyed := establish_keys establishing
  have created := creation_of_instantiate instantiating
  have early : ∀ x ∈ keys, x.1.errand? ≠ some .instantiate :=
    fun x inside => errand?_ne_of_key (keyed x inside) rfl
  have uncreated : ∀ x ∈ storing, x.1.errand? ≠ some .instantiate := by
    intro x inside
    rcases uploading x inside with sent | ⟨hash, looked⟩
    · simp [sent]
    · simp [looked]
  have behind : ∀ x ∈ storing ++ creation, x.1.errand?.any isKey = false := by
    intro x inside
    rcases List.mem_append.mp inside with stored | instantiated
    · exact NodeClient.not_key_of_errand rfl (uploading x stored)
    · exact created.others x instantiated
  have reached : since .instantiate (keys ++ (storing ++ creation)) = creation := by
    rw [since_append early, since_append uncreated, created.whole]
  refine ⟨?_, ?_, ?_⟩
  · rw [keyCommands_append keyed behind]
    exact establishing
  · rw [reached]
    exact ⟨result, instantiating, rfl⟩
  · rw [instantiations_append early, instantiations_append uncreated, created.issued]

theorem carryOut_resuming (source : p.source = .inl codeId) (ran : Transcript (carryOut p) made outcome) :
    ∃ established, Transcript (p.daemon.establish p.configuration) (keyCommands made) established ∧
      ∀ session, established = .ok session → SecondHalf p session codeId none made outcome := by
  obtain ⟨keys, established, rest, rfl, establishing, next⟩ := transcript_bind.mp ran
  cases established with
  | error cause =>
    obtain ⟨rfl, rfl⟩ := transcript_pure.mp next
    refine ⟨.error cause, ?_, nofun⟩
    rw [keyCommands_append (establish_keys establishing) (by simp)]
    exact establishing
  | ok session =>
    obtain ⟨rest, result, _, rfl, deploying, ended⟩ := transcript_bind.mp next
    obtain ⟨rfl, rfl⟩ := transcript_pure.mp ended
    rw [attempt, source] at deploying
    obtain ⟨created, instantiating, rfl⟩ := DaemonSetup.resume_split deploying
    have half : SecondHalf p session codeId none (keys ++ ([] ++ rest))
        ((created.map fun contract => ⟨none, contract⟩).mapError fault) :=
      secondHalf_of_parts establishing (by simp) instantiating
    rw [List.append_nil]
    refine ⟨.ok session, half.established, ?_⟩
    intro session' same
    cases same
    exact half

theorem carryOut_storing {bytecode : Bytes} (source : p.source = .inr bytecode)
    (ran : Transcript (carryOut p) made outcome) (confirms : Confirms codeId made) :
    ∃ session stored, stored.codeId = codeId ∧ p.daemon.Clear session ∧
      SecondHalf p session codeId (some stored) made outcome := by
  obtain ⟨keys, established, rest, rfl, establishing, next⟩ := transcript_bind.mp ran
  have confirmed := (confirms_append (unstored_of_establish establishing)).mp confirms
  cases established with
  | error cause =>
    obtain ⟨rfl, -⟩ := transcript_pure.mp next
    exact absurd confirmed not_confirms_nil
  | ok session =>
    obtain ⟨rest, result, _, rfl, deploying, ended⟩ := transcript_bind.mp next
    obtain ⟨rfl, rfl⟩ := transcript_pure.mp ended
    rw [attempt, source] at deploying
    rcases DaemonSetup.deploy_split deploying with
      ⟨cause, rfl, storing⟩ | ⟨first, stored, creation, created, rfl, storing, instantiating, rfl⟩
    · -- An upload that was confirmed has not failed.
      obtain ⟨stored, impossible, -⟩ := stored_of_confirms storing confirmed (by simp) (by simp)
      contradiction
    · have others := creation_of_instantiate instantiating
      rw [List.append_nil] at confirmed ⊢
      obtain ⟨code, same, rfl⟩ := stored_of_confirms storing confirmed others.unstored others.onward
      obtain rfl : stored = code := Except.ok.inj same
      exact ⟨session, stored, rfl, DaemonSetup.clear_of_stored storing,
        secondHalf_of_parts establishing (errands_of_storeCode storing) instantiating⟩

theorem confirms_of_success {bytecode : Bytes} {deployment : Deployment} (source : p.source = .inr bytecode)
    (ran : Transcript (carryOut p) made (.ok deployment)) :
    ∃ stored, deployment.store = some stored ∧ Confirms stored.codeId made := by
  obtain ⟨keys, established, rest, rfl, establishing, next⟩ := transcript_bind.mp ran
  have unstored := unstored_of_establish establishing
  cases established with
  | error cause => cases (transcript_pure.mp next).2
  | ok session =>
    obtain ⟨rest, result, _, rfl, deploying, ended⟩ := transcript_bind.mp next
    obtain ⟨rfl, outcome⟩ := transcript_pure.mp ended
    have deployed := except_mapError_ok outcome.symm
    rw [List.append_nil]
    rw [attempt, source] at deploying
    rcases DaemonSetup.deploy_split deploying with
      ⟨cause, rfl, -⟩ | ⟨first, stored, creation, created, rfl, storing, -, rfl⟩
    · cases deployed
    · obtain ⟨contract, -, rfl⟩ := except_map_ok deployed
      obtain ⟨fee, included, course, named⟩ := DaemonSetup.storeCode_ok storing
      have begun : first ≠ [] := by
        obtain ⟨_, _, _, _, rfl, -⟩ := course.landed
        exact List.cons_ne_nil _ _
      refine ⟨stored, rfl, (confirms_append unstored).mpr ?_⟩
      exact ⟨_, included, first, creation, course.since_append rfl begun, course.has_landed, named⟩

end Parts

/-- Two second halves that are answered alike come to the same, up to what is reported as stored. -/
theorem SecondHalf.agree {p p' : Plan} {session : Session} {codeId : CodeId}
    {store store' : Option StoredCode} {made made' : List CommandExchange}
    {outcome outcome' : Except SetupFault Deployment}
    (first : SecondHalf p session codeId store made outcome)
    (second : SecondHalf p' session codeId store' made' outcome') (daemon : p'.daemon = p.daemon)
    (message : p'.configuration.settings.instantiateMessage =
      p.configuration.settings.instantiateMessage) :
    instantiations made = instantiations made' ∧
      (AnsweredAlike (since .instantiate made) (since .instantiate made') →
        ∃ result : Except DeployFault LiveContract,
          outcome = (result.map fun contract => ⟨store, contract⟩).mapError fault ∧
          outcome' = (result.map fun contract => ⟨store', contract⟩).mapError fault) := by
  obtain ⟨-, ⟨result, ran, rfl⟩, issued⟩ := first
  obtain ⟨-, ⟨result', ran', rfl⟩, issued'⟩ := second
  rw [daemon, message] at ran'
  refine ⟨?_, ?_⟩
  · rw [issued, issued', daemon, message]
  · intro alike
    obtain ⟨-, rfl⟩ := ran.alike ran' alike
    exact ⟨result, rfl, rfl⟩

section Planning

variable {disk disk' : Disk} {env : Environment} {staging : Staging} {name name' : String}
  {s : Settings} {codeId : CodeId} {blocked : Option String}

theorem resumeCodeId_of_resumes (resumes : s.resumeCode = some codeId.value) :
    s.resumeCodeId = .ok (some codeId) := by
  have positive : CodeId.ofUInt64? codeId.value = some codeId := dif_pos codeId.positive
  simp only [Settings.resumeCodeId, resumes, positive]

theorem sourceOf_resuming (resumes : s.resumeCode = some codeId.value) :
    sourceOf disk s name = .ok (.inl codeId) := by
  unfold sourceOf
  rw [resumeCodeId_of_resumes resumes]
  rfl

theorem validate_resumedFrom (valid : (s.withMnemonics env).validate = .ok ())
    (fresh : s.resumeCode = none) : ((s.resumedFrom codeId).withMnemonics env).validate = .ok () := by
  have unset : s.resumeCodeId = .ok none := by simp only [Settings.resumeCodeId, fresh]
  have set : (s.resumedFrom codeId).resumeCodeId = .ok (some codeId) := resumeCodeId_of_resumes rfl
  have same : discard (s.resumedFrom codeId).resumeCodeId = discard s.resumeCodeId := by
    rw [unset, set]
    rfl
  rw [← valid]
  unfold Configuration.validate
  dsimp only [Settings.withMnemonics]
  rw [same]
  rfl

theorem ofEnvironment_congr
    (same : disk' (Settings.path env) = disk (Settings.path env)) :
    Configuration.ofEnvironment disk' env = Configuration.ofEnvironment disk env := by
  have loaded : Settings.load disk' (Settings.path env) = Settings.load disk (Settings.path env) := by
    unfold Settings.load
    rw [same]
  unfold Configuration.ofEnvironment
  rw [loaded]

theorem settings_of_environment {c : Configuration}
    (configured : Configuration.ofEnvironment disk env = .ok c)
    (loaded : Settings.load disk (Settings.path env) = .ok s) : c.settings = s := by
  obtain ⟨settings, loading, checking⟩ := except_bind_ok configured
  obtain ⟨_, -, made⟩ := except_bind_ok checking
  obtain rfl := Except.ok.inj (loaded.symm.trans loading)
  obtain rfl := Except.ok.inj made
  rfl

theorem plan_resuming (loaded : Settings.load disk (Settings.path env) = .ok s)
    (resumes : s.resumeCode = some codeId.value)
    (same : disk' (Settings.path env) = disk (Settings.path env)) :
    plan ⟨disk', env, staging⟩ name' = plan ⟨disk, env, staging⟩ name := by
  rw [plan_eq, plan_eq]
  dsimp only
  rw [ofEnvironment_congr same]
  cases configured : Configuration.ofEnvironment disk env with
  | error fault => rfl
  | ok c =>
    obtain rfl := settings_of_environment configured loaded
    change (sourceOf disk' c.settings name' >>= fun source => _) =
      (sourceOf disk c.settings name >>= fun source => _)
    rw [sourceOf_resuming resumes, sourceOf_resuming resumes]

theorem contractName?_of_filled (filled : Text.isAllBlank name = false) :
    contractName? [name] = some name := by
  simp [contractName?, filled]

theorem run_resuming (filled : Text.isAllBlank name = false) (filled' : Text.isAllBlank name' = false)
    (loaded : Settings.load disk (Settings.path env) = .ok s)
    (resumes : s.resumeCode = some codeId.value)
    (same : disk' (Settings.path env) = disk (Settings.path env)) :
    run ⟨disk', env, staging⟩ blocked [name'] = run ⟨disk, env, staging⟩ blocked [name] := by
  unfold run
  rw [contractName?_of_filled filled, contractName?_of_filled filled']
  dsimp only
  rw [deploy, deploy, plan_resuming loaded resumes same]

theorem run_resuming_unstored (loaded : Settings.load disk (Settings.path env) = .ok s)
    (resumes : s.resumeCode = some codeId.value) (daemon : Respondent Invocation fun _ => Outcome) :
    some .store ∉ ofCommands ((run ⟨disk, env, staging⟩ blocked [name]).run daemon []).2 := by
  rcases run_followed (transcript_of_run daemon (run ⟨disk, env, staging⟩ blocked [name])) with
    silent | ⟨c, configured, stored, n, created, m, -, -, follows⟩
  · rw [silent]
    exact List.not_mem_nil
  · obtain rfl := settings_of_environment configured loaded
    intro member
    obtain ⟨e, planned, same⟩ := List.mem_map.mp (follows.planned.subset member)
    obtain rfl := Option.some.inj same
    simp [itinerary, resumes, Keyring.errands, NodeClient.errands] at planned

end Planning

def ending (blocked : Option String) (outcome : Except SetupFault Deployment) : Finish :=
  { report outcome with
    complaints := (blocked.map logWarning).getD "" ++ (report outcome).complaints }

theorem transcript_run_of_filled {around : Surroundings} {blocked : Option String} {name : String}
    {made : List CommandExchange} {finish : Finish} (filled : Text.isAllBlank name = false)
    (ran : Transcript (run around blocked [name]) made finish) :
    ∃ outcome, Transcript (deploy around name) made outcome ∧ finish = ending blocked outcome := by
  unfold run at ran
  rw [contractName?_of_filled filled] at ran
  obtain ⟨made, outcome, _, rfl, deploying, ended⟩ := transcript_bind.mp ran
  obtain ⟨rfl, rfl⟩ := transcript_pure.mp ended
  rw [List.append_nil]
  exact ⟨outcome, deploying, rfl⟩

/-- Two runs end alike, the first with code of some id stored and the second without, up to the
section of a success on the store. -/
structure EndAlike (codeId : CodeId) (finish finish' : Finish) : Prop where
  status : finish.status = finish'.status
  complaints : finish.complaints = finish'.complaints
  output : (finish.output = "" ∧ finish'.output = "") ∨
    ∃ stored contract, stored.codeId = codeId ∧
      finish.output = Report.storeSection (some stored) ++ Report.contractSection contract ∧
      finish'.output = Report.storeSection none ++ Report.contractSection contract

theorem endAlike_of_result (blocked : Option String) (stored : StoredCode)
    (result : Except DeployFault LiveContract) :
    EndAlike stored.codeId
      (ending blocked ((result.map fun contract => ⟨some stored, contract⟩).mapError fault))
      (ending blocked ((result.map fun contract => ⟨none, contract⟩).mapError fault)) := by
  cases result with
  | error cause => exact ⟨rfl, rfl, .inl ⟨rfl, rfl⟩⟩
  | ok contract =>
    have told := Report.success_sections ⟨some stored, contract⟩
    have reused := Report.success_sections ⟨none, contract⟩
    exact ⟨rfl, rfl, .inr ⟨stored, contract, rfl, told, reused⟩⟩

theorem halves_of_confirmed {disk disk' : Disk} {env : Environment} {staging : Staging}
    {name name' : String} {s : Settings} {codeId : CodeId} {made : List CommandExchange}
    {outcome : Except SetupFault Deployment}
    (loaded : Settings.load disk (Settings.path env) = .ok s) (fresh : s.resumeCode = none)
    (loaded' : Settings.load disk' (Settings.path env) = .ok (s.resumedFrom codeId))
    (ran : Transcript (deploy ⟨disk, env, staging⟩ name) made outcome) (confirms : Confirms codeId made) :
    ∃ p p' session stored, stored.codeId = codeId ∧
      SecondHalf p session codeId (some stored) made outcome ∧
      (p.daemon.instantiateCommand session codeId
        p.configuration.settings.instantiateMessage).hasNul = s.label.toList.contains '\x00' ∧
      plan ⟨disk', env, staging⟩ name' = .ok p' ∧ p'.source = .inl codeId ∧ p'.daemon = p.daemon ∧
      p'.configuration.settings.instantiateMessage = p.configuration.settings.instantiateMessage ∧
      p'.daemon.establish p'.configuration = p.daemon.establish p.configuration := by
  unfold deploy at ran
  split at ran
  next =>
    obtain ⟨rfl, -⟩ := transcript_pure.mp ran
    exact absurd confirms not_confirms_nil
  next p planned =>
    have sourced := (plan_grounded planned).sourced
    obtain ⟨settings, source, daemon, loading, valid, -, settled, rfl⟩ := plan_parts planned
    obtain rfl := Except.ok.inj (loading.symm.trans loaded)
    cases source with
    | inl known =>
      have resumes : settings.resumeCode = some known.value := sourced
      rw [fresh] at resumes
      cases resumes
    | inr bytecode =>
      obtain ⟨session, stored, same, clear, half⟩ := carryOut_storing rfl ran confirms
      obtain ⟨price, priced⟩ := Configuration.price_of_valid valid
      obtain ⟨-, -, label⟩ := Session.established_terms half.established
      have command := DaemonSetup.hasNul_instantiateCommand clear
        (DaemonSetup.nul_not_mem_gasPrice priced settled) codeId settings.instantiateMessage
      have resumed : plan ⟨disk', env, staging⟩ name' = .ok
          ⟨(settings.resumedFrom codeId).withMnemonics env, daemon, .inl codeId⟩ :=
        plan_of_parts loaded' (validate_resumedFrom valid fresh) (sourceOf_resuming rfl) settled
      exact ⟨_, _, session, stored, same, half, label ▸ command, resumed, rfl, rfl, rfl, rfl⟩

/-- A run that resumes depends on its settings only, and stores nothing. A run that stores code, once
its upload is confirmed with a code id, and the run that resumes with this id instantiate by the same
one command if the commands for the keys are answered alike, unless a NUL in the label of the contract
keeps both from it; and they end alike if what follows is answered alike too. -/
theorem resumption_is_second_half (env : Environment) (staging : Staging) (blocked : Option String)
    (codeId : CodeId) :
    (∀ (disk disk' : Disk) (s : Settings) (name name' : String),
      Text.isAllBlank name = false → Text.isAllBlank name' = false →
      Settings.load disk (Settings.path env) = .ok s → s.resumeCode = some codeId.value →
      disk' (Settings.path env) = disk (Settings.path env) →
      run ⟨disk', env, staging⟩ blocked [name'] = run ⟨disk, env, staging⟩ blocked [name] ∧
      ∀ daemon : Respondent Invocation fun _ => Outcome,
        some .store ∉ ofCommands ((run ⟨disk, env, staging⟩ blocked [name]).run daemon []).2) ∧
    ∀ (disk disk' : Disk) (s : Settings) (name name' : String)
      (daemon daemon' : Respondent Invocation fun _ => Outcome),
      Text.isAllBlank name = false → Text.isAllBlank name' = false →
      Settings.load disk (Settings.path env) = .ok s → s.resumeCode = none →
      Settings.load disk' (Settings.path env) = .ok (s.resumedFrom codeId) →
      let ended := (run ⟨disk, env, staging⟩ blocked [name]).run daemon []
      let ended' := (run ⟨disk', env, staging⟩ blocked [name']).run daemon' []
      Confirms codeId ended.2 → AnsweredAlike (keyCommands ended.2) (keyCommands ended'.2) →
      instantiations ended.2 = instantiations ended'.2 ∧
        (instantiations ended.2).length = (if '\x00' ∈ s.label.toList then 0 else 1) ∧
        (AnsweredAlike (since .instantiate ended.2) (since .instantiate ended'.2) →
          EndAlike codeId ended.1 ended'.1) := by
  refine ⟨?_, ?_⟩
  · intro disk disk' s name name' filled filled' loaded resumes same
    exact ⟨run_resuming filled filled' loaded resumes same, run_resuming_unstored loaded resumes⟩
  · intro disk disk' s name name' daemon daemon' filled filled' loaded fresh loaded' ended ended'
      confirms alike
    have ran := transcript_of_run daemon (run ⟨disk, env, staging⟩ blocked [name])
    have ran' := transcript_of_run daemon' (run ⟨disk', env, staging⟩ blocked [name'])
    obtain ⟨outcome, deploying, ends⟩ := transcript_run_of_filled filled ran
    obtain ⟨outcome', deploying', ends'⟩ := transcript_run_of_filled filled' ran'
    obtain ⟨p, p', session, stored, rfl, first, nul, planned, source, daemons, messages, identities⟩ :=
      halves_of_confirmed loaded fresh loaded' deploying confirms
    rw [deploy, planned] at deploying'
    obtain ⟨established, establishing, onward⟩ := carryOut_resuming source deploying'
    rw [identities] at establishing
    -- Equal keys make equal sessions, from which both second halves start.
    obtain ⟨-, same⟩ := first.established.alike establishing alike
    obtain ⟨issued, agree⟩ := first.agree (onward session same.symm) daemons messages
    refine ⟨issued, ?_, ?_⟩
    · rw [first.issued]
      by_cases held : '\x00' ∈ s.label.toList <;> simp [Invocation.started, nul, held]
    intro answered
    obtain ⟨result, rfl, rfl⟩ := agree answered
    change EndAlike stored.codeId ((run ⟨disk, env, staging⟩ blocked [name]).run daemon []).1
      ((run ⟨disk', env, staging⟩ blocked [name']).run daemon' []).1
    rw [ends, ends']
    exact endAlike_of_result blocked stored result

section Steady

variable {answer : Invocation → Outcome} {made made' : List CommandExchange} {e : Errand}

theorem keyCommands_alike (first : ∀ x ∈ made, x.2 = answer x.1)
    (second : ∀ x ∈ made', x.2 = answer x.1) :
    AnsweredAlike (keyCommands made) (keyCommands made') :=
  answeredAlike_of_steady (fun x inside => first x (mem_of_mem_keyCommands inside))
    (fun x inside => second x (mem_of_mem_keyCommands inside))

theorem since_alike (first : ∀ x ∈ made, x.2 = answer x.1) (second : ∀ x ∈ made', x.2 = answer x.1) :
    AnsweredAlike (since e made) (since e made') :=
  answeredAlike_of_steady (fun x inside => first x (mem_of_mem_since inside))
    (fun x inside => second x (mem_of_mem_since inside))

end Steady

section Launch

def operatorEnvironment : Environment := fun name =>
  if name = "HOME" then some "/home/operator"
  else if name = Mnemonic.variableOf .deployer then some "abandon abandon about"
  else if name = Mnemonic.variableOf .tester then some "zoo zoo wrong"
  else none

def storingPlan : Plan :=
  { untestedPlan with configuration := Settings.standard.withMnemonics operatorEnvironment }

theorem storing_plan : plan ⟨campaignDisk, operatorEnvironment, fun _ => none⟩ "campaign" = .ok storingPlan := by
  have valid : (Settings.standard.withMnemonics operatorEnvironment).validate = .ok () := by
    decide +kernel
  exact plan_of_parts rfl valid campaign_sourced rfl

def printed (text : String) : Outcome := .exited 0 (asciiBytes text) []

/-- The answers of a daemon that stores code under the id 42 and instantiates it. -/
def launchAnswer (i : Invocation) : Outcome :=
  match i.errand? with
  | some (.showKey "cwdeploy-deployer") => printed "wasm1deployer"
  | some (.showKey _) => printed "wasm1tester"
  | some .store => printed "\x7b\"txhash\":\"S\"\x7d"
  | some (.lookup "S") => printed
    "\x7b\"txhash\":\"S\",\"events\":[\x7b\"type\":\"store_code\",\"attributes\":[\x7b\"key\":\"code_id\",\"value\":\"42\"\x7d]\x7d]\x7d"
  | some .instantiate => printed "\x7b\"txhash\":\"I\"\x7d"
  | some (.lookup _) => printed
    "\x7b\"txhash\":\"I\",\"events\":[\x7b\"type\":\"instantiate\",\"attributes\":[\x7b\"key\":\"_contract_address\",\"value\":\"wasm1c\"\x7d]\x7d]\x7d"
  | _ => printed ""

def launchDaemon : Respondent Invocation fun _ => Outcome := fun _ i => launchAnswer i

theorem storing_confirms : Confirms ⟨42, by decide⟩
    ((run ⟨campaignDisk, operatorEnvironment, fun _ => none⟩ none ["campaign"]).run launchDaemon []).2 := by
  have stored : (((carryOut storingPlan).run launchDaemon []).1.toOption.bind (·.store)).map
      (·.codeId) = some ⟨42, by decide⟩ := by
    decide +kernel
  have ran := transcript_of_run launchDaemon (carryOut storingPlan)
  have named : contractName? ["campaign"] = some "campaign" := by decide
  rw [run_of_name named, deploy, storing_plan]
  cases outcome : ((carryOut storingPlan).run launchDaemon []).1 with
  | error fault =>
    rw [outcome] at stored
    cases stored
  | ok deployment =>
    rw [outcome] at ran stored
    obtain ⟨code, store, confirms⟩ := confirms_of_success rfl ran
    have same : code.codeId = ⟨42, by decide⟩ := by simpa [Except.toOption, store] using stored
    rw [← same]
    exact confirms

def resumingDisk : Disk := fun path =>
  if path = "cwdeploy.toml" then some (.file (asciiBytes "resume_code_id = 42\n")) else none

theorem resuming_load : Settings.load resumingDisk "cwdeploy.toml" =
    .ok (Settings.standard.resumedFrom ⟨42, by decide⟩) := by
  have decoded : Utf8.decode? (asciiBytes "resume_code_id = 42\n") = some "resume_code_id = 42\n" := by
    decide +kernel
  have document : Toml.read? "resume_code_id = 42\n" = some [("resume_code_id", .integer 42)] := by
    cbv
  have settings : Settings.ofToml? [("resume_code_id", .integer 42)] =
      some (Settings.standard.resumedFrom ⟨42, by decide⟩) := rfl
  simp [Settings.load, resumingDisk, decoded, document, settings]

theorem launch_steady {around : Surroundings} {name : String} :
    ∀ x ∈ ((run around none [name]).run launchDaemon []).2, x.2 = launchAnswer x.1 :=
  mem_run_steady launchAnswer _ [] nofun

def jointDisk : Disk := fun path =>
  if path = "cwdeploy.toml" then resumingDisk path else campaignDisk path

def storingEnd : Finish × List CommandExchange :=
  (run ⟨campaignDisk, operatorEnvironment, fun _ => none⟩ none ["campaign"]).run launchDaemon []

def resumingEnd : Finish × List CommandExchange :=
  (run ⟨resumingDisk, operatorEnvironment, fun _ => none⟩ none ["other"]).run launchDaemon []

theorem launch_keys_alike : AnsweredAlike (keyCommands storingEnd.2) (keyCommands resumingEnd.2) :=
  keyCommands_alike launch_steady launch_steady

theorem launch_since_alike :
    AnsweredAlike (since .instantiate storingEnd.2) (since .instantiate resumingEnd.2) :=
  since_alike launch_steady launch_steady

theorem resumption_is_second_half_launch :
    (run ⟨jointDisk, operatorEnvironment, fun _ => none⟩ none ["campaign"] =
        run ⟨resumingDisk, operatorEnvironment, fun _ => none⟩ none ["other"] ∧
      ∀ daemon : Respondent Invocation fun _ => Outcome, some .store ∉
        ofCommands ((run ⟨resumingDisk, operatorEnvironment, fun _ => none⟩ none ["other"]).run daemon []).2) ∧
    Confirms ⟨42, by decide⟩ storingEnd.2 ∧
    AnsweredAlike (keyCommands storingEnd.2) (keyCommands resumingEnd.2) ∧
    AnsweredAlike (since .instantiate storingEnd.2) (since .instantiate resumingEnd.2) ∧
    instantiations storingEnd.2 = instantiations resumingEnd.2 ∧
    (instantiations storingEnd.2).length = 1 ∧
    EndAlike ⟨42, by decide⟩ storingEnd.1 resumingEnd.1 := by
  obtain ⟨independent, second⟩ :=
    resumption_is_second_half operatorEnvironment (fun _ => none) none ⟨42, by decide⟩
  have apart := independent resumingDisk jointDisk (Settings.standard.resumedFrom ⟨42, by decide⟩)
    "other" "campaign" (by decide) (by decide) resuming_load rfl rfl
  obtain ⟨issued, once, agree⟩ := second campaignDisk resumingDisk .standard "campaign" "other" launchDaemon
    launchDaemon (by decide) (by decide) rfl rfl resuming_load storing_confirms launch_keys_alike
  exact ⟨apart, storing_confirms, launch_keys_alike, launch_since_alike, issued, once,
    agree launch_since_alike⟩

end Launch

end Setup

end ContractLaunch
