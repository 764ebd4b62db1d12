import ContractLaunch.Proofs.Setup.Course
import ContractLaunch.Proofs.Setup.Ground
import ContractLaunch.Proofs.Setup.Secrets
/-!
What is checked before the first command of a setup. Everything that planning can complain of is
found before any key is touched. Two complaints about local matters come late: the tester's mnemonic
is missed after the deployer's key has been replaced, and the fee of the upload is computed after
both keys have been.
-/
namespace ContractLaunch

open Dialogue Errand

/-- Every fault that a computation can end with is of a kind. -/
def Fails {ε α : Type} (kind : ε → Prop) (value : Except ε α) : Prop := ∀ e, value = .error e → kind e

namespace Fails

variable {ε ε' α β : Type} {kind : ε → Prop} {kind' : ε' → Prop} {value : Except ε α}

theorem ok (a : α) : Fails kind (.ok a) := by
  intro e failed
  contradiction

theorem error {e : ε} (known : kind e) : Fails kind (.error e : Except ε α) := by
  intro e' failed
  cases failed
  exact known

theorem bind {next : α → Except ε β} (first : Fails kind value) (rest : ∀ a, Fails kind (next a)) :
    Fails kind (value >>= next) := by
  cases value with
  | error e => exact error (first e rfl)
  | ok a => exact rest a

theorem map {f : α → β} (first : Fails kind value) : Fails kind (value.map f) := by
  cases value with
  | error e => exact error (first e rfl)
  | ok a => exact ok (f a)

theorem discarded (first : Fails kind value) : Fails kind (discard value) := by
  cases value with
  | error e => exact error (first e rfl)
  | ok a => exact ok ()

theorem mapError {f : ε → ε'} (first : Fails kind value) (mapped : ∀ e, kind e → kind' (f e)) :
    Fails kind' (value.mapError f) := by
  cases value with
  | error e => exact error (mapped e (first e rfl))
  | ok a => exact ok a

end Fails

namespace DeployFault

/-- The complaint that no mnemonic is known for an account. -/
def missingMnemonic (role : Role) : DeployFault :=
  .config (role.name ++ " mnemonic missing: set " ++ Mnemonic.variableOf role)

/-- A complaint that planning can make. Of its wording only the first letter matters here: no
complaint about a configuration starts like that about the tester's mnemonic. -/
def Early : DeployFault → Prop
  | .config text => text.toList.head? ≠ some 't'
  | .artifact _ => True
  | _ => False

theorem Early.not_missing {fault : DeployFault} (early : Early fault) :
    fault ≠ missingMnemonic .tester := by
  rintro rfl
  exact early rfl

theorem Early.not_fee {fault : DeployFault} (early : Early fault) (cause : FeeFault) :
    fault ≠ .fee cause := by
  rintro rfl
  exact early

end DeployFault

open DeployFault (Early missingMnemonic)

section Planning

variable {s : Settings} {c : Configuration} {env : Environment}

theorem fails_require {condition : Bool} {complaint : String}
    (wording : complaint.toList.head? ≠ some 't') :
    Fails Early (Configuration.require condition complaint) := by
  unfold Configuration.require
  split
  · exact .ok ()
  · exact .error wording

theorem fails_require_bind {condition : Bool} {complaint : String} {rest : Except DeployFault Unit}
    (wording : complaint.toList.head? ≠ some 't') (later : Fails Early rest) :
    Fails Early (Configuration.require condition complaint >>= fun _ => rest) :=
  (fails_require wording).bind fun _ => later

theorem fails_price : Fails Early s.price := by
  have any : Fails (fun _ => True) (GasPrice.parse (Text.trimmed s.gasPrice ++ s.nativeDenom)) :=
    fun _ _ => trivial
  refine any.mapError ?_
  intro fault _
  simp [Early]

theorem fails_resumeCodeId : Fails Early s.resumeCodeId := by
  unfold Settings.resumeCodeId
  split
  · exact .ok none
  · split
    · exact .ok _
    · exact .error (by simp [Early])

theorem fails_validate : Fails Early c.validate := by
  unfold Configuration.validate
  dsimp only
  refine fails_require_bind (by simp) (fails_require_bind (by simp) ?_)
  refine fails_require_bind (by simp) (fails_require_bind (by simp) ?_)
  refine Fails.bind fails_price.discarded fun _ => ?_
  refine fails_require_bind (by simp) (fails_require_bind (by simp) ?_)
  refine fails_require_bind (by simp) ?_
  refine Fails.bind fails_resumeCodeId.discarded fun _ => ?_
  exact fails_require (by simp [Mnemonic.variableOf])

theorem fails_load {disk : Disk} {path : String} : Fails Early (Settings.load disk path) := by
  unfold Settings.load
  split
  · exact .ok _
  · exact .error (by simp [Early])
  · exact .error (by simp [Early])
  · split
    · exact .error (by simp [Early])
    · split
      · exact .ok _
      · exact .error (by simp [Early])

theorem fails_ofSettings {staging : Staging} :
    Fails Early (DaemonSetup.ofSettings s env staging) := by
  have home : Fails Early (Home.keyring env) := by
    unfold Home.keyring Home.base
    refine Fails.map ?_
    split
    · exact .ok _
    · exact .error (by simp [Early])
  have daemon : Fails Early (DaemonSetup.daemonOf s env) := by
    unfold DaemonSetup.daemonOf
    split
    · exact .ok _
    · exact home.bind fun _ => .ok _
  have settings : Fails Early (DaemonSetup.txSettingsOf s) := fails_price.bind fun _ => .ok _
  exact daemon.bind fun _ => settings.bind fun _ => .ok _

def SetupFault.Early (f : SetupFault) : Prop := ∃ fault, f.cause = .inl fault ∧ fault.Early

theorem Setup.fails_plan {around : Surroundings} {name : String} :
    Fails SetupFault.Early (plan around name) := by
  have plain : ∀ fault, Early fault → (Setup.fault fault).Early := fun fault early => ⟨fault, rfl, early⟩
  have configured : Fails Early (Configuration.ofEnvironment around.disk around.environment) :=
    fails_load.bind fun _ => fails_validate.bind fun _ => .ok _
  have sourced {s : Settings} : Fails SetupFault.Early (sourceOf around.disk s name) := by
    have any : Fails (fun _ => True) (Artifact.load around.disk s.artifactsDir name) :=
      fun _ _ => trivial
    refine Fails.bind (fails_resumeCodeId.mapError plain) fun resume => ?_
    cases resume with
    | some codeId => exact .ok _
    | none => exact (any.mapError fun cause _ => plain (.artifact cause) trivial).map
  rw [plan_eq]
  refine Fails.bind (configured.mapError fun fault early => ⟨fault, rfl, early⟩) fun c => ?_
  refine Fails.bind sourced fun source => ?_
  exact Fails.bind (fails_ofSettings.mapError plain) fun _ => .ok _

theorem except_discard_ok {ε α : Type} {value : Except ε α} {u : Unit} (ok : discard value = .ok u) :
    ∃ a, value = .ok a := by
  cases value with
  | error e => cases ok
  | ok a => exact ⟨a, rfl⟩

theorem Configuration.price_of_valid (valid : c.validate = .ok ()) :
    ∃ price, c.settings.price = .ok price := by
  obtain ⟨_, -, valid⟩ := except_bind_ok valid
  obtain ⟨_, -, valid⟩ := except_bind_ok valid
  obtain ⟨_, -, valid⟩ := except_bind_ok valid
  obtain ⟨_, -, valid⟩ := except_bind_ok valid
  obtain ⟨_, priced, -⟩ := except_bind_ok valid
  exact except_discard_ok priced

theorem Configuration.mnemonic_error {role : Role} {fault : DeployFault}
    (missing : c.mnemonic role = .error fault) : fault = missingMnemonic role := by
  cases role with
  | deployer =>
    dsimp only [Configuration.mnemonic] at missing
    split at missing
    · cases missing
    · exact (Except.error.inj missing).symm
  | tester =>
    dsimp only [Configuration.mnemonic] at missing
    split at missing
    · cases missing
    · exact (Except.error.inj missing).symm

end Planning

section Running

variable {made : List CommandExchange} {fault : DeployFault}

theorem ClientFault.kind_ne_config (cause : ClientFault) : cause.kind ≠ .config := by
  cases cause <;> simp [kind]

def Keyring.errandsBefore : Role → List Errand
  | .deployer => []
  | .tester => errands .deployer

theorem DaemonSetup.establishAccount_config {d : DaemonSetup} {c : Configuration} {role : Role}
    (ran : Transcript ((Session.establishAccount c role).run.expand d.settleIdentity) made
      (.error fault)) (kind : fault.kind = .config) : fault = missingMnemonic role ∧ made = [] := by
  have identified {act : IdentityAct} {made : List CommandExchange} :
      ¬ Transcript ((Session.identify role act).run.expand d.settleIdentity) made (.error fault) := by
    intro ran
    obtain ⟨reply, mapped, -⟩ := transcript_identify.mp ran
    cases reply with
    | ok answer => contradiction
    | error cause =>
      obtain rfl : fault = .identity role cause := Except.error.inj mapped
      exact cause.kind_ne_config kind
  rcases transcript_expand_bind.mp ran with ⟨e, same, missing⟩ | ⟨_, mnemonic, _, rfl, -, next⟩
  · obtain rfl := Except.error.inj same
    obtain ⟨rfl, refused⟩ := transcript_expand_lift.mp missing
    exact ⟨Configuration.mnemonic_error refused.symm, rfl⟩
  · rcases transcript_expand_bind.mp next with
      ⟨e, same, failed⟩ | ⟨_, account, _, rfl, -, last⟩
    · obtain rfl := Except.error.inj same
      exact absurd failed identified
    · rcases transcript_expand_bind.mp last with ⟨e, same, failed⟩ | ⟨_, _, _, rfl, -, ended⟩
      · obtain rfl := Except.error.inj same
        exact absurd failed identified
      · cases (transcript_expand_pure.mp ended).2

theorem DaemonSetup.establish_config {d : DaemonSetup} {c : Configuration}
    (valid : c.validate = .ok ()) (ran : Transcript (d.establish c) made (.error fault))
    (kind : fault.kind = .config) :
    ∃ role, fault = missingMnemonic role ∧ ofCommands made = (Keyring.errandsBefore role).map some := by
  rcases transcript_expand_bind.mp ran with ⟨e, same, failed⟩ | ⟨first, deployer, _, rfl, deploying, next⟩
  · obtain rfl := Except.error.inj same
    obtain ⟨missing, rfl⟩ := establishAccount_config failed kind
    exact ⟨.deployer, missing, rfl⟩
  · have completes := (establishAccount_follows deploying).2 deployer rfl
    rcases transcript_expand_bind.mp next with ⟨e, same, failed⟩ | ⟨_, tester, _, rfl, -, last⟩
    · obtain rfl := Except.error.inj same
      obtain ⟨missing, rfl⟩ := establishAccount_config failed kind
      refine ⟨.tester, missing, ?_⟩
      rw [List.append_nil]
      exact completes.done
    · -- The price was parsed when the configuration was checked.
      obtain ⟨price, priced⟩ := Configuration.price_of_valid valid
      rcases transcript_expand_bind.mp last with ⟨e, same, failed⟩ | ⟨_, _, _, rfl, -, ended⟩
      · have refused := (transcript_expand_lift.mp failed).2
        rw [priced] at refused
        cases refused
      · cases (transcript_expand_pure.mp ended).2

theorem DaemonSetup.instantiate_config {d : DaemonSetup} {s : Session} {codeId : CodeId} {message : Json}
    (ran : Transcript (d.carryOut s (s.instantiate codeId message)) made (.error fault)) :
    fault.kind ≠ .config := by
  obtain ⟨found, -, outcome⟩ := instantiate_course ran
  cases found with
  | error cause =>
    obtain rfl : fault = .instantiateFailure codeId cause := Except.error.inj outcome
    exact cause.kind_ne_config
  | ok included =>
    obtain rfl := InstantiateResponse.fault_of_validate outcome.symm
    exact nofun

/-- The only local complaint of a deployment is that the fee of the upload is too large. -/
theorem DaemonSetup.attempt_config {p : Setup.Plan} {s : Session}
    (ran : Transcript (p.daemon.carryOut s (Setup.attempt p s)) made (.error fault))
    (kind : fault.kind = .config) : ∃ cause, fault = .fee cause ∧ made = [] := by
  unfold Setup.attempt at ran
  split at ran
  · obtain ⟨outcome, instantiating, result⟩ := resume_split ran
    cases outcome with
    | ok contract => cases result
    | error cause =>
      obtain rfl : fault = cause := Except.error.inj result
      exact absurd kind (instantiate_config instantiating)
  · rcases deploy_split ran with ⟨cause, same, storing⟩ | ⟨_, _, _, outcome, rfl, -, instantiating, result⟩
    · obtain rfl := Except.error.inj same
      rcases storeCode_course storing with ⟨_, silent, refused, unstored⟩ | ⟨fee, found, -, outcome⟩
      · obtain rfl := Except.error.inj refused
        cases unstored with
        | unpaid cause => exact ⟨cause, rfl, silent⟩
        | unstaged reason => exact absurd kind (NodeClient.stagingFault reason).kind_ne_config
      · cases found with
        | error cause =>
          obtain rfl : fault = .storeFailure cause := Except.error.inj outcome
          exact absurd kind cause.kind_ne_config
        | ok included =>
          obtain ⟨detail, rfl⟩ := StoreResponse.fault_of_validate outcome.symm
          cases kind
    · cases outcome with
      | ok contract => cases result
      | error cause =>
        obtain rfl : fault = cause := Except.error.inj result
        exact absurd kind (instantiate_config instantiating)

theorem Setup.carryOut_config {p : Plan} {contexts : List String}
    (valid : p.configuration.validate = .ok ())
    (ran : Transcript (carryOut p) made (.error ⟨contexts, .inl fault⟩)) (kind : fault.kind = .config) :
    (∃ role, fault = missingMnemonic role ∧
        ofCommands made = (Keyring.errandsBefore role).map some) ∨
      ∃ cause, fault = .fee cause ∧
        ofCommands made = (Keyring.errands .deployer ++ Keyring.errands .tester).map some := by
  obtain ⟨first, established, rest, rfl, establishing, next⟩ := transcript_bind.mp ran
  cases established with
  | error cause =>
    obtain ⟨rfl, same⟩ := transcript_pure.mp next
    cases same
    rw [List.append_nil]
    exact .inl (DaemonSetup.establish_config valid establishing kind)
  | ok session =>
    have completes := (DaemonSetup.establish_follows establishing).2 session rfl
    obtain ⟨deployed, outcome, _, rfl, deploying, ended⟩ := transcript_bind.mp next
    obtain ⟨rfl, same⟩ := transcript_pure.mp ended
    cases outcome with
    | ok deployment => cases same
    | error cause =>
      cases same
      obtain ⟨cause, rfl, rfl⟩ := DaemonSetup.attempt_config deploying kind
      exact .inr ⟨cause, rfl, by simpa using completes.done⟩

end Running

namespace Setup

theorem run_of_name {around : Surroundings} {blocked : Option String} {arguments : List String}
    {name : String} (named : contractName? arguments = some name)
    (daemon : Respondent Invocation fun _ => Outcome) :
    ((run around blocked arguments).run daemon []).2 = ((deploy around name).run daemon []).2 := by
  unfold run
  rw [named]
  exact congrArg Prod.snd (run_bind daemon _ _ _)

theorem deploy_config {around : Surroundings} {name : String} {made : List CommandExchange}
    {contexts : List String} {fault : DeployFault}
    (ran : Transcript (deploy around name) made (.error ⟨contexts, .inl fault⟩))
    (kind : fault.kind = .config) :
    (made = [] ∧ fault ≠ missingMnemonic .tester ∧ ∀ cause, fault ≠ .fee cause) ∨
      (fault = missingMnemonic .tester ∧ ofCommands made = (Keyring.errands .deployer).map some) ∨
      ∃ cause, fault = .fee cause ∧
        ofCommands made = (Keyring.errands .deployer ++ Keyring.errands .tester).map some := by
  unfold deploy at ran
  split at ran
  next planning refused =>
    obtain ⟨rfl, same⟩ := transcript_pure.mp ran
    obtain rfl := Except.error.inj same
    obtain ⟨cause, same, early⟩ := fails_plan _ refused
    obtain rfl := Sum.inl.inj same
    exact .inl ⟨rfl, early.not_missing, early.not_fee⟩
  next p planned =>
    have valid := Configuration.valid_of_environment (plan_grounded planned).configured
    rcases carryOut_config valid ran kind with ⟨role, missing, keys⟩ | ⟨cause, refused, keys⟩
    · cases role with
      | deployer =>
        have silent : made = [] := List.map_eq_nil_iff.mp keys
        have apart : missingMnemonic .deployer ≠ missingMnemonic .tester := by decide
        exact .inl ⟨silent, by rwa [missing], by simp [missing, missingMnemonic]⟩
      | tester => exact .inr (.inl ⟨missing, keys⟩)
    · exact .inr (.inr ⟨cause, refused, keys⟩)

/-- A setup that fails for a local reason has made no command exactly if it did not miss the tester's
mnemonic and did not find the fee of the upload too large. Else it has replaced the deployer's key,
and in the second case the tester's as well. -/
theorem config_fault_untouched_iff (around : Surroundings) (blocked : Option String)
    (arguments : List String) (daemon : Respondent Invocation fun _ => Outcome) (name : String)
    (contexts : List String) (fault : DeployFault)
    (named : contractName? arguments = some name)
    (failed : ((deploy around name).run daemon []).1 = .error ⟨contexts, .inl fault⟩)
    (kind : fault.kind = .config) :
    let made := ((run around blocked arguments).run daemon []).2
    (made = [] ↔ fault ≠ missingMnemonic .tester ∧ ∀ cause, fault ≠ .fee cause) ∧
    (fault = missingMnemonic .tester → ofCommands made = (Keyring.errands .deployer).map some) ∧
    ∀ cause, fault = .fee cause →
      ofCommands made = (Keyring.errands .deployer ++ Keyring.errands .tester).map some := by
  rw [run_of_name named]
  have ran := transcript_of_run daemon (deploy around name)
  rw [failed] at ran
  generalize ((deploy around name).run daemon []).2 = made at ran
  rcases deploy_config ran kind with ⟨silent, present, paid⟩ | ⟨missing, keys⟩ | ⟨cause, refused, keys⟩
  · simp [silent, present, paid]
  · have touched : made ≠ [] := by
      rintro rfl
      cases keys
    refine ⟨by simp [touched, missing], fun _ => keys, ?_⟩
    rintro cause rfl
    cases missing
  · have touched : made ≠ [] := by
      rintro rfl
      cases keys
    refine ⟨by simp [touched, refused], ?_, fun _ _ => keys⟩
    rintro rfl
    cases refused

section Untested

def campaignDisk : Disk := fun path =>
  if path = "artifacts/campaign.wasm" then some (.file Artifact.magic) else none

def untestedEnvironment : Environment := fun name =>
  if name = "HOME" then some "/home/operator"
  else if name = Mnemonic.variableOf .deployer then some "abandon abandon about"
  else none

def untested : Surroundings := ⟨campaignDisk, untestedEnvironment, fun _ => none⟩

def untestedPlan : Plan where
  configuration := Settings.standard.withMnemonics untestedEnvironment
  daemon := ⟨⟨"wasmd", "http://localhost:26657", "localwasm", "test",
    some "/home/operator/.cwdeploy/keyring"⟩, ⟨"0.025ustake", 30, 1⟩, fun _ => none⟩
  source := .inr Artifact.magic

def asciiBytes (text : String) : Bytes := text.toList.map fun c => UInt8.ofNat c.toNat

def keyAnswer : Outcome := .exited 0 (asciiBytes "wasm1deployer") []

theorem campaign_sourced : sourceOf campaignDisk .standard "campaign" = .ok (.inr Artifact.magic) := by
  have loaded : Artifact.load campaignDisk "artifacts" "campaign" = .ok Artifact.magic := by
    decide +kernel
  change (Except.mapError (fun cause => fault (.artifact cause))
    (Artifact.load campaignDisk "artifacts" "campaign")).map Sum.inr = _
  rw [loaded]
  rfl

theorem untested_plan : plan untested "campaign" = .ok untestedPlan := by
  have valid : (Settings.standard.withMnemonics untestedEnvironment).validate = .ok () := by
    decide +kernel
  exact plan_of_parts rfl valid campaign_sourced rfl

theorem untested_run : (deploy untested "campaign").run (fun _ _ => keyAnswer) [] =
    (.error ⟨[], .inl (missingMnemonic .tester)⟩,
      [⟨Keyring.deleteCommand untestedPlan.daemon.daemon .deployer, keyAnswer⟩,
        ⟨Keyring.addCommand untestedPlan.daemon.daemon .deployer "abandon abandon about", keyAnswer⟩,
        ⟨Keyring.showCommand untestedPlan.daemon.daemon .deployer, keyAnswer⟩]) := by
  rw [deploy, untested_plan]
  rfl

theorem config_fault_untouched_iff_untested :
    let made := ((run untested none ["campaign"]).run (fun _ _ => keyAnswer) []).2
    let fault := missingMnemonic .tester
    contractName? ["campaign"] = some "campaign" ∧
    ((deploy untested "campaign").run (fun _ _ => keyAnswer) []).1 = .error ⟨[], .inl fault⟩ ∧
    fault.kind = .config ∧
    (made = [] ↔ fault ≠ missingMnemonic .tester ∧ ∀ cause, fault ≠ .fee cause) ∧
    (fault = missingMnemonic .tester → ofCommands made = (Keyring.errands .deployer).map some) ∧
    ∀ cause, fault = .fee cause →
      ofCommands made = (Keyring.errands .deployer ++ Keyring.errands .tester).map some := by
  intro made fault
  have named : contractName? ["campaign"] = some "campaign" := by decide
  have failed := congrArg Prod.fst untested_run
  have kind : fault.kind = .config := rfl
  exact ⟨named, failed, kind, config_fault_untouched_iff untested none ["campaign"]
    (fun _ _ => keyAnswer) "campaign" [] fault named failed kind⟩

/-- So a setup can touch keys before it fails for a local reason. -/
theorem config_fault_not_always_untouched :
    ¬ ∀ (around : Surroundings) (blocked : Option String) (arguments : List String)
      (daemon : Respondent Invocation fun _ => Outcome) (name : String) (contexts : List String)
      (fault : DeployFault), contractName? arguments = some name →
      ((deploy around name).run daemon []).1 = .error ⟨contexts, .inl fault⟩ →
      fault.kind = .config → ((run around blocked arguments).run daemon []).2 = [] := by
  intro always
  have named : contractName? ["campaign"] = some "campaign" := by decide
  have untouched := always untested none ["campaign"] (fun _ _ => keyAnswer) "campaign" []
    (missingMnemonic .tester) named (congrArg Prod.fst untested_run) rfl
  rw [run_of_name named, untested_run] at untouched
  cases untouched

end Untested

end Setup

end ContractLaunch
