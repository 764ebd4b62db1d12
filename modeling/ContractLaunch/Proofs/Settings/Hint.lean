import ContractLaunch.Proofs.Setup.Warning
import ContractLaunch.Proofs.Toml.Assignment
/-!
Following the hint of a failed instantiation. The hint gives a line for the settings; put before all
other lines it resumes with the code that the failure names, and changes nothing else, as long as the
id of the code is an integer that the format of the settings has room for. The ids of the chain go up
to twice as far, and with a greater one the settings cannot be read any more.
-/
namespace ContractLaunch

open Dialogue

/-- The edited document is the other one with a line before its first. A mark of the byte order may
stand before the lines. -/
def Toml.PutsFirst (line document edited : String) : Prop :=
  withoutMark edited.toList = line.toList ++ '\n' :: withoutMark document.toList

namespace Report

variable {codeId : CodeId}

def resumeLine (codeId : CodeId) : String := "resume_code_id = " ++ toString codeId

theorem resumeHint_eq : resumeHint codeId = "  Code " ++ toString codeId ++
    " is already on chain. Set " ++ CommandFault.quote (resumeLine codeId) ++
      " to retry instantiation without uploading again." := by
  have opening : " is already on chain. Set `resume_code_id = " =
      " is already on chain. Set " ++ "`" ++ "resume_code_id = " := by decide
  have closing : "` to retry instantiation without uploading again." =
      "`" ++ " to retry instantiation without uploading again." := by decide
  unfold resumeHint resumeLine CommandFault.quote
  rw [opening, closing]
  simp only [String.append_assoc]

theorem toList_resumeLine : (resumeLine codeId).toList =
    "resume_code_id".toList ++ ' ' :: '=' :: ' ' :: Nat.toDigits 10 codeId.value.toNat := by
  have digits : (toString codeId).toList = Nat.toDigits 10 codeId.value.toNat := by
    change (Nat.repr codeId.value.toNat).toList = _
    rw [Nat.repr_eq_ofList_toDigits, String.toList_ofList]
  simp [resumeLine, digits]

end Report

namespace Settings

variable {disk disk' : Disk} {path document edited : String} {s : Settings} {codeId : CodeId}

section Fields

theorem read_on {α β : Type} {first : Option α} {next next' : α → Option β} {b c : β} {P : Prop}
    (read : first >>= next = some b) (rest : ∀ a, next a = some b → P ∧ next' a = some c) :
    P ∧ first >>= next' = some c := by
  cases first with
  | none => contradiction
  | some a => exact rest a read

/-- Members without code to resume from do not name it, and a member that does in front of them sets
nothing else. -/
theorem ofToml?_resume {members : List (String × Toml)} (read : ofToml? members = some s)
    (unset : s.resumeCode = none) {v : Toml} {n : UInt64}
    (number : (tomlField.natBelow? UInt64.size v).map UInt64.ofNat = some n) :
    members.lookup "resume_code_id" = none ∧
      ofToml? (("resume_code_id", v) :: members) = some { s with resumeCode := some n } := by
  unfold ofToml? ofFields? at read ⊢
  simp only [List.lookup_cons, String.reduceBEq]
  refine read_on read fun rpcEndpoint read => ?_
  refine read_on read fun chainId read => ?_
  refine read_on read fun addressPrefix read => ?_
  refine read_on read fun nativeDenom read => ?_
  refine read_on read fun gasPrice read => ?_
  refine read_on read fun chainBinary read => ?_
  refine read_on read fun keyringBackend read => ?_
  refine read_on read fun keyringHome read => ?_
  refine read_on read fun confirmAttempts read => ?_
  refine read_on read fun confirmInterval read => ?_
  refine read_on read fun artifactsDir read => ?_
  refine read_on read fun label read => ?_
  refine read_on read fun instantiateMessage read => ?_
  obtain ⟨code, resuming, same⟩ := Option.bind_eq_some_iff.mp read
  obtain rfl := Option.some.inj same
  obtain rfl : code = none := unset
  dsimp only at resuming
  constructor
  · cases found : members.lookup "resume_code_id" with
    | none => rfl
    | some w =>
      rw [found] at resuming
      dsimp only [tomlField] at resuming
      obtain ⟨_, _, given⟩ := Option.map_eq_some_iff.mp resuming
      contradiction
  · change ((tomlField.natBelow? UInt64.size v).map UInt64.ofNat).map some >>= _ = _
    rw [number]
    rfl

end Fields

/-- The text of the settings at a path. Where nothing stands it is empty. -/
def document? (disk : Disk) (path : String) : Option String :=
  match disk path with
  | none => some ""
  | some .directory | some (.unreadable _) => none
  | some (.file bytes) => Utf8.decode? bytes

def unreadable (path : String) : DeployFault :=
  .config ("cannot parse " ++ path ++ ": " ++ complaint)

theorem load_of_document (text : document? disk path = some document) :
    load disk path = match (Toml.read? document).bind ofToml? with
      | some s => .ok s
      | none => .error (unreadable path) := by
  unfold document? at text
  unfold load
  cases found : disk path with
  | none =>
    rw [found] at text
    obtain rfl := Option.some.inj text
    rfl
  | some entry =>
    rw [found] at text
    cases entry with
    | directory | unreadable => contradiction
    | file bytes =>
      dsimp only at text ⊢
      rw [text]
      rfl

theorem document_of_load (loaded : load disk path = .ok s) :
    ∃ document, document? disk path = some document ∧ (Toml.read? document).bind ofToml? = some s := by
  have text : ∃ document, document? disk path = some document := by
    unfold load at loaded
    unfold document?
    cases found : disk path with
    | none => exact ⟨"", rfl⟩
    | some entry =>
      rw [found] at loaded
      cases entry with
      | directory | unreadable => contradiction
      | file bytes =>
        dsimp only at loaded ⊢
        cases decoded : Utf8.decode? bytes with
        | none =>
          rw [decoded] at loaded
          contradiction
        | some document => exact ⟨document, rfl⟩
  obtain ⟨document, text⟩ := text
  refine ⟨document, text, ?_⟩
  rw [load_of_document text] at loaded
  split at loaded
  next read => rw [read, Except.ok.inj loaded]
  · contradiction

/-- With the line of the hint in front, settings without code to resume from resume with that code, or
they cannot be read. -/
theorem load_resumeLine (loaded : load disk path = .ok s) (unset : s.resumeCode = none)
    (known : document? disk path = some document) (known' : document? disk' path = some edited)
    (put : Toml.PutsFirst (Report.resumeLine codeId) document edited) :
    load disk' path =
      if codeId.value.toNat < 2 ^ 63 then .ok (s.resumedFrom codeId) else .error (unreadable path) := by
  obtain ⟨found, text, read⟩ := document_of_load loaded
  obtain rfl := Option.some.inj (known.symm.trans text)
  obtain ⟨members, lines, fields⟩ := Option.bind_eq_some_iff.mp read
  have bare : "resume_code_id".toList.all Toml.isBareChar = true := by decide +kernel
  have bare := List.all_eq_true.mp bare
  have filled : "resume_code_id".toList ≠ [] := by decide
  have positive : 0 < codeId.value.toNat := UInt64.lt_iff_toNat_lt.mp codeId.positive
  have numeral := Toml.isNumeral_toDigits positive
  have value := Toml.read?_toDigits positive
  have first : Toml.withoutMark edited.toList = "resume_code_id".toList ++ ' ' :: '=' :: ' ' ::
      (Nat.toDigits 10 codeId.value.toNat ++ '\n' :: Toml.withoutMark document.toList) := by
    rw [put, Report.toList_resumeLine]
    simp
  rw [load_of_document known']
  by_cases small : codeId.value.toNat < 2 ^ 63
  · rw [if_pos small] at value ⊢
    have number : (tomlField.natBelow? UInt64.size (.integer codeId.value.toNat)).map UInt64.ofNat =
        some codeId.value := by
      have bounded : codeId.value.toNat < UInt64.size := codeId.value.toNat_lt
      simp only [tomlField, Option.map_eq_some_iff, Option.filter_eq_some_iff, decide_eq_true_eq]
      exact ⟨_, ⟨rfl, bounded⟩, UInt64.ofNat_toNat⟩
    obtain ⟨unused, resuming⟩ := ofToml?_resume fields unset number
    have given := Toml.read?_numeral_first bare filled numeral first value lines unused
    rw [given, Option.bind_some, String.ofList_toList, resuming]
    rfl
  · rw [if_neg small] at value ⊢
    rw [Toml.read?_numeral_line bare filled numeral first, value]
    rfl

end Settings

namespace Setup

variable {around : Surroundings} {name : String} {contexts : List String} {codeId : CodeId}
  {cause : ClientFault} {made : List CommandExchange}

theorem resumed_code_of_failed {p : Plan} {resumed : CodeId} (source : p.source = .inl resumed)
    (ran : Transcript (carryOut p) made (.error ⟨contexts, .inl (.instantiateFailure codeId cause)⟩)) :
    resumed = codeId := by
  obtain ⟨keys, established, rest, rfl, establishing, next⟩ := transcript_bind.mp ran
  cases established with
  | error fault =>
    obtain ⟨-, same⟩ := transcript_pure.mp next
    cases same
    rcases DaemonSetup.establish_error establishing with ⟨_, _, other⟩ | kind
    · contradiction
    · exact absurd kind cause.kind_ne_config
  | ok session =>
    obtain ⟨deployed, outcome, _, rfl, deploying, ended⟩ := transcript_bind.mp next
    obtain ⟨-, same⟩ := transcript_pure.mp ended
    cases outcome with
    | ok deployment => cases same
    | error fault =>
      cases same
      unfold attempt at deploying
      rw [source] at deploying
      obtain ⟨outcome, instantiating, result⟩ := DaemonSetup.resume_split deploying
      obtain ⟨found, -, judged⟩ := DaemonSetup.instantiate_course instantiating
      cases outcome with
      | ok contract => cases result
      | error fault =>
        obtain rfl := Except.error.inj result
        cases found with
        | error cause' =>
          cases judged
          rfl
        | ok included => cases InstantiateResponse.fault_of_validate judged.symm

theorem settings_of_failed
    (ran : Transcript (deploy around name) made
      (.error ⟨contexts, .inl (.instantiateFailure codeId cause)⟩)) :
    ∃ s, Settings.load around.disk (Settings.path around.environment) = .ok s ∧
      (s.resumeCode = none ∨ s.resumeCode = some codeId.value) := by
  unfold deploy at ran
  split at ran
  next planning refused =>
    obtain ⟨-, same⟩ := transcript_pure.mp ran
    obtain rfl := Except.error.inj same
    obtain ⟨fault, same, early⟩ := fails_plan _ refused
    obtain rfl := Sum.inl.inj same
    cases early
  next p planned =>
    obtain ⟨s, source, daemon, loaded, -, -, -, rfl⟩ := plan_parts planned
    refine ⟨s, loaded, ?_⟩
    have sourced := (plan_grounded planned).sourced
    cases source with
    | inl resumed =>
      obtain rfl := resumed_code_of_failed rfl ran
      exact .inr sourced
    | inr bytecode => exact .inl sourced.1

/-- The hint of a failed instantiation gives a line for the settings. Settings that name the code already
resume with it as they are. In front of any others the line can be followed exactly if the id of the
code is below 2^63: then it sets the code to resume from, and nothing else; with it they cannot be read
if the id is greater. -/
theorem resume_hint_followed_iff (around : Surroundings)
    (daemon : Respondent Invocation fun _ => Outcome) (name : String) (contexts : List String)
    (codeId : CodeId) (cause : ClientFault)
    (failed : ((deploy around name).run daemon []).1 =
      .error ⟨contexts, .inl (.instantiateFailure codeId cause)⟩) :
    let path := Settings.path around.environment
    (∃ before after, before ++ CommandFault.quote (Report.resumeLine codeId) ++ after ∈
      Report.hints (.instantiateFailure codeId cause)) ∧
    ∃ s document, Settings.load around.disk path = .ok s ∧
      Settings.document? around.disk path = some document ∧
      (s.resumeCodeId = .ok (some codeId) ∨
        s.resumeCodeId = .ok none ∧ ∀ (disk : Disk) (edited : String),
          Settings.document? disk path = some edited →
          Toml.PutsFirst (Report.resumeLine codeId) document edited →
          ((∃ s', Settings.load disk path = .ok s' ∧ s'.resumeCodeId = .ok (some codeId)) ↔
              codeId.value.toNat < 2 ^ 63) ∧
            (codeId.value.toNat < 2 ^ 63 → Settings.load disk path = .ok (s.resumedFrom codeId)) ∧
            (2 ^ 63 ≤ codeId.value.toNat →
              Settings.load disk path = .error (Settings.unreadable path))) := by
  intro path
  constructor
  · exact ⟨_, _, Report.resumeHint_eq ▸ Report.resumeHint_mem rfl⟩
  have ran := transcript_of_run daemon (deploy around name)
  rw [failed] at ran
  obtain ⟨s, loaded, resuming⟩ := settings_of_failed ran
  obtain ⟨document, known, -⟩ := Settings.document_of_load loaded
  refine ⟨s, document, loaded, known, ?_⟩
  rcases resuming with unset | named
  · refine .inr ⟨by simp only [Settings.resumeCodeId, unset], fun disk edited known' put => ?_⟩
    have reloaded := Settings.load_resumeLine loaded unset known known' put
    by_cases small : codeId.value.toNat < 2 ^ 63
    · rw [if_pos small] at reloaded
      have resumes : (s.resumedFrom codeId).resumeCodeId = .ok (some codeId) :=
        resumeCodeId_of_resumes rfl
      exact ⟨⟨fun _ => small, fun _ => ⟨_, reloaded, resumes⟩⟩, fun _ => reloaded,
        fun large => absurd small (Nat.not_lt.mpr large)⟩
    · rw [if_neg small] at reloaded
      refine ⟨⟨?_, fun within => absurd within small⟩, fun within => absurd within small,
        fun _ => reloaded⟩
      rintro ⟨s', read, -⟩
      rw [reloaded] at read
      contradiction
  · exact .inl (resumeCodeId_of_resumes named)

def failedInstantiation? : Except SetupFault Deployment → Option (CodeId × ClientFault)
  | .error ⟨[], .inl (.instantiateFailure codeId cause)⟩ => some (codeId, cause)
  | _ => none

theorem eq_of_failedInstantiation? {outcome : Except SetupFault Deployment}
    (failed : failedInstantiation? outcome = some (codeId, cause)) :
    outcome = .error ⟨[], .inl (.instantiateFailure codeId cause)⟩ := by
  unfold failedInstantiation? at failed
  split at failed
  · cases failed
    rfl
  · contradiction

def largeCode : CodeId := ⟨9223372036854775808, by decide⟩

def largeAnswer (i : Invocation) : Outcome :=
  match i.errand? with
  | some .instantiate => .exited 1 [] []
  | some (.lookup _) => printed
    "\x7b\"txhash\":\"S\",\"events\":[\x7b\"type\":\"store_code\",\"attributes\":[\x7b\"key\":\"code_id\",\"value\":\"9223372036854775808\"\x7d]\x7d]\x7d"
  | _ => launchAnswer i

def largeDaemon : Respondent Invocation fun _ => Outcome := fun _ i => largeAnswer i

theorem large_failed : ((deploy ⟨campaignDisk, operatorEnvironment, fun _ => none⟩ "campaign").run largeDaemon []).1 =
    .error ⟨[], .inl (.instantiateFailure largeCode (.plainRejection ""))⟩ := by
  rw [deploy, storing_plan]
  refine eq_of_failedInstantiation? ?_
  decide +kernel

theorem resume_hint_followed_iff_large :
    let around : Surroundings := ⟨campaignDisk, operatorEnvironment, fun _ => none⟩
    let cause : ClientFault := .plainRejection ""
    ((deploy around "campaign").run largeDaemon []).1 =
      .error ⟨[], .inl (.instantiateFailure largeCode cause)⟩ ∧
    (∃ before after, before ++ CommandFault.quote (Report.resumeLine largeCode) ++ after ∈
      Report.hints (.instantiateFailure largeCode cause)) ∧
    ∃ s document, Settings.load campaignDisk "cwdeploy.toml" = .ok s ∧
      Settings.document? campaignDisk "cwdeploy.toml" = some document ∧
      (s.resumeCodeId = .ok (some largeCode) ∨
        s.resumeCodeId = .ok none ∧ ∀ (disk : Disk) (edited : String),
          Settings.document? disk "cwdeploy.toml" = some edited →
          Toml.PutsFirst (Report.resumeLine largeCode) document edited →
          ((∃ s', Settings.load disk "cwdeploy.toml" = .ok s' ∧
                s'.resumeCodeId = .ok (some largeCode)) ↔
              largeCode.value.toNat < 2 ^ 63) ∧
            (largeCode.value.toNat < 2 ^ 63 →
              Settings.load disk "cwdeploy.toml" = .ok (s.resumedFrom largeCode)) ∧
            (2 ^ 63 ≤ largeCode.value.toNat →
              Settings.load disk "cwdeploy.toml" = .error (Settings.unreadable "cwdeploy.toml"))) :=
  ⟨large_failed, resume_hint_followed_iff ⟨campaignDisk, operatorEnvironment, fun _ => none⟩ largeDaemon "campaign" []
    largeCode _ large_failed⟩

def largeDisk : Disk := fun path =>
  if path = "cwdeploy.toml" then some (.file (asciiBytes "resume_code_id = 9223372036854775808\n"))
  else none

/-- So there is code whose hint cannot be followed. -/
theorem resume_hint_not_always_followed :
    ¬ ∀ (around : Surroundings) (daemon : Respondent Invocation fun _ => Outcome) (name : String)
      (contexts : List String) (codeId : CodeId) (cause : ClientFault) (disk : Disk)
      (document edited : String),
      ((deploy around name).run daemon []).1 =
        .error ⟨contexts, .inl (.instantiateFailure codeId cause)⟩ →
      Settings.document? around.disk (Settings.path around.environment) = some document →
      Settings.document? disk (Settings.path around.environment) = some edited →
      Toml.PutsFirst (Report.resumeLine codeId) document edited →
      ∃ s, Settings.load disk (Settings.path around.environment) = .ok s ∧
        s.resumeCodeId = .ok (some codeId) := by
  intro always
  have known : Settings.document? campaignDisk "cwdeploy.toml" = some "" := rfl
  have known' : Settings.document? largeDisk "cwdeploy.toml" =
      some "resume_code_id = 9223372036854775808\n" := by decide +kernel
  have put : Toml.PutsFirst (Report.resumeLine largeCode) ""
      "resume_code_id = 9223372036854775808\n" := by
    unfold Toml.PutsFirst
    decide +kernel
  obtain ⟨s, read, -⟩ := always ⟨campaignDisk, operatorEnvironment, fun _ => none⟩ largeDaemon "campaign" [] largeCode _
    largeDisk "" _ large_failed known known' put
  have loaded : Settings.load campaignDisk "cwdeploy.toml" = .ok .standard := rfl
  have unread := Settings.load_resumeLine loaded rfl known known' put
  rw [if_neg (by decide)] at unread
  cases unread.symm.trans read

end Setup

end ContractLaunch
