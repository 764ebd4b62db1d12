import ContractLaunch.Setup
/-!
What a plan rests on: a configuration that passed its checks, and either the code id that it names or
the bytes of the artifact.
-/
namespace ContractLaunch

section Except

variable {ε ε' α β : Type}

theorem except_bind_ok {first : Except ε α} {next : α → Except ε β} {b : β}
    (ok : (first >>= next) = .ok b) : ∃ a, first = .ok a ∧ next a = .ok b := by
  cases first with
  | error e => contradiction
  | ok a => exact ⟨a, rfl, ok⟩

theorem except_mapError_ok {value : Except ε α} {f : ε → ε'} {a : α}
    (ok : value.mapError f = .ok a) : value = .ok a := by
  cases value with
  | error e => contradiction
  | ok b => exact congrArg Except.ok (Except.ok.inj ok)

theorem except_map_ok {value : Except ε α} {f : α → β} {b : β} (ok : value.map f = .ok b) :
    ∃ a, value = .ok a ∧ f a = b := by
  cases value with
  | error e => contradiction
  | ok a => exact ⟨a, rfl, Except.ok.inj ok⟩

end Except

theorem Configuration.of_require {condition : Bool} {complaint : String} {u : Unit}
    (ok : Configuration.require condition complaint = .ok u) : condition = true := by
  unfold Configuration.require at ok
  split at ok
  next holds => exact holds
  next => contradiction

theorem Configuration.confirmAttempts_pos {c : Configuration} (valid : c.validate = .ok ()) :
    0 < c.settings.confirmAttempts.toNat := by
  obtain ⟨_, -, valid⟩ := except_bind_ok valid
  obtain ⟨_, -, valid⟩ := except_bind_ok valid
  obtain ⟨_, -, valid⟩ := except_bind_ok valid
  obtain ⟨_, -, valid⟩ := except_bind_ok valid
  obtain ⟨_, -, valid⟩ := except_bind_ok valid
  obtain ⟨_, -, valid⟩ := except_bind_ok valid
  obtain ⟨_, attempts, -⟩ := except_bind_ok valid
  have nonzero := of_decide_eq_true (Configuration.of_require attempts)
  exact Nat.pos_of_ne_zero fun zero => nonzero (UInt32.toNat_inj.mp zero)

theorem Configuration.valid_of_environment {disk : Disk} {env : Environment} {c : Configuration}
    (ok : Configuration.ofEnvironment disk env = .ok c) : c.validate = .ok () := by
  obtain ⟨settings, -, rest⟩ := except_bind_ok ok
  obtain ⟨_, valid, made⟩ := except_bind_ok rest
  obtain rfl := Except.ok.inj made
  exact valid

theorem Settings.resumeCodeId_ok {s : Settings} {codeId? : Option CodeId}
    (ok : s.resumeCodeId = .ok codeId?) : s.resumeCode = codeId?.map CodeId.value := by
  unfold Settings.resumeCodeId at ok
  split at ok
  next unset =>
    obtain rfl := Except.ok.inj ok
    exact unset
  next n set =>
    split at ok
    next codeId positive =>
      obtain rfl := Except.ok.inj ok
      unfold CodeId.ofUInt64? at positive
      split at positive
      next => rw [set, ← Option.some.inj positive, Option.map_some]
      next => contradiction
    next => contradiction

theorem Artifact.load_ok {disk : Disk} {root name : String} {bytes : Bytes}
    (ok : Artifact.load disk root name = .ok bytes) :
    ∃ path, Artifact.path root name = .ok path ∧ disk path = some (.file bytes) := by
  obtain ⟨path, leads, loaded⟩ := except_bind_ok ok
  refine ⟨path, leads, ?_⟩
  split at loaded
  next found file =>
    split at loaded
    next => rw [file, Except.ok.inj loaded]
    next => contradiction
  all_goals contradiction

namespace Setup

theorem parts_of_ofSettings {s : Settings} {env : Environment} {staging : Staging}
    {d : DaemonSetup} (ok : DaemonSetup.ofSettings s env staging = .ok d) :
    d.settings.confirmAttempts = max s.confirmAttempts.toNat 1 ∧ d.staging = staging := by
  obtain ⟨daemon, -, rest⟩ := except_bind_ok ok
  obtain ⟨settings, settled, made⟩ := except_bind_ok rest
  obtain rfl := Except.ok.inj made
  obtain ⟨price, -, settings_eq⟩ := except_bind_ok settled
  obtain rfl := Except.ok.inj settings_eq
  exact ⟨rfl, rfl⟩

def Sourced (around : Surroundings) (name : String) (s : Settings) : CodeId ⊕ Bytes → Prop
  | .inl codeId => s.resumeCode = some codeId.value
  | .inr bytecode =>
    s.resumeCode = none ∧
      ∃ path, Artifact.path s.artifactsDir name = .ok path ∧
        around.disk path = some (.file bytecode)

structure Grounded (around : Surroundings) (name : String) (p : Plan) : Prop where
  configured : Configuration.ofEnvironment around.disk around.environment = .ok p.configuration
  attempts : p.daemon.settings.confirmAttempts = p.configuration.settings.confirmAttempts.toNat
  positive : 0 < p.daemon.settings.confirmAttempts
  staged : p.daemon.staging = around.staging
  sourced : Sourced around name p.configuration.settings p.source

theorem plan_grounded {around : Surroundings} {name : String} {p : Plan}
    (planned : plan around name = .ok p) : Grounded around name p := by
  obtain ⟨c, loading, planned⟩ := except_bind_ok planned
  obtain ⟨resume, resuming, planned⟩ := except_bind_ok planned
  have configured := except_mapError_ok loading
  have code := Settings.resumeCodeId_ok (except_mapError_ok resuming)
  have positive := Configuration.confirmAttempts_pos (Configuration.valid_of_environment configured)
  have settled : ∃ source, Sourced around name c.settings source ∧
      ((DaemonSetup.ofSettings c.settings around.environment around.staging).mapError fault >>=
        fun daemon => pure ⟨c, daemon, source⟩) = Except.ok p := by
    cases resume with
    | some codeId => exact ⟨.inl codeId, code, planned⟩
    | none =>
      obtain ⟨source, sourcing, planned⟩ := except_bind_ok planned
      obtain ⟨bytes, loaded, rfl⟩ := except_map_ok sourcing
      exact ⟨.inr bytes, ⟨code, Artifact.load_ok (except_mapError_ok loaded)⟩, planned⟩
  obtain ⟨source, sourced, planned⟩ := settled
  obtain ⟨daemon, settling, planned⟩ := except_bind_ok planned
  obtain rfl := Except.ok.inj planned
  obtain ⟨tried, staged⟩ := parts_of_ofSettings (except_mapError_ok settling)
  have attempts : daemon.settings.confirmAttempts = c.settings.confirmAttempts.toNat :=
    tried.trans (Nat.max_eq_left positive)
  exact ⟨configured, attempts, attempts ▸ positive, staged, sourced⟩

def sourceOf (disk : Disk) (s : Settings) (name : String) : Except SetupFault (CodeId ⊕ Bytes) := do
  match ← s.resumeCodeId.mapError fault with
  | some codeId => return .inl codeId
  | none =>
    let loaded := Artifact.load disk s.artifactsDir name
    (loaded.mapError fun cause => fault (.artifact cause)).map .inr

theorem plan_eq (around : Surroundings) (name : String) : plan around name = do
    let c ← (Configuration.ofEnvironment around.disk around.environment).mapError fun cause =>
      ⟨["loading configuration"], .inl cause⟩
    let source ← sourceOf around.disk c.settings name
    let daemon ←
      (DaemonSetup.ofSettings c.settings around.environment around.staging).mapError fault
    return ⟨c, daemon, source⟩ := by
  unfold plan
  refine congrArg _ (funext fun c => ?_)
  unfold sourceOf
  cases c.settings.resumeCodeId with
  | error cause => rfl
  | ok resume => cases resume <;> rfl

theorem plan_of_parts {around : Surroundings} {name : String} {s : Settings} {source : CodeId ⊕ Bytes}
    {daemon : DaemonSetup}
    (loaded : Settings.load around.disk (Settings.path around.environment) = .ok s)
    (valid : (s.withMnemonics around.environment).validate = .ok ())
    (sourced : sourceOf around.disk s name = .ok source)
    (settled : DaemonSetup.ofSettings s around.environment around.staging = .ok daemon) :
    plan around name = .ok ⟨s.withMnemonics around.environment, daemon, source⟩ := by
  have configured : Configuration.ofEnvironment around.disk around.environment =
      .ok (s.withMnemonics around.environment) := by
    unfold Configuration.ofEnvironment
    rw [loaded]
    change ((s.withMnemonics around.environment).validate >>= fun _ => pure _) = _
    rw [valid]
    rfl
  rw [plan_eq, configured]
  change (sourceOf around.disk s name >>= fun source =>
    (DaemonSetup.ofSettings s around.environment around.staging).mapError fault >>=
      fun daemon => pure _) = _
  rw [sourced, settled]
  rfl

theorem plan_parts {around : Surroundings} {name : String} {p : Plan} (planned : plan around name = .ok p) :
    ∃ s source daemon, Settings.load around.disk (Settings.path around.environment) = .ok s ∧
      (s.withMnemonics around.environment).validate = .ok () ∧
      sourceOf around.disk s name = .ok source ∧
      DaemonSetup.ofSettings s around.environment around.staging = .ok daemon ∧
      p = ⟨s.withMnemonics around.environment, daemon, source⟩ := by
  rw [plan_eq] at planned
  obtain ⟨c, loading, planned⟩ := except_bind_ok planned
  obtain ⟨source, sourced, planned⟩ := except_bind_ok planned
  obtain ⟨daemon, settling, made⟩ := except_bind_ok planned
  obtain rfl := Except.ok.inj made
  obtain ⟨s, loaded, checking⟩ := except_bind_ok (except_mapError_ok loading)
  obtain ⟨_, valid, configured⟩ := except_bind_ok checking
  obtain rfl := Except.ok.inj configured
  exact ⟨s, source, daemon, loaded, valid, sourced, except_mapError_ok settling, rfl⟩

end Setup

end ContractLaunch
