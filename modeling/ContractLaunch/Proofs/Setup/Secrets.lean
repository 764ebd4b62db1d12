import ContractLaunch.Proofs.Setup.Ground
import ContractLaunch.Proofs.Text.Trimming
/-!
The mnemonics as secrets. Whatever they are, the same environment otherwise leads to the same fault,
or to a plan that is the same but for the mnemonics in its configuration.
-/
namespace ContractLaunch

def Session.establishKnown (role : Role) (mnemonic : Mnemonic) (addressPrefix : String) :
    Session.Establishing Account := do
  let account ← identify role (.derive role mnemonic addressPrefix)
  identify role (.connect account)
  return account

/-- What the variables of the two mnemonics may hold: neither text is blank, and they do not have the
same words. -/
structure Secrets where
  text : Role → String
  filled : ∀ role, Text.isAllBlank (text role) = false
  apart : Text.words (text .deployer) ≠ Text.words (text .tester)

namespace Secrets

variable (secrets : Secrets) (disk : Disk) (env : Environment) (staging : Staging) (s : Settings)

def mnemonic (role : Role) : Mnemonic := ⟨Text.trimmed (secrets.text role)⟩

def within : Environment := fun name =>
  if name = Mnemonic.variableOf .deployer then some (secrets.text .deployer)
  else if name = Mnemonic.variableOf .tester then some (secrets.text .tester)
  else env name

def configuration : Configuration :=
  ⟨s, some (secrets.mnemonic .deployer), some (secrets.mnemonic .tester)⟩

theorem within_variableOf (role : Role) :
    secrets.within env (Mnemonic.variableOf role) = some (secrets.text role) := by
  cases role <;> simp [within, Mnemonic.variableOf]

theorem within_of_ne {name : String} (other : ∀ role, name ≠ Mnemonic.variableOf role) :
    secrets.within env name = env name := by
  unfold within
  rw [if_neg (other .deployer), if_neg (other .tester)]

theorem find?_within (role : Role) :
    Mnemonic.find? (secrets.within env) role = some (secrets.mnemonic role) := by
  have kept : (!(Text.trimmed (secrets.text role)).isEmpty) = true := by
    rw [Text.isEmpty_trimmed, secrets.filled]
    rfl
  unfold Mnemonic.find?
  rw [within_variableOf, Option.map_some, Option.filter_some, if_pos kept]
  rfl

theorem withMnemonics_within : s.withMnemonics (secrets.within env) = secrets.configuration s := by
  unfold Settings.withMnemonics
  rw [find?_within, find?_within]
  rfl

theorem mnemonic_configuration (role : Role) :
    (secrets.configuration s).mnemonic role = .ok (secrets.mnemonic role) := by
  cases role <;> rfl

theorem establishAccount_configuration (role : Role) :
    Session.establishAccount (secrets.configuration s) role =
      Session.establishKnown role (secrets.mnemonic role) s.addressPrefix := by
  unfold Session.establishAccount
  rw [mnemonic_configuration]
  rfl

theorem validate_configuration :
    (secrets.configuration s).validate = (Configuration.mk s none none).validate := by
  have apart : (secrets.configuration s).sharesMnemonic = false := by
    refine beq_eq_false_iff_ne.mpr ?_
    unfold mnemonic
    rw [Text.words_trimmed, Text.words_trimmed]
    exact secrets.apart
  unfold Configuration.validate
  rw [apart]
  rfl

theorem ofEnvironment_within :
    (∃ fault, ∀ secrets : Secrets,
        Configuration.ofEnvironment disk (secrets.within env) = .error fault) ∨
      ∃ s, ∀ secrets : Secrets,
        Configuration.ofEnvironment disk (secrets.within env) = .ok (secrets.configuration s) := by
  have checked : ∀ secrets : Secrets, Configuration.ofEnvironment disk (secrets.within env) = do
      let s ← Settings.load disk (Settings.path env)
      (Configuration.mk s none none).validate
      return secrets.configuration s := by
    intro secrets
    unfold Configuration.ofEnvironment Settings.path
    rw [within_of_ne secrets env fun role => by cases role <;> decide]
    simp only [withMnemonics_within, validate_configuration]
  cases loaded : Settings.load disk (Settings.path env) with
  | error fault => exact .inl ⟨fault, fun secrets => by rw [checked, loaded]; rfl⟩
  | ok s =>
    have validated : ∀ secrets : Secrets, Configuration.ofEnvironment disk (secrets.within env) = do
        (Configuration.mk s none none).validate
        return secrets.configuration s := fun secrets => by rw [checked, loaded]; rfl
    cases valid : (Configuration.mk s none none).validate with
    | error fault => exact .inl ⟨fault, fun secrets => by rw [validated, valid]; rfl⟩
    | ok => exact .inr ⟨s, fun secrets => by rw [validated, valid]; rfl⟩

theorem ofSettings_within :
    DaemonSetup.ofSettings s (secrets.within env) staging = DaemonSetup.ofSettings s env staging := by
  have home : Home.base (secrets.within env) = Home.base env := by
    unfold Home.base
    rw [within_of_ne secrets env fun role => by cases role <;> decide]
  unfold DaemonSetup.ofSettings DaemonSetup.daemonOf Home.keyring
  rw [home]

end Secrets

namespace Setup

/-- What is planned does not depend on the secrets, except where it holds them. -/
theorem plan_within (disk : Disk) (env : Environment) (staging : Staging) (name : String) :
    (∃ fault, ∀ secrets : Secrets, plan ⟨disk, secrets.within env, staging⟩ name = .error fault) ∨
      ∃ s daemon source, ∀ secrets : Secrets,
        plan ⟨disk, secrets.within env, staging⟩ name = .ok ⟨secrets.configuration s, daemon, source⟩ := by
  rcases Secrets.ofEnvironment_within disk env with ⟨fault, failed⟩ | ⟨s, loaded⟩
  · exact .inl ⟨_, fun secrets => by rw [plan_eq, failed]; rfl⟩
  have planned : ∀ secrets : Secrets, plan ⟨disk, secrets.within env, staging⟩ name = do
      let source ← sourceOf disk s name
      let daemon ← (DaemonSetup.ofSettings s env staging).mapError fault
      return ⟨secrets.configuration s, daemon, source⟩ := by
    intro secrets
    rw [plan_eq, loaded, ← secrets.ofSettings_within]
    rfl
  cases sourced : sourceOf disk s name with
  | error fault => exact .inl ⟨fault, fun secrets => by rw [planned, sourced]; rfl⟩
  | ok source =>
    have supplied : ∀ secrets : Secrets, plan ⟨disk, secrets.within env, staging⟩ name = do
        let daemon ← (DaemonSetup.ofSettings s env staging).mapError fault
        return ⟨secrets.configuration s, daemon, source⟩ := fun secrets => by rw [planned, sourced]; rfl
    cases settled : (DaemonSetup.ofSettings s env staging).mapError fault with
    | error fault => exact .inl ⟨fault, fun secrets => by rw [supplied, settled]; rfl⟩
    | ok daemon => exact .inr ⟨s, daemon, source, fun secrets => by rw [supplied, settled]; rfl⟩

end Setup

end ContractLaunch
