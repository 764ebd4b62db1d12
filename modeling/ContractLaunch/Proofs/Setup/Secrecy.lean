import ContractLaunch.Proofs.Daemon.Blinding
import ContractLaunch.Proofs.Setup.Inputs
import ContractLaunch.Proofs.Setup.Precheck
/-!
Secrecy of the mnemonics. A daemon that goes by the arguments of its commands, and an operator who
reads what a run leaves behind, cannot tell one pair of mnemonics from another: the mnemonics are in
the inputs of two commands and nowhere else.
-/
namespace ContractLaunch

open Dialogue Errand

namespace Commands

variable {Q : Type} {R : Q → Type} {settle : (q : Q) → Commands (R q)} {ε α β : Type}

theorem Alike.run_bind {d e : ExceptT ε (Dialogue Q R) α} {next other : α → ExceptT ε (Dialogue Q R) β}
    (alike : Alike (d.run.expand settle) (e.run.expand settle))
    (onward : ∀ a, Alike ((next a).run.expand settle) ((other a).run.expand settle)) :
    Alike ((d >>= next).run.expand settle) ((e >>= other).run.expand settle) := by
  rw [ExceptT.run_bind, ExceptT.run_bind, expand_bind, expand_bind]
  refine alike.bind fun result => ?_
  cases result with
  | error fault => exact .refl _
  | ok a => exact onward a

end Commands

open Commands

theorem Keyring.derive_alike (d : Daemon) (role : Role) (words others addressPrefix : String) :
    Alike (derive d role words addressPrefix) (derive d role others addressPrefix) := by
  have recovered : Alike (recover d (entry role) words) (recover d (entry role) others) := by
    refine (Alike.refl _).bind fun _ => ?_
    exact (d.runWithInput_alike _ _ _).bind fun _ => .refl _
  exact recovered.bind fun _ => .refl _

namespace DaemonSetup

variable (d : DaemonSetup) (first second : Secrets) (s : Settings)

theorem derive_expand (role : Role) (mnemonic : Mnemonic) (addressPrefix : String) :
    (Session.identify role (.derive role mnemonic addressPrefix)).run.expand d.settleIdentity = do
      let reply ← Keyring.derive d.daemon role mnemonic.words addressPrefix
      return reply.mapError (.identity role) := by
  unfold Session.identify
  rw [ExceptT.run_mk, expand_bind, expand_question]
  rfl

theorem establishKnown_alike (role : Role) (mnemonic other : Mnemonic) (addressPrefix : String) :
    Alike ((Session.establishKnown role mnemonic addressPrefix).run.expand d.settleIdentity)
      ((Session.establishKnown role other addressPrefix).run.expand d.settleIdentity) := by
  refine Alike.run_bind ?_ fun account => .refl _
  rw [derive_expand, derive_expand]
  exact (Keyring.derive_alike d.daemon role _ _ addressPrefix).bind fun reply => .refl _

theorem establishAccount_alike (role : Role) :
    Alike ((Session.establishAccount (first.configuration s) role).run.expand d.settleIdentity)
      ((Session.establishAccount (second.configuration s) role).run.expand d.settleIdentity) := by
  rw [first.establishAccount_configuration, second.establishAccount_configuration]
  exact d.establishKnown_alike role _ _ s.addressPrefix

theorem establish_alike :
    Alike (d.establish (first.configuration s)) (d.establish (second.configuration s)) := by
  refine (d.establishAccount_alike first second s .deployer).run_bind fun deployer => ?_
  exact (d.establishAccount_alike first second s .tester).run_bind fun tester => .refl _

end DaemonSetup

namespace Setup

theorem run_alike (disk : Disk) (env : Environment) (staging : Staging) (first second : Secrets)
    (blocked : Option String) (arguments : List String) :
    Alike (run ⟨disk, first.within env, staging⟩ blocked arguments)
      (run ⟨disk, second.within env, staging⟩ blocked arguments) := by
  unfold run
  cases contractName? arguments with
  | none => exact .refl _
  | some name =>
    refine Alike.bind ?_ fun _ => .refl _
    unfold deploy
    rcases plan_within disk env staging name with ⟨fault, failed⟩ | ⟨s, daemon, source, planned⟩
    · rw [failed, failed]
      exact .refl _
    · rw [planned, planned]
      exact (daemon.establish_alike first second s).bind fun _ => .refl _

section Told

def toldSurroundings (secrets : Secrets) : Surroundings :=
  ⟨campaignDisk, secrets.within untestedEnvironment, fun _ => none⟩

/-- A run against a daemon that has the same answer to every command. -/
def told (secrets : Secrets) : Finish × List CommandExchange :=
  (run (toldSurroundings secrets) none ["campaign"]).run (hearing fun _ => keyAnswer) []

end Told

end Setup

end ContractLaunch
