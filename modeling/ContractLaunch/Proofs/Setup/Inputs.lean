import ContractLaunch.Proofs.Daemon.Signing
import ContractLaunch.Proofs.Setup.Secrets
import ContractLaunch.Proofs.Setup.Sequence
/-!
The inputs of commands. Of all commands in a setup, only those that put the keys of the two accounts
into the keyring have an input: the mnemonic of the account in one line.
-/
namespace ContractLaunch

open Dialogue Errand

/-- A command without input that puts no key into the keyring. -/
structure Invocation.Silent (i : Invocation) : Prop where
  input : i.input = ""
  errand : ∀ entry, i.errand? ≠ some (.addKey entry)

namespace NodeClient

variable {client : NodeClient}

end NodeClient

/-- A command with no other input than the mnemonic of an account, for the entry of that account. -/
inductive Secrets.Tells (secrets : Secrets) (i : Invocation) : Prop
  | nothing (silent : i.Silent)
  | mnemonic (role : Role) (errand : i.errand? = some (.addKey (Keyring.entry role).name))
      (recovers : i.arguments[3]? = some (.text "--recover"))
      (input : i.input = Text.trimmed (secrets.text role) ++ "\n")

variable {secrets : Secrets}

namespace DaemonSetup

def Holds (secrets : Secrets) : IdentityAct → Prop
  | .derive role mnemonic _ => mnemonic = secrets.mnemonic role
  | .connect _ => True

end DaemonSetup

namespace Setup

end Setup

end ContractLaunch
