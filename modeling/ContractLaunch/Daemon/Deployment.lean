import ContractLaunch.Daemon.Keyring
import ContractLaunch.Daemon.NodeClient
import ContractLaunch.Session.Establish
import ContractLaunch.Session.Task
import ContractLaunch.Settings.Loading
/-!
Deployments through the daemon: what a session asks of chain clients and of the keyring, settled by
commands. Only one task runs at a time here, so a lock is free whenever it is asked for.
-/
namespace ContractLaunch

/-- A daemon with the settings of its transactions, and the files that it is given. -/
structure DaemonSetup where
  daemon : Daemon
  settings : TxSettings
  staging : Staging

namespace DaemonSetup

/-- The daemon of a configuration. Its keyring is in the home directory unless another is set. -/
def daemonOf (s : Settings) (env : Environment) : Except DeployFault Daemon := do
  let home ← match s.keyringHome with
    | some home => pure home
    | none => Home.keyring env
  return ⟨s.chainBinary, s.rpcEndpoint, s.chainId, s.keyringBackend, some home⟩

/-- How the transactions of a configuration are paid for and confirmed. There is at least one
attempt. -/
def txSettingsOf (s : Settings) : Except DeployFault TxSettings := do
  let price ← s.price
  return ⟨toString price, max s.confirmAttempts.toNat 1, s.confirmInterval⟩

def ofSettings (s : Settings) (env : Environment) (staging : Staging) :
    Except DeployFault DaemonSetup := do
  let daemon ← daemonOf s env
  let settings ← txSettingsOf s
  return ⟨daemon, settings, staging⟩

def clientOf (d : DaemonSetup) (account : Account) : NodeClient :=
  ⟨d.daemon, d.settings, some ⟨account.key, account.address⟩, d.staging⟩

def readOnly (d : DaemonSetup) : NodeClient := ⟨d.daemon, d.settings, none, d.staging⟩

/-- Settles what establishing a session asks: a mnemonic is imported into the keyring, and a client
needs no connection. -/
def settleIdentity (d : DaemonSetup) : (act : IdentityAct) → Commands act.Reply
  | .derive role mnemonic addressPrefix => Keyring.derive d.daemon role mnemonic.words addressPrefix
  | .connect _ => return .ok ()

def settleAct (d : DaemonSetup) (s : Session) : (act : Act) → Commands act.Reply
  | .acquire _ => return ()
  | .release _ => return ()
  | .call role c => (d.clientOf (s.account role)).call c

def establish (d : DaemonSetup) (c : Configuration) : Commands (Except DeployFault Session) :=
  (Session.establish c).run.expand d.settleIdentity

def carryOut {α : Type} (d : DaemonSetup) (s : Session) (attempt : Session.Attempt α) :
    Commands (Except DeployFault α) :=
  attempt.run.expand (d.settleAct s)

end DaemonSetup

end ContractLaunch
