import ContractLaunch.Artifact
import ContractLaunch.Daemon.Deployment
import ContractLaunch.Deploy.Report
/-!
A whole contract setup: from the command line to the report. Everything local is checked before the
first command is given, and a run that fails says which step failed.
-/
namespace ContractLaunch

namespace Setup

def usage : String := "Usage: contract-setup <wasm_contract_name>"

/-- The name of the contract: the only argument, and not blank. -/
def contractName? : List String → Option String
  | [name] => if Text.isAllBlank name then none else some name
  | _ => none

structure Surroundings where
  disk : Disk
  environment : Environment
  staging : Staging

/-- A deployment that is ready to start: its configuration, and the code to resume from or the
bytecode to store. -/
structure Plan where
  configuration : Configuration
  daemon : DaemonSetup
  source : CodeId ⊕ Bytes

def fault (cause : DeployFault) : SetupFault := ⟨[], .inl cause⟩

/-- Reads and checks everything local. A deployment that resumes needs no artifact. -/
def plan (around : Surroundings) (name : String) : Except SetupFault Plan := do
  let c ← (Configuration.ofEnvironment around.disk around.environment).mapError fun cause =>
    ⟨["loading configuration"], .inl cause⟩
  let resume ← c.settings.resumeCodeId.mapError fault
  let source ← match resume with
    | some codeId => pure (.inl codeId)
    | none =>
      let loaded := Artifact.load around.disk c.settings.artifactsDir name
      (loaded.mapError fun cause => fault (.artifact cause)).map .inr
  let daemon ←
    (DaemonSetup.ofSettings c.settings around.environment around.staging).mapError fault
  return ⟨c, daemon, source⟩

def attempt (p : Plan) (s : Session) : Session.Attempt Deployment :=
  let message := p.configuration.settings.instantiateMessage
  match p.source with
  | .inl codeId => s.resume codeId message
  | .inr bytecode => s.deploy bytecode message

def carryOut (p : Plan) : Commands (Except SetupFault Deployment) := do
  match ← p.daemon.establish p.configuration with
  | .error cause => return .error (fault cause)
  | .ok session =>
    let outcome ← p.daemon.carryOut session (attempt p session)
    return outcome.mapError fault

def deploy (around : Surroundings) (name : String) : Commands (Except SetupFault Deployment) :=
  match plan around name with
  | .error fault => return .error fault
  | .ok p => carryOut p

structure Finish where
  status : UInt8
  output : String
  complaints : String

def report (outcome : Except SetupFault Deployment) : Finish :=
  let status := Report.exitStatus outcome
  match outcome with
  | .ok deployment => ⟨status, Report.success deployment, ""⟩
  | .error fault => ⟨status, "", Report.failure fault⟩

def logWarning (reason : String) : String := "warning: file logging disabled: " ++ reason ++ "\n"

/-- A run with the arguments of a command line. `blocked` tells why no log can be written, if none
can; a deployment does without it. -/
def run (around : Surroundings) (blocked : Option String) (arguments : List String) :
    Commands Finish :=
  match contractName? arguments with
  | none => return ⟨1, usage ++ "\n", ""⟩
  | some name => do
    let finish := report (← deploy around name)
    let warning := (blocked.map logWarning).getD ""
    return { finish with complaints := warning ++ finish.complaints }

end Setup

end ContractLaunch
