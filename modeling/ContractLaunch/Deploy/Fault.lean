import ContractLaunch.Account
import ContractLaunch.Artifact
import ContractLaunch.Client.Fault
import ContractLaunch.Fee
import ContractLaunch.CodeId
/-!
The faults that end a deployment. Each belongs to at most one of the four remote steps and to one
kind, by which an operator can tell what to do.
-/
namespace ContractLaunch

inductive RemoteStep where
  | storeCode
  | instantiate
  | execute
  | query
  deriving DecidableEq

namespace RemoteStep

def number : RemoteStep → Nat
  | .storeCode => 1
  | .instantiate => 2
  | .execute => 3
  | .query => 4

def name : RemoteStep → String
  | .storeCode => "store code"
  | .instantiate => "instantiate"
  | .execute => "execute"
  | .query => "query"

end RemoteStep

inductive FaultKind where
  | config
  | transport
  | signature
  | chainRejection
  | contractRejected
  | invalidResponse
  deriving DecidableEq

def FaultKind.name : FaultKind → String
  | .config => "ConfigError"
  | .transport => "TransportFailure"
  | .signature => "SignatureFailure"
  | .chainRejection => "ChainRejection"
  | .contractRejected => "ContractRejected"
  | .invalidResponse => "InvalidResponse"

def ClientFault.kind : ClientFault → FaultKind
  | .transport _ => .transport
  | .signature _ => .signature
  | .rejected .. => .chainRejection

inductive DeployFault where
  | config (text : String)
  | artifact (fault : ArtifactFault)
  | fee (fault : FeeFault)
  | identity (role : Role) (cause : ClientFault)
  | storeFailure (cause : ClientFault)
  | instantiateFailure (codeId : CodeId) (cause : ClientFault)
  | executeFailure (contract : String) (cause : ClientFault)
  | contractRejected (contract : String) (message : String)
  | queryFailure (contract : String) (cause : ClientFault)
  | invalidResponse (step : RemoteStep) (detail : String)
  deriving DecidableEq

namespace DeployFault

def message : DeployFault → String
  | .config text => "configuration error: " ++ text
  | .artifact fault => fault.message
  | .fee fault => fault.message
  | .identity role cause => "could not establish " ++ role.name ++ " identity: " ++ cause.message
  | .storeFailure cause => "store code failed: " ++ cause.message
  | .instantiateFailure codeId cause =>
    "instantiate of code " ++ toString codeId ++ " failed: " ++ cause.message
  | .executeFailure contract cause => "execute on " ++ contract ++ " failed: " ++ cause.message
  | .contractRejected contract message =>
    "contract " ++ contract ++ " rejected the message: " ++ message
  | .queryFailure contract cause => "query on " ++ contract ++ " failed: " ++ cause.message
  | .invalidResponse step detail => step.name ++ " returned an invalid response: " ++ detail

def step? : DeployFault → Option RemoteStep
  | .storeFailure _ => some .storeCode
  | .instantiateFailure .. => some .instantiate
  | .executeFailure .. | .contractRejected .. => some .execute
  | .queryFailure .. => some .query
  | .invalidResponse step _ => some step
  | .config _ | .artifact _ | .fee _ | .identity .. => none

def clientFault? : DeployFault → Option ClientFault
  | .identity _ cause | .storeFailure cause | .instantiateFailure _ cause
  | .executeFailure _ cause | .queryFailure _ cause => some cause
  | _ => none

def kind : DeployFault → FaultKind
  | .config _ | .artifact _ | .fee _ => .config
  | .identity _ cause | .storeFailure cause | .instantiateFailure _ cause
  | .executeFailure _ cause | .queryFailure _ cause => cause.kind
  | .contractRejected .. => .contractRejected
  | .invalidResponse .. => .invalidResponse

/-- The code id that is on the chain already when instantiation failed. -/
def storedCodeId? : DeployFault → Option CodeId
  | .instantiateFailure codeId _ => some codeId
  | _ => none

/-- The wordings of the causes below a fault, outermost first. Only an unreadable artifact has one
that its own wording does not replace. -/
def causes : DeployFault → List String
  | .artifact (.unreadable _ cause) => [cause]
  | _ => []

end DeployFault

end ContractLaunch
