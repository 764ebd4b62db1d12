import ContractLaunch.Client.Response
import ContractLaunch.Deploy.Fault
import ContractLaunch.Timestamp
/-!
What the operator sees at the end of a deployment, and the exit status. Every line ends in a line
feed.
-/
namespace ContractLaunch

/-- The outcome of a successful deployment; the store part is missing when it resumed from code that
was stored before. -/
structure Deployment where
  store : Option StoredCode
  contract : LiveContract
  deriving DecidableEq

structure DeploymentRecord where
  deployment : Deployment
  deployedAt : Timestamp
  deriving DecidableEq

/-- A fault as it reaches the operator: the contexts that were put around it, outermost first, and
the fault itself or a text of unknown origin. -/
structure SetupFault where
  contexts : List String
  cause : DeployFault ⊕ String

namespace Report

def unlines (lines : List String) : String := String.join (lines.map (· ++ "\n"))

def gasLine (gasWanted gasUsed : UInt64) : String :=
  "  gasWanted / gasUsed: " ++ toString gasWanted ++ " / " ++ toString gasUsed

def success (d : Deployment) : String :=
  let store := match d.store with
    | some stored =>
      ["1. Stored source code",
        "  transactionHash: " ++ stored.hash,
        "  codeId: " ++ toString stored.codeId,
        gasLine stored.gasWanted stored.gasUsed]
    | none => ["1. Reused stored code"]
  unlines (store ++
    ["2. Instantiated contract",
      "  transactionHash: " ++ d.contract.hash,
      "  contractAddress: " ++ d.contract.address,
      gasLine d.contract.gasWanted d.contract.gasUsed,
      "Contract setup completed!"])

/-- The fault and its causes in one line, outermost first. -/
def chain (f : SetupFault) : String :=
  let wordings := match f.cause with
    | .inl fault => fault.message :: fault.causes
    | .inr text => [text]
  ": ".intercalate (f.contexts ++ wordings)

def headline (fault : DeployFault) : String :=
  match fault.step? with
  | some step =>
    "Step " ++ toString step.number ++ " (" ++ step.name ++ ") failed [" ++ fault.kind.name ++ "]"
  | none => "Setup failed [" ++ fault.kind.name ++ "]"

def hints (fault : DeployFault) : List String :=
  let resume := match fault.storedCodeId? with
    | some codeId =>
      ["  Code " ++ toString codeId ++ " is already on chain. Set `resume_code_id = " ++
        toString codeId ++ "` to retry instantiation without uploading again."]
    | none => []
  let refused :=
    if (fault.clientFault?.map ClientFault.isSdkRejection).getD false then
      ["  The chain refused the transaction before the contract ran (fee, gas or account sequence)."]
    else []
  let pending :=
    if fault.kind = .transport then
      ["  The transaction may still land. Check chain state before running again."]
    else []
  resume ++ refused ++ pending

def failure (f : SetupFault) : String :=
  match f.cause with
  | .inl fault => unlines (headline fault :: ("  " ++ chain f) :: hints fault)
  | .inr _ => unlines ["Contract setup failed: " ++ chain f]

def exitStatus {ε α : Type} : Except ε α → UInt8
  | .ok _ => 0
  | .error _ => 1

end Report

end ContractLaunch
