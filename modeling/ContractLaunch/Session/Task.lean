import ContractLaunch.Deploy.Report
import ContractLaunch.Deploy.Validation
import ContractLaunch.Session.Basic
/-!
The tasks of a session: the four remote steps, and the two sequences that end in a live contract. A
sequence goes on only with what the step before has produced and validation has accepted; a fault
ends it, and nothing is tried twice.
-/
namespace ContractLaunch.Session

abbrev Attempt (α : Type) := ExceptT DeployFault (Dialogue Act Act.Reply) α

def signedOr (fault : ClientFault → DeployFault) (role : Role) (c : ClientCall) :
    Attempt c.Answer :=
  ExceptT.mk do
    let reply ← signed role c
    return reply.mapError fault

def storeCode (s : Session) (bytecode : Bytes) : Attempt StoredCode := do
  let fee ← (Fee.compute Fee.uploadGasLimit s.gasPrice).mapError DeployFault.fee
  let response ←
    signedOr .storeFailure .deployer (.upload s.deployer.address bytecode fee s.uploadMemo)
  response.validate

def instantiate (s : Session) (codeId : CodeId) (message : Json) : Attempt LiveContract := do
  let response ←
    signedOr (.instantiateFailure codeId) .deployer
      (.instantiate s.deployer.address codeId message s.label .auto)
  response.validate

def attachedFunds (funds : Option Coin) : List Coin := funds.toList.filter (!·.isZero)

/-- What a failed execute means. A refusal is the contract's own unless its codespace is that of the
chain's own rules. -/
def executeFault (contract : String) (cause : ClientFault) : DeployFault :=
  match cause with
  | .rejected codespace _ log =>
    if codespace ≠ some ClientFault.sdkCodespace then .contractRejected contract log
    else .executeFailure contract cause
  | _ => .executeFailure contract cause

def execute (s : Session) (role : Role) (contract : String) (message : Json)
    (funds : Option Coin) : Attempt Receipt :=
  signedOr (executeFault contract) role
    (.execute (s.account role).address contract message .auto s.executeMemo (attachedFunds funds))

/-- Asks a contract a question through the client of an account; no signature, no lock. -/
def query (role : Role) (contract : String) (message : Json) : Attempt Json :=
  ExceptT.mk do
    let reply ← Dialogue.question (R := Act.Reply) (Act.call role (.query contract message))
    return reply.mapError (.queryFailure contract)

def deploy (s : Session) (bytecode : Bytes) (message : Json) : Attempt Deployment := do
  let stored ← storeCode s bytecode
  let contract ← instantiate s stored.codeId message
  return ⟨some stored, contract⟩

def resume (s : Session) (codeId : CodeId) (message : Json) : Attempt Deployment := do
  let contract ← instantiate s codeId message
  return ⟨none, contract⟩

inductive Task where
  | storeCode (bytecode : Bytes)
  | instantiate (codeId : CodeId) (message : Json)
  | deploy (bytecode : Bytes) (message : Json)
  | resume (codeId : CodeId) (message : Json)
  | execute (role : Role) (contract : String) (message : Json) (funds : Option Coin)
  | query (role : Role) (contract : String) (message : Json)

inductive TaskResult where
  | stored (code : StoredCode)
  | instantiated (contract : LiveContract)
  | deployed (deployment : Deployment)
  | executed (receipt : Receipt)
  | answered (payload : Json)

namespace Task

def attempt (s : Session) : Task → Attempt TaskResult
  | storeCode bytecode => .stored <$> s.storeCode bytecode
  | instantiate codeId message => .instantiated <$> s.instantiate codeId message
  | deploy bytecode message => .deployed <$> s.deploy bytecode message
  | resume codeId message => .deployed <$> s.resume codeId message
  | execute role contract message funds => .executed <$> s.execute role contract message funds
  | query role contract message => .answered <$> Session.query role contract message

def callLimit : Task → Nat
  | deploy .. => 2
  | _ => 1

end Task

end ContractLaunch.Session
