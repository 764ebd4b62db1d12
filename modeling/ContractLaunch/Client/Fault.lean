/-!
What can go wrong between the deployment and the chain.
-/
namespace ContractLaunch

inductive ClientFault where
  /-- The node could not be reached, or its answer could not be read. -/
  | transport (text : String)
  /-- The signing key is missing or could not sign. -/
  | signature (text : String)
  /-- The chain refused a transaction or query; the codespace and code are known in part. -/
  | rejected (codespace : Option String) (code : Option UInt32) (log : String)
  deriving DecidableEq

namespace ClientFault

/-- The codespace of refusals on the chain's own rules: fees, gas and account sequence. -/
def sdkCodespace : String := "sdk"

def plainRejection (log : String) : ClientFault := .rejected none none log

def sdkRejection (code : UInt32) (log : String) : ClientFault :=
  .rejected (some sdkCodespace) (some code) log

def isSdkRejection : ClientFault → Bool
  | .rejected (some codespace) _ _ => codespace == sdkCodespace
  | _ => false

def message : ClientFault → String
  | .transport text => "transport failure: " ++ text
  | .signature text => "signature failure: " ++ text
  | .rejected _ _ log => "chain rejection: " ++ log

end ClientFault

end ContractLaunch
