/-!
The accounts of a deployment. One account deploys, another tests; each signs with its own key.
-/
namespace ContractLaunch

inductive Role where
  | deployer
  | tester
  deriving DecidableEq

def Role.name : Role → String
  | .deployer => "deployer"
  | .tester => "tester"

instance : ToString Role := ⟨Role.name⟩

structure KeyName where
  name : String
  deriving DecidableEq

/-- An address on the chain together with the key that owns it. -/
structure Account where
  role : Role
  address : String
  key : KeyName
  deriving DecidableEq

end ContractLaunch
