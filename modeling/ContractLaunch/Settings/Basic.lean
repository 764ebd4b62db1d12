import ContractLaunch.Account
import ContractLaunch.Json.Basic
import ContractLaunch.Text.Blank
/-!
What an operator can set for a deployment, and the value of each setting that is left out. The
mnemonics of the two accounts are not settings: they come from the environment only, and are never
written anywhere.
-/
namespace ContractLaunch

structure Settings where
  rpcEndpoint : String
  chainId : String
  /-- What addresses on the chain start with, up to the digit one. -/
  addressPrefix : String
  nativeDenom : String
  /-- The amount of the native token for a unit of gas, as it is written. -/
  gasPrice : String
  chainBinary : String
  keyringBackend : String
  keyringHome : Option String
  confirmAttempts : UInt32
  /-- The seconds between two looks. -/
  confirmInterval : UInt64
  artifactsDir : String
  label : String
  instantiateMessage : Json
  /-- Code on the chain to instantiate instead of uploading. -/
  resumeCode : Option UInt64

namespace Settings

def standard : Settings where
  rpcEndpoint := "http://localhost:26657"
  chainId := "localwasm"
  addressPrefix := "wasm"
  nativeDenom := "ustake"
  gasPrice := "0.025"
  chainBinary := "wasmd"
  keyringBackend := "test"
  keyringHome := none
  confirmAttempts := 30
  confirmInterval := 1
  artifactsDir := "artifacts"
  label := "instantiation contract"
  instantiateMessage := .empty
  resumeCode := none

instance : Inhabited Settings := ⟨standard⟩

end Settings

structure Mnemonic where
  words : String
  deriving DecidableEq

/-- A mnemonic shows as stars, so that no message can hold its words. -/
instance : ToString Mnemonic := ⟨fun _ => "Secret(***)"⟩

/-- The settings of a deployment, together with the mnemonics of its accounts where they are
known. -/
structure Configuration where
  settings : Settings
  deployerMnemonic : Option Mnemonic
  testerMnemonic : Option Mnemonic

abbrev Environment := String → Option String

namespace Mnemonic

def variableOf : Role → String
  | .deployer => "CWDEPLOY_DEPLOYER_MNEMONIC"
  | .tester => "CWDEPLOY_TESTER_MNEMONIC"

/-- The mnemonic of an account in an environment, without blanks around it. A blank one counts as
missing. -/
def find? (env : Environment) (role : Role) : Option Mnemonic :=
  (((env (variableOf role)).map Text.trimmed).filter (!·.isEmpty)).map (⟨·⟩)

end Mnemonic

def Settings.withMnemonics (s : Settings) (env : Environment) : Configuration :=
  ⟨s, Mnemonic.find? env .deployer, Mnemonic.find? env .tester⟩

end ContractLaunch
