import ContractLaunch.Deploy.Fault
import ContractLaunch.Endpoint.Basic
import ContractLaunch.Settings.Basic
/-!
What has to hold of a configuration before a deployment starts. The checks are made in a fixed order,
and the first that fails is the fault.
-/
namespace ContractLaunch

namespace Settings

/-- The gas price in the native token: the amount as it is written, and the name of the token. -/
def price (s : Settings) : Except DeployFault GasPrice :=
  (GasPrice.parse (Text.trimmed s.gasPrice ++ s.nativeDenom)).mapError fun fault =>
    .config ("gas_price: " ++ fault.message)

def resumeCodeId (s : Settings) : Except DeployFault (Option CodeId) :=
  match s.resumeCode with
  | none => .ok none
  | some n =>
    match CodeId.ofUInt64? n with
    | some codeId => .ok (some codeId)
    | none => .error (.config "resume_code_id must be positive")

/-- Whether a text can stand in front of addresses: lower-case ASCII letters and digits, not none. -/
def isAddressPrefix (s : String) : Bool :=
  !s.isEmpty && s.toList.all fun c => c.isLower || c.isDigit

end Settings

namespace Configuration

def mnemonic (c : Configuration) (role : Role) : Except DeployFault Mnemonic :=
  let found := match role with
    | .deployer => c.deployerMnemonic
    | .tester => c.testerMnemonic
  match found with
  | some mnemonic => .ok mnemonic
  | none =>
    .error (.config (role.name ++ " mnemonic missing: set " ++ Mnemonic.variableOf role))

def sharesMnemonic (c : Configuration) : Bool :=
  match c.deployerMnemonic, c.testerMnemonic with
  | some deployer, some tester => Text.words deployer.words == Text.words tester.words
  | _, _ => false

def require (condition : Bool) (complaint : String) : Except DeployFault Unit :=
  if condition then .ok () else .error (.config complaint)

def validate (c : Configuration) : Except DeployFault Unit := do
  let s := c.settings
  require (Endpoint.read? s.rpcEndpoint).isSome ("invalid rpc_endpoint: " ++ s.rpcEndpoint)
  require (!Text.isAllBlank s.chainId) "chain_id is empty"
  require (Settings.isAddressPrefix s.addressPrefix)
    ("invalid address_prefix: " ++ Text.quoted s.addressPrefix)
  require (!Text.isAllBlank s.nativeDenom) "native_denom is empty"
  discard s.price
  require (!Text.isAllBlank s.chainBinary) "chain_binary is empty"
  require (s.confirmAttempts ≠ 0) "confirm_attempts must be positive"
  require (!Text.isAllBlank s.label) "label is empty"
  discard s.resumeCodeId
  require (!c.sharesMnemonic)
    (Mnemonic.variableOf .deployer ++ " and " ++ Mnemonic.variableOf .tester ++
      " must differ: both roles would sign from one account")

end Configuration

end ContractLaunch
