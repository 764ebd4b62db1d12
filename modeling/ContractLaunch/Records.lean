import ContractLaunch.Deploy.Report
import ContractLaunch.Json.Form
/-!
The JSON forms of the values that deployments exchange and keep. Members are written in the order in
which the fields are declared, and amounts of 128 bits are read exactly.
-/
namespace ContractLaunch

open Json

def Amount.ofTerm? : Reader Amount := fun t =>
  (t.natBelow? Amount.size).map Amount.wrap

instance : JsonForm Amount := ⟨fun a => .ofNat a.val, Amount.ofTerm?⟩

instance : JsonForm CodeId :=
  ⟨fun id => .ofNat id.value.toNat, fun t => t.uint64?.bind CodeId.ofUInt64?⟩

instance : JsonForm Coin where
  write c := .object [("denom", .text c.denom), ("amount", JsonForm.write c.amount)]
  read t := do
    let r ← Record.ofTerm? ["denom", "amount"] t
    return ⟨← r.required "denom" Term.text?, ← r.required "amount" JsonForm.read⟩

instance : JsonForm Fee where
  write f :=
    .object [("gas_limit", JsonForm.write f.gasLimit), ("amount", JsonForm.write f.amount)]
  read t := do
    let r ← Record.ofTerm? ["gas_limit", "amount"] t
    return ⟨← r.required "gas_limit" Term.uint64?, ← r.required "amount" JsonForm.read⟩

instance : JsonForm FeeSelection where
  write
    | .fixed fee => .object [("Fixed", JsonForm.write fee)]
    | .auto => .text "Auto"
  read t := do
    match ← t.variant? with
    | ("Fixed", some content) => return .fixed (← JsonForm.read content)
    | ("Auto", content) => if Term.isUnit content then some .auto else none
    | _ => none

instance : JsonForm StoreResponse where
  write r := .object [
    ("transaction_hash", .text r.hash), ("code_id", .ofOption .text r.codeId),
    ("gas_wanted", JsonForm.write r.gasWanted), ("gas_used", JsonForm.write r.gasUsed)]
  read t := do
    let r ← Record.ofTerm? ["transaction_hash", "code_id", "gas_wanted", "gas_used"] t
    return {
      hash := ← r.required "transaction_hash" Term.text?
      codeId := ← r.optional "code_id" Term.text?
      gasWanted := ← r.required "gas_wanted" Term.uint64?
      gasUsed := ← r.required "gas_used" Term.uint64? }

instance : JsonForm InstantiateResponse where
  write r := .object [
    ("transaction_hash", .text r.hash), ("contract_address", .ofOption .text r.address),
    ("gas_wanted", JsonForm.write r.gasWanted), ("gas_used", JsonForm.write r.gasUsed)]
  read t := do
    let r ← Record.ofTerm? ["transaction_hash", "contract_address", "gas_wanted", "gas_used"] t
    return {
      hash := ← r.required "transaction_hash" Term.text?
      address := ← r.optional "contract_address" Term.text?
      gasWanted := ← r.required "gas_wanted" Term.uint64?
      gasUsed := ← r.required "gas_used" Term.uint64? }

instance : JsonForm StoredCode where
  write s := .object [
    ("transaction_hash", .text s.hash), ("code_id", JsonForm.write s.codeId),
    ("gas_wanted", JsonForm.write s.gasWanted), ("gas_used", JsonForm.write s.gasUsed)]
  read t := do
    let r ← Record.ofTerm? ["transaction_hash", "code_id", "gas_wanted", "gas_used"] t
    return {
      hash := ← r.required "transaction_hash" Term.text?
      codeId := ← r.required "code_id" JsonForm.read
      gasWanted := ← r.required "gas_wanted" Term.uint64?
      gasUsed := ← r.required "gas_used" Term.uint64? }

instance : JsonForm LiveContract where
  write c := .object [
    ("transaction_hash", .text c.hash), ("contract_address", .text c.address),
    ("gas_wanted", JsonForm.write c.gasWanted), ("gas_used", JsonForm.write c.gasUsed)]
  read t := do
    let r ← Record.ofTerm? ["transaction_hash", "contract_address", "gas_wanted", "gas_used"] t
    return {
      hash := ← r.required "transaction_hash" Term.text?
      address := ← r.required "contract_address" Term.text?
      gasWanted := ← r.required "gas_wanted" Term.uint64?
      gasUsed := ← r.required "gas_used" Term.uint64? }

instance : JsonForm Receipt where
  write c := .object [
    ("transaction_hash", .text c.hash), ("height", JsonForm.write c.height),
    ("gas_wanted", JsonForm.write c.gasWanted), ("gas_used", JsonForm.write c.gasUsed)]
  read t := do
    let r ← Record.ofTerm? ["transaction_hash", "height", "gas_wanted", "gas_used"] t
    return {
      hash := ← r.required "transaction_hash" Term.text?
      height := ← r.required "height" Term.uint64?
      gasWanted := ← r.required "gas_wanted" Term.uint64?
      gasUsed := ← r.required "gas_used" Term.uint64? }

instance : JsonForm Role where
  write role := .text role.name
  read t := do
    let (name, content) ← t.variant?
    if !Term.isUnit content then none
    else if name = Role.deployer.name then some .deployer
    else if name = Role.tester.name then some .tester
    else none

instance : JsonForm KeyName := ⟨fun k => .text k.name, fun t => t.text?.map (⟨·⟩)⟩

instance : JsonForm Account where
  write a := .object [
    ("role", JsonForm.write a.role), ("address", .text a.address), ("signer", JsonForm.write a.key)]
  read t := do
    let r ← Record.ofTerm? ["role", "address", "signer"] t
    return {
      role := ← r.required "role" JsonForm.read
      address := ← r.required "address" Term.text?
      key := ← r.required "signer" JsonForm.read }

instance : JsonForm Timestamp := ⟨fun t => .text t.written, fun t => t.text?.bind Timestamp.read?⟩

instance : JsonForm DeploymentRecord where
  write d := .object [
    ("store", .ofOption JsonForm.write d.deployment.store),
    ("instantiate", JsonForm.write d.deployment.contract),
    ("deployed_at", JsonForm.write d.deployedAt)]
  read t := do
    let r ← Record.ofTerm? ["store", "instantiate", "deployed_at"] t
    let store ← r.optional "store" JsonForm.read
    let contract ← r.required "instantiate" JsonForm.read
    return ⟨⟨store, contract⟩, ← r.required "deployed_at" JsonForm.read⟩

end ContractLaunch
