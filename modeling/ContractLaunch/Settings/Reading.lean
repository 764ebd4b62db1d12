import ContractLaunch.Json.Form
import ContractLaunch.Settings.Basic
import ContractLaunch.Toml.Basic
/-!
Reading settings from the fields of a document over the standard ones, and their JSON form. A field
that has the wrong kind of value makes the whole document unreadable; fields of other names are
skipped.
-/
namespace ContractLaunch.Settings

open Json

structure FieldKind (τ : Type) where
  text? : τ → Option String
  natBelow? : Nat → τ → Option Nat
  message? : τ → Option Json
  /-- A value, unless the field holds the value that stands for none. -/
  present? : τ → Option τ

def fieldNames : List String := [
  "rpc_endpoint", "chain_id", "address_prefix", "native_denom", "gas_price", "chain_binary",
  "keyring_backend", "keyring_home", "confirm_attempts", "confirm_interval_secs", "artifacts_dir",
  "label", "instantiate_msg", "resume_code_id"]

def ofFields? {τ : Type} (kind : FieldKind τ) (field : String → Option τ) : Option Settings := do
  let read {α : Type} (name : String) (standard : α) (read : τ → Option α) : Option α :=
    match field name with
    | some v => read v
    | none => some standard
  let optional {α : Type} (read : τ → Option α) (v : τ) : Option (Option α) :=
    match kind.present? v with
    | some v => (read v).map some
    | none => some none
  return {
    rpcEndpoint := ← read "rpc_endpoint" standard.rpcEndpoint kind.text?
    chainId := ← read "chain_id" standard.chainId kind.text?
    addressPrefix := ← read "address_prefix" standard.addressPrefix kind.text?
    nativeDenom := ← read "native_denom" standard.nativeDenom kind.text?
    gasPrice := ← read "gas_price" standard.gasPrice kind.text?
    chainBinary := ← read "chain_binary" standard.chainBinary kind.text?
    keyringBackend := ← read "keyring_backend" standard.keyringBackend kind.text?
    keyringHome := ← read "keyring_home" standard.keyringHome (optional kind.text?)
    confirmAttempts := ← read "confirm_attempts" standard.confirmAttempts fun v =>
      (kind.natBelow? UInt32.size v).map UInt32.ofNat
    confirmInterval := ← read "confirm_interval_secs" standard.confirmInterval fun v =>
      (kind.natBelow? UInt64.size v).map UInt64.ofNat
    artifactsDir := ← read "artifacts_dir" standard.artifactsDir kind.text?
    label := ← read "label" standard.label kind.text?
    instantiateMessage := ← read "instantiate_msg" standard.instantiateMessage kind.message?
    resumeCode := ← read "resume_code_id" standard.resumeCode (optional fun v =>
      (kind.natBelow? UInt64.size v).map UInt64.ofNat) }

def jsonField : FieldKind Term where
  text? := Term.text?
  natBelow? := Term.natBelow?
  message? := Term.json?
  present? t :=
    match t.written with
    | .null => none
    | _ => some t

/-- Settings are written with all their fields; each may be left out when they are read. -/
instance : JsonForm Settings where
  write s := .object [
    ("rpc_endpoint", .text s.rpcEndpoint), ("chain_id", .text s.chainId),
    ("address_prefix", .text s.addressPrefix), ("native_denom", .text s.nativeDenom),
    ("gas_price", .text s.gasPrice), ("chain_binary", .text s.chainBinary),
    ("keyring_backend", .text s.keyringBackend),
    ("keyring_home", .ofOption .text s.keyringHome),
    ("confirm_attempts", .ofNat s.confirmAttempts.toNat),
    ("confirm_interval_secs", JsonForm.write s.confirmInterval),
    ("artifacts_dir", .text s.artifactsDir), ("label", .text s.label),
    ("instantiate_msg", s.instantiateMessage),
    ("resume_code_id", .ofOption JsonForm.write s.resumeCode)]
  read t := do
    let r ← Record.ofTerm? fieldNames t
    ofFields? jsonField fun name => r.fields.lookup name

/-- A configuration is written as its settings; its mnemonics are neither written nor read. -/
instance : JsonForm Configuration where
  write c := JsonForm.write c.settings
  read t := (JsonForm.read t).map (⟨·, none, none⟩)

def tomlField : FieldKind Toml where
  text?
    | .text s => some s
    | _ => none
  natBelow? bound
    | .integer n => n.toNat?.filter (· < bound)
    | _ => none
  message? v := some v.json
  present? := some

def ofToml? (members : List (String × Toml)) : Option Settings :=
  ofFields? tomlField fun name => members.lookup name

end ContractLaunch.Settings
