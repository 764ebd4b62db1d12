import ContractLaunch.Client.Call
import ContractLaunch.Daemon.Command
import ContractLaunch.Daemon.TxResponse
import ContractLaunch.Json.Printer
/-!
A chain client that works through the daemon. A signed call is one broadcast, never repeated; once
the node has taken a transaction, the client looks for it until it is in a block or the attempts are
used up, and what it finds there is the outcome.
-/
namespace ContractLaunch

structure TxSettings where
  /-- The gas price, as it is written, for fees that the node chooses. -/
  gasPrice : String
  /-- How often to look for a transaction. -/
  confirmAttempts : Nat
  /-- The seconds before each look. -/
  confirmInterval : UInt64

structure Signer where
  key : KeyName
  address : String

/-- Why bytes cannot be put into a file for the daemon to read, if they cannot. -/
abbrev Staging := Bytes → Option String

/-- A chain client that works through the daemon. Without a signer it can only ask. -/
structure NodeClient where
  daemon : Daemon
  settings : TxSettings
  signer : Option Signer
  staging : Staging

namespace NodeClient

def signingKey (client : NodeClient) (sender : String) : Except ClientFault KeyName :=
  match client.signer with
  | none => .error (.signature "client has no signer; it can only query")
  | some signer =>
    if signer.address = sender then .ok signer.key
    else .error (.signature ("client signs for " ++ signer.address ++ ", not " ++ sender))

def gasAdjustment : String := "1.4"

def fixedFee (fee : Fee) : List String :=
  ["--gas", toString fee.gasLimit, "--fees", Coin.joined fee.amount]

def feeFlags (settings : TxSettings) : FeeSelection → List String
  | .fixed fee => fixedFee fee
  | .auto =>
    ["--gas", "auto", "--gas-adjustment", gasAdjustment, "--gas-prices", settings.gasPrice]

def memoFlag (memo : String) : List String := if memo.isEmpty then [] else ["--note", memo]

def amountFlag (funds : List Coin) : List String :=
  if funds.isEmpty then [] else ["--amount", Coin.joined funds]

def storeArguments (client : NodeClient) (key : KeyName) (code : Argument) (fee : Fee)
    (memo : String) : List Argument :=
  ["tx", "wasm", "store"].map .text ++ code ::
    (fixedFee fee ++ memoFlag memo ++ client.daemon.txFlags key).map .text

def instantiateArguments (client : NodeClient) (key : KeyName) (codeId : CodeId) (message : Json)
    (label : String) (fee : FeeSelection) : List String :=
  ["tx", "wasm", "instantiate", toString codeId, message.compact, "--label", label, "--no-admin"] ++
    feeFlags client.settings fee ++ client.daemon.txFlags key

def executeArguments (client : NodeClient) (key : KeyName) (contract : String) (message : Json)
    (fee : FeeSelection) (memo : String) (funds : List Coin) : List String :=
  ["tx", "wasm", "execute", contract, message.compact] ++ amountFlag funds ++
    feeFlags client.settings fee ++ memoFlag memo ++ client.daemon.txFlags key

def queryArguments (client : NodeClient) (contract : String) (message : Json) : List String :=
  ["query", "wasm", "contract-state", "smart", contract, message.compact] ++
    client.daemon.queryFlags

def lookup (client : NodeClient) (hash : String) : Invocation :=
  { client.daemon.invocation ((["query", "tx", hash] ++ client.daemon.queryFlags).map .text) with
    delay := client.settings.confirmInterval }

/-- Whether a failed look only says that the transaction is not in a block yet. -/
def isPending : CommandFault → Bool
  | .failed _ _ text => Failure.isNotFound text
  | _ => false

def unconfirmed (client : NodeClient) (hash : String) : ClientFault :=
  .transport ("transaction " ++ hash ++ " not confirmed after " ++
    toString client.settings.confirmAttempts ++
    " attempts; check chain state before resubmitting")

def confirm (client : NodeClient) (hash : String) :
    (attempts : Nat) → Commands (Except ClientFault TxResponse)
  | 0 => return .error (client.unconfirmed hash)
  | n + 1 => do
    match ← (client.lookup hash).run with
    | .ok output => return TxResponse.parse output
    | .error fault => if isPending fault then client.confirm hash n else return .error fault.clientFault

def accepted (r : TxResponse) : Except ClientFault TxResponse := r.check.map fun _ => r

/-- What the node says of a transaction that was sent: its fault, or a response that it took. -/
def submitted (output : Except CommandFault String) : Except ClientFault TxResponse :=
  ((output.mapError CommandFault.clientFault).bind TxResponse.parse).bind accepted

/-- Sends a transaction, and waits until it is in a block. -/
def broadcast (client : NodeClient) (arguments : List Argument) :
    Commands (Except ClientFault TxResponse) := do
  match submitted (← (client.daemon.invocation arguments).run) with
  | .error fault => return .error fault
  | .ok taken =>
    let included ← client.confirm taken.hash client.settings.confirmAttempts
    return included.bind accepted

/-- Sends a transaction of a sender, and reads its outcome off the response. Nothing is sent without
the sender's key, or if the arguments cannot be made. -/
def signed {α : Type} (client : NodeClient) (sender : String)
    (arguments : KeyName → Except ClientFault (List Argument)) (read : TxResponse → α) :
    Commands (Except ClientFault α) :=
  match (client.signingKey sender).bind arguments with
  | .error fault => return .error fault
  | .ok arguments => do
    let response ← client.broadcast arguments
    return response.map read

def stagingFault (reason : String) : ClientFault := .transport ("cannot stage bytecode: " ++ reason)

def stage (client : NodeClient) (bytecode : Bytes) : Except ClientFault Argument :=
  match client.staging bytecode with
  | some reason => .error (stagingFault reason)
  | none => .ok (.staged bytecode)

def storeOutcome (r : TxResponse) : StoreResponse :=
  ⟨r.hash, r.attributeOf? "store_code" "code_id", r.gasWanted, r.gasUsed⟩

def instantiateOutcome (r : TxResponse) : InstantiateResponse :=
  ⟨r.hash, r.attributeOf? "instantiate" "_contract_address", r.gasWanted, r.gasUsed⟩

def payload (output : String) : Except ClientFault Json :=
  match Json.read? (Text.trim output.toList) with
  | none => .error (.transport ("unexpected query response: " ++ Json.complaint))
  | some body =>
    match body.get? "data" with
    | some data => .ok data
    | none =>
      .error (.transport ("query response has no " ++ CommandFault.quote "data" ++ " field"))

def call (client : NodeClient) : (c : ClientCall) → Commands c.Reply
  | .upload sender bytecode fee memo =>
    client.signed sender
      (fun key => (client.stage bytecode).map (client.storeArguments key · fee memo)) storeOutcome
  | .instantiate sender codeId message label fee =>
    client.signed sender
      (fun key => .ok ((client.instantiateArguments key codeId message label fee).map .text))
      instantiateOutcome
  | .execute sender contract message fee memo funds =>
    client.signed sender
      (fun key => .ok ((client.executeArguments key contract message fee memo funds).map .text))
      TxResponse.receipt
  | .query contract message => do
    let output ← client.daemon.run (client.queryArguments contract message)
    return (output.mapError CommandFault.clientFault).bind payload

end NodeClient

end ContractLaunch
