import ContractLaunch.Client.Fault
import ContractLaunch.Text.Blank
import ContractLaunch.Text.CaseFold
import ContractLaunch.Text.Search
/-!
What the text of a failed daemon command means. The text is searched, without regard to case, for
marks of a node that could not be reached, then of an unusable key, then of a contract's own failure,
then of a refusal on the chain's rules; anything else is a plain refusal.
-/
namespace ContractLaunch.Failure

def transportMarks : List String := [
  "connection refused",
  "post failed",
  "dial tcp",
  "no such host",
  "i/o timeout",
  "context deadline exceeded",
  "error in json rpc client",
  "connection reset"]

def signatureMarks : List String := [
  "key not found",
  "not a valid name or address",
  "invalid mnemonic",
  "failed to decrypt",
  "keyring"]

def contractMarks : List String := [
  ": execute wasm contract failed",
  ": instantiate wasm contract failed",
  ": query wasm contract failed"]

def sdkMarks : List (String × UInt32) := [
  ("out of gas", 11),
  ("insufficient fee", 13),
  ("incorrect account sequence", 32),
  ("account sequence mismatch", 32)]

def messageIndex : String := "message index: "

/-- What stands before the description of a failure. -/
def description : String := "desc = "

/-- What the daemon puts in front of a failure. -/
def lead : String := "Error: "

def mentions (text : List Char) (mark : String) : Bool :=
  Text.occurs mark.toList (Text.foldCase text)

/-- The contract's own message in what stands before the mark of its failure: what follows the number
of the message that failed, or else the description. -/
def messageIn (head : List Char) : List Char :=
  match Text.splitLast? messageIndex.toList head with
  | some (_, indexed) =>
    match Text.splitFirst? [':', ' '] indexed with
    | some (_, message) => message
    | none => indexed
  | none =>
    match Text.splitLast? description.toList head with
    | some (_, message) => message
    | none => head

/-- The message of a log: its first line without what the daemon puts in front, cut down to the
contract's own message when the line has the mark of a contract's failure. -/
def contractMessage (log : List Char) : List Char :=
  let line := Text.firstLine log
  let line := (Text.afterStart? lead.toList line).getD line
  match Text.beforeAny? (contractMarks.map String.toList) line with
  | some head => Text.trim (messageIn head)
  | none => Text.trim line

def contractMessageText (log : String) : String := String.ofList (contractMessage log.toList)

def classify (text : String) : ClientFault :=
  let cs := text.toList
  let line := String.ofList (Text.firstLine cs)
  let message := contractMessageText text
  if transportMarks.any (mentions cs) then .transport line
  else if signatureMarks.any (mentions cs) then .signature line
  else if contractMarks.any (mentions cs) then .plainRejection message
  else
    match sdkMarks.find? fun (mark, _) => mentions cs mark with
    | some (_, code) => .sdkRejection code message
    | none => .plainRejection message

/-- Whether a query for a transaction failed only because it is not indexed yet. -/
def isNotFound (text : String) : Bool :=
  mentions text.toList "tx" && mentions text.toList "not found"

end ContractLaunch.Failure
