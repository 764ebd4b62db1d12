import ContractLaunch.Client.Response
import ContractLaunch.Daemon.Failure
import ContractLaunch.Json.Reading
/-!
Transaction responses as the daemon prints them. Figures may be numbers or texts of digits, and
events stand in one list or, from older nodes, in one list per message.
-/
namespace ContractLaunch

open Json

structure TxAttribute where
  key : String
  value : String
  deriving DecidableEq

structure TxEvent where
  kind : String
  attributes : List TxAttribute
  deriving DecidableEq

structure TxResponse where
  height : UInt64
  hash : String
  code : UInt32
  codespace : String
  rawLog : String
  gasWanted : UInt64
  gasUsed : UInt64
  events : List TxEvent
  logs : List (List TxEvent)
  deriving DecidableEq

namespace TxResponse

/-- A figure: a number, or a text that writes one; the empty text is zero. -/
def figure? : Reader UInt64 := fun t =>
  match t.written with
  | .text (some "") => some 0
  | .text (some s) => Numeral.readUInt64? s.toList
  | _ => t.uint64?

def attribute? : Reader TxAttribute := fun t => do
  let r ← Record.ofTerm? ["key", "value"] t
  return ⟨← r.required "key" Term.text?, ← r.defaulted "value" "" Term.text?⟩

def event? : Reader TxEvent := fun t => do
  let r ← Record.ofTerm? ["type", "attributes"] t
  return ⟨← r.required "type" Term.text?, ← r.defaulted "attributes" [] (Term.items? attribute?)⟩

def messageEvents? : Reader (List TxEvent) := fun t => do
  let r ← Record.ofTerm? ["events"] t
  r.defaulted "events" [] (Term.items? event?)

/-- A transaction response; only the hash must be there. -/
def term? : Reader TxResponse := fun t => do
  let r ← Record.ofTerm?
    ["height", "txhash", "code", "codespace", "raw_log", "gas_wanted", "gas_used", "events", "logs"] t
  return {
    height := ← r.defaulted "height" 0 figure?
    hash := ← r.required "txhash" Term.text?
    code := ← r.defaulted "code" 0 Term.uint32?
    codespace := ← r.defaulted "codespace" "" Term.text?
    rawLog := ← r.defaulted "raw_log" "" Term.text?
    gasWanted := ← r.defaulted "gas_wanted" 0 figure?
    gasUsed := ← r.defaulted "gas_used" 0 figure?
    events := ← r.defaulted "events" [] (Term.items? event?)
    logs := ← r.defaulted "logs" [] (Term.items? messageEvents?) }

def parse (output : String) : Except ClientFault TxResponse :=
  match Reader.ofChars? term? (Text.trim output.toList) with
  | some response => .ok response
  | none => .error (.transport ("unexpected transaction response: " ++ complaint))

def check (r : TxResponse) : Except ClientFault Unit :=
  if r.code = 0 then .ok ()
  else
    .error (.rejected (if r.codespace.isEmpty then none else some r.codespace) (some r.code)
      (Failure.contractMessageText r.rawLog))

/-- All events, those of the messages after the others. -/
def allEvents (r : TxResponse) : List TxEvent := r.events ++ r.logs.flatten

def attributeOf? (r : TxResponse) (kind key : String) : Option String :=
  let attributes := (r.allEvents.filter (·.kind = kind)).flatMap TxEvent.attributes
  (attributes.find? (·.key = key)).map TxAttribute.value

def receipt (r : TxResponse) : Receipt := ⟨r.hash, r.height, r.gasWanted, r.gasUsed⟩

end TxResponse

end ContractLaunch
