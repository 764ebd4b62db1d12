import ContractLaunch.Daemon.Command
import ContractLaunch.Json.Form
/-!
Invocations and outcomes as JSON lines, for a relay that starts programs on behalf of a deployment.
-/
namespace ContractLaunch.Relay

open Json

def request (program : String) (arguments : List String) (input : String) : String :=
  Json.compact (.object [
    ("program", .text program), ("arguments", .array (arguments.map .text)),
    ("input", .text input)])

/-- The outcome that a reply tells: an exit status with what was printed, or the reason why the
program was not started. -/
def outcome? : Reader Outcome := fun t => do
  let r ← Record.ofTerm? ["status", "output", "complaints", "reason"] t
  match ← r.optional "reason" Term.text? with
  | some reason => return .notStarted reason
  | none =>
    return .exited (← r.required "status" (Term.natBelow? 256))
      (Utf8.encode (← r.defaulted "output" "" Term.text?))
      (Utf8.encode (← r.defaulted "complaints" "" Term.text?))

def outcome (reply : String) : Outcome :=
  (Reader.ofChars? outcome? reply.toList).getD (.notStarted "the relay gave no answer")

end ContractLaunch.Relay
