import ContractLaunch.Account
import ContractLaunch.Daemon.Failure
import ContractLaunch.Dialogue
import ContractLaunch.Text.Utf8
/-!
Commands given to the chain's daemon. A command is one invocation of the daemon's program; it either
prints a text or fails, and what it means depends on nothing else than what was printed and the exit
status.
-/
namespace ContractLaunch

inductive Argument where
  | text (value : String)
  /-- The path of a file that holds these bytes as long as the invocation lasts. -/
  | staged (bytes : Bytes)
  deriving DecidableEq

structure Invocation where
  program : String
  arguments : List Argument
  input : String := ""
  /-- The seconds to wait before the start. -/
  delay : UInt64 := 0
  deriving DecidableEq

inductive Outcome where
  /-- The program ended with an exit status, and printed this output and these complaints. -/
  | exited (status : Nat) (output complaints : Bytes)
  | notStarted (reason : String)

abbrev Commands (α : Type) := Dialogue Invocation (fun _ => Outcome) α

inductive CommandFault where
  | notStarted (command reason : String)
  | failed (command : String) (status : Nat) (text : String)
  | notText (command : String)
  deriving DecidableEq

namespace CommandFault

def quote (command : String) : String := "\x60" ++ command ++ "\x60"

def message : CommandFault → String
  | .notStarted command reason => "failed to execute " ++ quote command ++ ": " ++ reason
  | .failed command status text =>
    quote command ++ " failed (exit status: " ++ toString status ++ "): " ++ text
  | .notText command => quote command ++ " produced non-UTF-8 output"

def clientFault : CommandFault → ClientFault
  | .failed _ _ text => Failure.classify text
  | fault => .transport fault.message

end CommandFault

namespace Invocation

def shown : Argument → String
  | .text s => s
  | .staged _ => "<staged>"

/-- How messages name an invocation: by the program and the first three arguments. What follows them
may be confidential. -/
def description (i : Invocation) : String :=
  i.program ++ " " ++ " ".intercalate ((i.arguments.take 3).map shown)

/-- Whether a name or argument holds the character that no program can be given. -/
def hasNul (i : Invocation) : Bool :=
  let holdsNul (s : String) : Bool := s.toList.contains '\x00'
  holdsNul i.program || i.arguments.any fun
    | .text s => holdsNul s
    | .staged _ => false

end Invocation

namespace Outcome

/-- What is known of a failure: the complaints, or else the output, without blanks around. -/
def failureText (output complaints : Bytes) : String :=
  let text := Text.trimmed (Utf8.decodeLenient complaints)
  if text.isEmpty then Text.trimmed (Utf8.decodeLenient output) else text

def read (command : String) : Outcome → Except CommandFault String
  | .notStarted reason => .error (.notStarted command reason)
  | .exited status output complaints =>
    if status = 0 then
      match Utf8.decode? output with
      | some text => .ok text
      | none => .error (.notText command)
    else .error (.failed command status (failureText output complaints))

end Outcome

/-- Runs a command for the text that it prints. Nothing is started when a NUL stands in its name or
arguments. -/
def Invocation.run (i : Invocation) : Commands (Except CommandFault String) :=
  if i.hasNul then
    return .error (.notStarted i.description "nul byte found in provided data")
  else do
    let outcome ← Dialogue.question i
    return outcome.read i.description

structure Daemon where
  program : String
  node : String
  chainId : String
  keyringBackend : String := "test"
  keyringHome : Option String := none

namespace Daemon

def keyringFlags (d : Daemon) : List String :=
  ["--keyring-backend", d.keyringBackend] ++
    match d.keyringHome with
    | some home => ["--home", home]
    | none => []

def queryFlags (d : Daemon) : List String := ["--node", d.node, "--output", "json"]

/-- The flags of transactions signed with a key. The node answers as soon as it has checked the
transaction. -/
def txFlags (d : Daemon) (key : KeyName) : List String :=
  ["--from", key.name, "--chain-id", d.chainId, "--node", d.node, "--broadcast-mode", "sync",
    "--output", "json", "--yes"] ++ d.keyringFlags

def invocation (d : Daemon) (arguments : List Argument) : Invocation := ⟨d.program, arguments, "", 0⟩

def run (d : Daemon) (arguments : List String) : Commands (Except CommandFault String) :=
  (d.invocation (arguments.map .text)).run

def runWithInput (d : Daemon) (arguments : List String) (input : String) :
    Commands (Except CommandFault String) :=
  { d.invocation (arguments.map .text) with input }.run

end Daemon

end ContractLaunch
