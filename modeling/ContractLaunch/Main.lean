import ContractLaunch.Daemon.Relay
import ContractLaunch.Setup
/-!
The command line. It looks at the files that a setup needs, carries its invocations to a relay, and
prints the report. The relay listens at the files `requests` and `replies` in a directory that the
environment names.
-/
namespace ContractLaunch.Main

def variableNames : List String :=
  ["HOME", Settings.pathVariable, Mnemonic.variableOf .deployer, Mnemonic.variableOf .tester]

def relayVariable : String := "CWDEPLOY_RELAY"

def readEnvironment : IO Environment := do
  let values ← variableNames.mapM fun name => return (name, ← IO.getEnv name)
  return fun name => (values.lookup name).join

def exists? (path : String) : IO Bool := do
  try
    discard <| IO.FS.realPath path
    return true
  catch _ => return false

def reason : IO.Error → String
  | .permissionDenied .. => "Permission denied (os error 13)"
  | failure => toString failure

def look (path : String) : IO (Option DiskEntry) := do
  if !(← exists? path) then return none
  try
    let bytes ← IO.FS.readBinFile path
    return some (.file bytes.toList)
  catch
    | .inappropriateType .. => return some .directory
    | failure => return some (.unreadable (reason failure))

/-- The disk as far as a setup looks at it: the settings file, and the artifact that it leads to. -/
def readDisk (env : Environment) (arguments : List String) : IO Disk := do
  let settingsPath := Settings.path env
  let settingsEntry ← look settingsPath
  let settingsOnly : Disk := fun path => if path = settingsPath then settingsEntry else none
  let artifactPath? := do
    let name ← Setup.contractName? arguments
    let settings ← (Settings.load settingsOnly settingsPath).toOption
    (Artifact.path settings.artifactsDir name).toOption
  match artifactPath? with
  | none => return settingsOnly
  | some artifactPath =>
    let artifactEntry ← look artifactPath
    return fun path => if path = artifactPath then artifactEntry else settingsOnly path

/-- Puts the bytecode that a setup is going to upload into a temporary file: its path, or why there is
none. -/
def stage (disk : Disk) (env : Environment) (arguments : List String) :
    IO (Except String String) := do
  let bytecode? := do
    let name ← Setup.contractName? arguments
    let plan ← (Setup.plan ⟨disk, env, fun _ => none⟩ name).toOption
    plan.source.getRight?
  match bytecode? with
  | none => return .error "no bytecode"
  | some bytecode =>
    try
      let (handle, path) ← IO.FS.createTempFile
      handle.write ⟨bytecode.toArray⟩
      handle.flush
      return .ok path.toString
    catch failure => return .error (reason failure)

def staging : Except String String → Staging
  | .ok _ => fun _ => none
  | .error cause => fun _ => some cause

/-- An argument as a program gets it. -/
def place (staged : Except String String) : Argument → String
  | .text s => s
  | .staged _ => staged.toOption.getD ""

def relayed (staged : Except String String) (directory : String) (i : Invocation) : IO Outcome := do
  let requests ← IO.FS.Handle.mk (Disk.join directory "requests") .write
  requests.putStrLn (Relay.request i.program (i.arguments.map (place staged)) i.input)
  requests.flush
  let replies ← IO.FS.Handle.mk (Disk.join directory "replies") .read
  return Relay.outcome (← replies.getLine)

def settle (staged : Except String String) (i : Invocation) : IO Outcome := do
  IO.sleep (UInt32.ofNat (min (i.delay.toNat * 1000) (UInt32.size - 1)))
  match ← IO.getEnv relayVariable with
  | none => return .notStarted (relayVariable ++ " is not set")
  | some directory =>
    try relayed staged directory i
    catch failure => return .notStarted (reason failure)

def makeLogs (env : Environment) : IO (Option String) := do
  match Home.logs env with
  | .error fault => return some fault.message
  | .ok directory =>
    try
      IO.FS.createDirAll directory
      return none
    catch failure => return some (reason failure)

end ContractLaunch.Main

open ContractLaunch in
def main (arguments : List String) : IO UInt32 := do
  let env ← Main.readEnvironment
  let disk ← Main.readDisk env arguments
  let blocked ←
    if (Setup.contractName? arguments).isSome then Main.makeLogs env else pure none
  let staged ← Main.stage disk env arguments
  let around : Setup.Surroundings := ⟨disk, env, Main.staging staged⟩
  let finish ← (Setup.run around blocked arguments).interpret (Main.settle staged)
  if let .ok path := staged then IO.FS.removeFile path
  IO.eprint finish.complaints
  IO.print finish.output
  return finish.status.toUInt32
