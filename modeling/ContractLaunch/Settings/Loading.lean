import ContractLaunch.Disk
import ContractLaunch.Settings.Reading
import ContractLaunch.Settings.Validation
import ContractLaunch.Toml.Reading
/-!
Where settings come from: a TOML file whose path the environment may name, standard settings where
there is no such file, and mnemonics from the environment. Also the directories in which a deployment
keeps its own files.
-/
namespace ContractLaunch

namespace Settings

def pathVariable : String := "CWDEPLOY_CONFIG"

def path (env : Environment) : String := (env pathVariable).getD "cwdeploy.toml"

/-- What faults say about a document that could not be read, instead of where the reader stopped. -/
def complaint : String := "<toml error>"

/-- The settings in the file at a path; the standard ones if nothing stands there. -/
def load (disk : Disk) (path : String) : Except DeployFault Settings :=
  let unreadable (cause : String) : Except DeployFault Settings :=
    .error (.config ("cannot read " ++ path ++ ": " ++ cause))
  match disk path with
  | none => .ok standard
  | some .directory => unreadable "Is a directory (os error 21)"
  | some (.unreadable cause) => unreadable cause
  | some (.file bytes) =>
    match Utf8.decode? bytes with
    | none => unreadable "stream did not contain valid UTF-8"
    | some document =>
      match (Toml.read? document).bind ofToml? with
      | some settings => .ok settings
      | none => .error (.config ("cannot parse " ++ path ++ ": " ++ complaint))

end Settings

def Configuration.ofEnvironment (disk : Disk) (env : Environment) :
    Except DeployFault Configuration := do
  let settings ← Settings.load disk (Settings.path env)
  let c := settings.withMnemonics env
  c.validate
  return c

namespace Home

def base (env : Environment) : Except DeployFault String :=
  match (env "HOME").filter (!·.isEmpty) with
  | some home => .ok (Disk.join home ".cwdeploy")
  | none => .error (.config "cannot determine home directory")

def logs (env : Environment) : Except DeployFault String :=
  (base env).map (Disk.join · "logs")

def keyring (env : Environment) : Except DeployFault String :=
  (base env).map (Disk.join · "keyring")

end Home

end ContractLaunch
