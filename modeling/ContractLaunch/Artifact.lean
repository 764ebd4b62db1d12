import ContractLaunch.Disk
import ContractLaunch.Text.Quoted
import ContractLaunch.Text.Search
/-!
Compiled contracts on disk. A contract's name leads to one file in the artifact directory, and the
name can lead nowhere else.
-/
namespace ContractLaunch

inductive ArtifactFault where
  | invalidName (name : String)
  | notFound (path : String)
  | notWasm (path : String)
  | unreadable (path : String) (cause : String)
  deriving DecidableEq

def ArtifactFault.message : ArtifactFault → String
  | .invalidName name => "invalid artifact name " ++ Text.quoted name
  | .notFound path => "artifact not found: " ++ path
  | .notWasm path => "artifact " ++ path ++ " is not a wasm module"
  | .unreadable path cause => "failed to read artifact " ++ path ++ ": " ++ cause

namespace Artifact

def extension : List Char := ['.', 'w', 'a', 's', 'm']

def stem (name : List Char) : List Char :=
  match Text.afterStart? extension.reverse name.reverse with
  | some rest => rest.reverse
  | none => name

def isPlain (stem : List Char) : Bool :=
  !(stem.isEmpty || stem = ['.'] || stem = ['.', '.'] || stem.contains '/' || stem.contains '\\')

def path (root name : String) : Except ArtifactFault String :=
  let stem := stem name.toList
  if isPlain stem then .ok (Disk.join root (String.ofList (stem ++ extension)))
  else .error (.invalidName (String.ofList stem))

def magic : Bytes := [0, 0x61, 0x73, 0x6D]

def load (disk : Disk) (root name : String) : Except ArtifactFault Bytes := do
  let path ← path root name
  match disk path with
  | some (.file bytes) => if magic.isPrefixOf bytes then .ok bytes else .error (.notWasm path)
  | some (.unreadable cause) => .error (.unreadable path cause)
  | some .directory | none => .error (.notFound path)

end Artifact

end ContractLaunch
