import ContractLaunch.Text.Utf8
/-!
Files and directories as a deployment sees them: what stands at a path, paths being relative to the
current directory or absolute.
-/
namespace ContractLaunch

inductive DiskEntry where
  | file (bytes : Bytes)
  | directory
  /-- A file that cannot be read. -/
  | unreadable (cause : String)

/-- What stands at each path, if anything. -/
abbrev Disk := String → Option DiskEntry

namespace Disk

/-- The path of an entry of a directory. An empty directory path is the current directory. -/
def join (directory name : String) : String :=
  if directory.isEmpty || directory.toList.getLast? = some '/' then directory ++ name
  else directory ++ "/" ++ name

/-- The steps of a path: the names between its slashes, without empty ones and dots. -/
def steps (path : String) : List String :=
  ((path.toList.splitOn '/').map String.ofList).filter fun s => !(s.isEmpty || s = ".")

/-- A file by what reading it gives: its bytes, or why it cannot be read. -/
def ofReading : Except String Bytes → DiskEntry
  | .ok bytes => .file bytes
  | .error cause => .unreadable cause

/-- The files of a tree, by the steps that lead to them, and its directories. -/
structure Tree where
  files : List (List String × Except String Bytes)
  directories : List (List String)

/-- Whether the steps lead to a directory of the tree: the top, one that is listed, or one that
leads to anything. -/
def Tree.isDirectory (t : Tree) (place : List String) : Bool :=
  place.isEmpty || t.directories.any (place.isPrefixOf ·) ||
    t.files.any fun (file, _) => place.length < file.length && place.isPrefixOf file

/-- Follows the steps of a path from a directory of the tree. Each step but the last has to lead to a
directory; above the top there are only the directories that hold it. -/
def Tree.walk (t : Tree) (here : List String) : List String → Option DiskEntry
  | [] => some .directory
  | step :: rest =>
    if step = ".." then
      if here.isEmpty then (if rest.all (· = "..") then some .directory else none)
      else t.walk here.dropLast rest
    else
      let next := here ++ [step]
      if t.isDirectory next then t.walk next rest
      else if rest.isEmpty then (t.files.lookup next).map ofReading
      else none

/-- The disk that holds a tree in the current directory and no files elsewhere. A path that ends in a
slash names a directory only. The parent of the root is the root. -/
def ofTree (t : Tree) : Disk := fun path =>
  if path.isEmpty then none
  else if path.toList.head? = some '/' then
    if (steps path).all (· = "..") then some .directory else none
  else
    match t.walk [] (steps path) with
    | some .directory => some .directory
    | entry => if path.toList.getLast? = some '/' || path.endsWith "/." then none else entry

end Disk

end ContractLaunch
