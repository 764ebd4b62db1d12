import ContractLaunch.Toml.Basic
/-!
Tables while a document is being read. A table is defined once: by a header, by the headers of tables
inside it, by dotted keys, or as one of an array of tables; how it came about decides what may still
be added to it.
-/
namespace ContractLaunch.Toml

inductive Origin where
  | header
  /-- By the header of a table inside it. -/
  | implied
  | dotted
  deriving DecidableEq

inductive Draft where
  | value (v : Toml)
  | table (origin : Origin) (members : List (String × Draft))
  | tables (earlier : List (List (String × Draft))) (last : List (String × Draft))

instance : Inhabited Draft := ⟨.table .implied []⟩

abbrev Members := List (String × Draft)

namespace Members

def put (key : String) (d : Draft) : Members → Members
  | [] => [(key, d)]
  | (k, old) :: rest => if k = key then (k, d) :: rest else (k, old) :: put key d rest

def add? (key : String) (v : Toml) (ms : Members) : Option Members :=
  if (ms.lookup key).isSome then none else some (ms ++ [(key, .value v)])

/-- Gives a value to a dotted key: the steps of `path` and then `key`. The steps lead through tables
that dotted keys define, and may start in the last of an array of tables. -/
def assign? (key : String) (v : Toml) : (path : List String) → Members → Option Members
  | [], ms => ms.add? key v
  | step :: path, ms =>
    match ms.lookup step with
    | none => (assign? key v path []).map fun inner => ms ++ [(step, .table .dotted inner)]
    | some (.table origin inner) =>
      if origin = .header || (path.isEmpty && origin = .implied) then none
      else (assign? key v path inner).map fun inner => ms.put step (.table origin inner)
    | some (.tables earlier last) =>
      if path.isEmpty then none
      else (assign? key v path last).map fun last => ms.put step (.tables earlier last)
    | some (.value _) => none

/-- Changes the table that the steps lead to; tables on the way that are missing are implied, and an
array of tables stands for its last. -/
def descend? (change : Members → Option Members) : (path : List String) → Members → Option Members
  | [], ms => change ms
  | step :: path, ms =>
    match ms.lookup step with
    | none => (descend? change path []).map fun inner => ms ++ [(step, .table .implied inner)]
    | some (.table origin inner) =>
      (descend? change path inner).map fun inner => ms.put step (.table origin inner)
    | some (.tables earlier last) =>
      (descend? change path last).map fun last => ms.put step (.tables earlier last)
    | some (.value _) => none

/-- Defines the table under a key by its header. It may only be there as implied. -/
def define? (key : String) (ms : Members) : Option Members :=
  match ms.lookup key with
  | none => some (ms ++ [(key, .table .header [])])
  | some (.table .implied inner) => some (ms.put key (.table .header inner))
  | some _ => none

def extend? (key : String) (ms : Members) : Option Members :=
  match ms.lookup key with
  | none => some (ms ++ [(key, .tables [] [])])
  | some (.tables earlier last) => some (ms.put key (.tables (earlier ++ [last]) []))
  | some _ => none

end Members

mutual

def Draft.close : Draft → Toml
  | .value v => v
  | .table _ members => .table (closeMembers members)
  | .tables earlier last => .array (closeTables earlier ++ [.table (closeMembers last)])

def closeMembers : List (String × Draft) → List (String × Toml)
  | [] => []
  | (k, d) :: rest => (k, Draft.close d) :: closeMembers rest

def closeTables : List (List (String × Draft)) → List Toml
  | [] => []
  | t :: rest => .table (closeMembers t) :: closeTables rest

end

end ContractLaunch.Toml
