import ContractLaunch.Json.Written
/-!
Reading values and records from JSON as written. A reader gets a tree and the number of arrays and
objects that may still be opened inside one another; what a reader skips is not subject to that
limit, nor are numbers and texts in it looked at.

A record is written as an object, whose unknown members are skipped and whose known members occur at
most once, or as an array of the fields in their declared order.
-/
namespace ContractLaunch.Json

/-- How deep arrays and objects may be nested in what is read. -/
def nestingLimit : Nat := 127

/-- A tree to be read, and how many levels of nesting are still allowed in it. -/
structure Term where
  written : Written
  room : Nat

mutual

/-- The value of a tree: numbers in range, texts with characters, nested at most `room` deep; the
members of objects sorted by key, of several with one key the last. -/
def Written.value? (room : Nat) : Written → Option Json
  | .null => some .null
  | .bool b => some (.bool b)
  | .number n => n.value?.map .number
  | .text t => t.map .text
  | .array items =>
    if room = 0 then none else (Written.values? (room - 1) items).map .array
  | .object members =>
    if room = 0 then none
    else (Written.memberValues? (room - 1) members).map fun ms => .object (sorted ms)

def Written.values? (room : Nat) : List Written → Option (List Json)
  | [] => some []
  | w :: rest =>
    match Written.value? room w, Written.values? room rest with
    | some v, some vs => some (v :: vs)
    | _, _ => none

def Written.memberValues? (room : Nat) : List (Option String × Written) → Option (List (String × Json))
  | [] => some []
  | (key, w) :: rest =>
    match key, Written.value? room w, Written.memberValues? room rest with
    | some k, some v, some ms => some ((k, v) :: ms)
    | _, _, _ => none

end

abbrev Reader (α : Type) := Term → Option α

namespace Term

def json? : Reader Json := fun t => t.written.value? t.room

def text? : Reader String := fun t =>
  match t.written with
  | .text s => s
  | _ => none

def natBelow? (bound : Nat) : Reader Nat := fun t =>
  match t.written with
  | .number n => n.natural?.filter (· < bound)
  | _ => none

def uint64? : Reader UInt64 := fun t => (t.natBelow? UInt64.size).map UInt64.ofNat

def uint32? : Reader UInt32 := fun t => (t.natBelow? UInt32.size).map UInt32.ofNat

def nullable {α : Type} (read : Reader α) : Reader (Option α) := fun t =>
  match t.written with
  | .null => some none
  | _ => (read t).map some

def items? {α : Type} (read : Reader α) : Reader (List α) := fun t =>
  match t.written with
  | .array ws => if t.room = 0 then none else ws.mapM fun w => read ⟨w, t.room - 1⟩
  | _ => none

/-- One of several named alternatives: a text that is the name of one without content, or an object
with the name as its only key and the content, null for one without. -/
def variant? : Reader (String × Option Term) := fun t =>
  match t.written with
  | .text (some name) => some (name, none)
  | .object [(some name, w)] => if t.room = 0 then none else some (name, some ⟨w, t.room - 1⟩)
  | _ => none

def isUnit : Option Term → Bool
  | none => true
  | some ⟨.null, _⟩ => true
  | some _ => false

end Term

/-- The fields of a record that are written. `positional` tells that they stand in an array. -/
structure Record where
  positional : Bool
  fields : List (String × Term)

namespace Record

/-- The fields with known names among the members of an object; `none` when a known name occurs
twice or a key is no text. -/
def ofMembers? (names : List String) (room : Nat) :
    List (Option String × Written) → Option (List (String × Term))
  | [] => some []
  | (none, _) :: _ => none
  | (some key, w) :: rest =>
    match ofMembers? names room rest with
    | none => none
    | some fields =>
      if !names.contains key then some fields
      else if (fields.lookup key).isSome then none
      else some ((key, ⟨w, room⟩) :: fields)

/-- The written fields of a record whose fields have these names, in their declared order. -/
def ofTerm? (names : List String) (t : Term) : Option Record :=
  if t.room = 0 then none
  else
    match t.written with
    | .object members => (ofMembers? names (t.room - 1) members).map (⟨false, ·⟩)
    | .array items =>
      if names.length < items.length then none
      else some ⟨true, (names.zip items).map fun (name, w) => (name, ⟨w, t.room - 1⟩)⟩
    | _ => none

def required {α : Type} (r : Record) (name : String) (read : Reader α) : Option α :=
  (r.fields.lookup name).bind read

/-- A field that may be null, and in an object be left out. -/
def optional {α : Type} (r : Record) (name : String) (read : Reader α) : Option (Option α) :=
  match r.fields.lookup name with
  | some t => Term.nullable read t
  | none => if r.positional then none else some none

def defaulted {α : Type} (r : Record) (name : String) (default : α) (read : Reader α) : Option α :=
  match r.fields.lookup name with
  | some t => read t
  | none => some default

end Record

def Reader.ofChars? {α : Type} (read : Reader α) (cs : List Char) : Option α :=
  (Written.read? cs).bind fun w => read ⟨w, nestingLimit⟩

/-- What faults say about a text that could not be read, instead of where the reader stopped. -/
def complaint : String := "<json error>"

def read? (cs : List Char) : Option Json := Reader.ofChars? Term.json? cs

end ContractLaunch.Json
