import ContractLaunch.Binary64.Basic
/-!
JSON values. An object is a list of members in the order in which they are printed; `Json.insert`
keeps a list of members sorted by key with one member per key, and values that are read from text
have only such objects.
-/
namespace ContractLaunch

/-- A number: a whole number in the range of 64-bit integers, signed or unsigned, or a binary64
number. Records also write 128-bit amounts as whole numbers. -/
inductive JsonNumber where
  | integer (value : Int)
  | real (value : Binary64)
  deriving DecidableEq

inductive Json where
  | null
  | bool (value : Bool)
  | number (value : JsonNumber)
  | text (value : String)
  | array (items : List Json)
  | object (members : List (String × Json))

namespace Json

instance : Inhabited Json := ⟨.null⟩

def empty : Json := .object []

def ofNat (n : Nat) : Json := .number (.integer n)

def ofOption {α : Type} (write : α → Json) : Option α → Json
  | none => .null
  | some a => write a

/-- The members with the value put under the key, in the place that the order of the keys gives it;
a member that had the key is replaced. -/
def insert {α : Type} (key : String) (value : α) : List (String × α) → List (String × α)
  | [] => [(key, value)]
  | (k, v) :: rest =>
    if key = k then (key, value) :: rest
    else if key < k then (key, value) :: (k, v) :: rest
    else (k, v) :: insert key value rest

/-- The members sorted by key; of several with one key the last counts. -/
def sorted {α : Type} (members : List (String × α)) : List (String × α) :=
  members.foldl (fun acc (k, v) => insert k v acc) []

def get? (key : String) : Json → Option Json
  | .object members => members.lookup key
  | _ => none

end Json

end ContractLaunch
