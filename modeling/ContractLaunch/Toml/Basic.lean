import ContractLaunch.Json.Basic
/-!
TOML values, and the JSON values that messages written in TOML stand for.
-/
namespace ContractLaunch

inductive Toml where
  | text (value : String)
  | integer (value : Int)
  /-- A binary64 number, or `none` for an infinity or a value that is no number. -/
  | float (value : Option Binary64)
  | bool (value : Bool)
  | datetime (written : String)
  | array (items : List Toml)
  | table (members : List (String × Toml))

namespace Toml

instance : Inhabited Toml := ⟨.table []⟩

def datetimeKey : String := "$__toml_private_datetime"

mutual

/-- The JSON value that a TOML value stands for. JSON has no infinities and no value that is no
number; they become null. -/
def json : Toml → Json
  | text s => .text s
  | integer n => .number (.integer n)
  | float none => .null
  | float (some x) => .number (.real x)
  | bool b => .bool b
  | datetime written => .object [(datetimeKey, .text written)]
  | array items => .array (jsonItems items)
  | table members => .object (Json.sorted (jsonMembers members))

def jsonItems : List Toml → List Json
  | [] => []
  | v :: vs => json v :: jsonItems vs

def jsonMembers : List (String × Toml) → List (String × Json)
  | [] => []
  | (k, v) :: ms => (k, json v) :: jsonMembers ms

end

end Toml

end ContractLaunch
