import ContractLaunch.Json.Token
/-!
JSON text as a tree that keeps what the text says: members in their order with repeated keys, and
numbers as written. The tree is built from the tokens one at a time, with the open arrays and objects
on a stack, so nesting needs no recursion.
-/
namespace ContractLaunch.Json

inductive Written where
  | null
  | bool (value : Bool)
  | number (literal : NumberLiteral)
  | text (value : Option String)
  | array (items : List Written)
  | object (members : List (Option String × Written))

namespace Written

instance : Inhabited Written := ⟨.null⟩

/-- An open array or object: what it holds so far, latest first, and for an object the key whose
value is being read. -/
inductive Frame where
  | array (done : List Written)
  | object (done : List (Option String × Written)) (key : Option String)

inductive Expecting where
  | value
  | firstItem
  | firstKey
  /-- A further key of an object that holds these members, latest first. -/
  | key (done : List (Option String × Written))
  /-- The colon after a key of an object that holds these members, latest first. -/
  | colon (done : List (Option String × Written)) (key : Option String)
  | next (complete : Written)

/-- The state of reading: what may come next, inside which open arrays and objects. -/
abbrev State := Expecting × List Frame

/-- The state after a token where a value may start; `none` for a token that starts no value. -/
def start? (token : Token) (stack : List Frame) : Option State :=
  match token with
  | .null => some (.next .null, stack)
  | .bool b => some (.next (.bool b), stack)
  | .number n => some (.next (.number n), stack)
  | .text t => some (.next (.text t), stack)
  | .beginArray => some (.firstItem, stack)
  | .beginObject => some (.firstKey, stack)
  | _ => none

def step? : State → Token → Option State
  | (.value, stack), token => start? token stack
  | (.firstItem, stack), .endArray => some (.next (.array []), stack)
  | (.firstItem, stack), token => start? token (.array [] :: stack)
  | (.firstKey, stack), .endObject => some (.next (.object []), stack)
  | (.firstKey, stack), .text key => some (.colon [] key, stack)
  | (.key done, stack), .text key => some (.colon done key, stack)
  | (.colon done key, stack), .colon => some (.value, .object done key :: stack)
  | (.next w, .array done :: stack), .comma => some (.value, .array (w :: done) :: stack)
  | (.next w, .array done :: stack), .endArray =>
    some (.next (.array (w :: done).reverse), stack)
  | (.next w, .object done key :: stack), .comma => some (.key ((key, w) :: done), stack)
  | (.next w, .object done key :: stack), .endObject =>
    some (.next (.object ((key, w) :: done).reverse), stack)
  | _, _ => none

def ofTokens? (tokens : List Token) : Option Written :=
  match tokens.foldlM step? (.value, []) with
  | some (.next w, []) => some w
  | _ => none

def read? (cs : List Char) : Option Written := (lex? cs).bind ofTokens?

end Written

end ContractLaunch.Json
