import ContractLaunch.Toml.Draft
import ContractLaunch.Toml.Quoted
import ContractLaunch.Toml.Scalar
/-!
Reading TOML documents. A value is read with its open arrays and inline tables on a stack; a document
is read line by line into the tables that its headers and dotted keys define.
-/
namespace ContractLaunch.Toml

def nestingLimit : Nat := 79

def isBlank (c : Char) : Bool := c = ' ' || c = '\t'

def isBareChar (c : Char) : Bool := c.isAlphanum || c = '_' || c = '-'

def afterBreak? : List Char → Option (List Char)
  | '\r' :: '\n' :: rest | '\n' :: rest => some rest
  | _ => none

def afterComment : List Char → List Char
  | '#' :: rest => rest.dropWhile Quoted.isPlain
  | cs => cs

/-- What follows the end of a line: blanks, perhaps a comment, and a line break or the end of the
text. -/
def afterLine? (cs : List Char) : Option (List Char) :=
  match afterComment (cs.dropWhile isBlank) with
  | [] => some []
  | rest => afterBreak? rest

/-- What follows blanks, line breaks and comments; at most `lines` breaks. `none` if a comment does
not end in a line break. -/
def afterBlankLines? : (lines : Nat) → List Char → Option (List Char)
  | 0, cs => some cs
  | n + 1, cs =>
    let cs := cs.dropWhile isBlank
    match cs with
    | '#' :: _ => (afterBreak? (afterComment cs)).bind (afterBlankLines? n)
    | '\r' :: _ | '\n' :: _ => (afterBreak? cs).bind (afterBlankLines? n)
    | _ => some cs

def keyStep? (cs : List Char) : Option (String × List Char) :=
  match Quoted.line? cs with
  | some (quoted, rest) => some (String.ofList quoted, rest)
  | none =>
    let bare := cs.takeWhile isBareChar
    if bare.isEmpty then none else some (String.ofList bare, cs.dropWhile isBareChar)

def keySteps? : (limit : Nat) → List Char → Option (List String × List Char)
  | 0, _ => none
  | n + 1, cs =>
    match keyStep? (cs.dropWhile isBlank) with
    | none => none
    | some (step, rest) =>
      match rest.dropWhile isBlank with
      | '.' :: rest => (keySteps? n rest).map fun (steps, rest) => (step :: steps, rest)
      | rest => some ([step], rest)

structure Key where
  path : List String
  last : String

def key? (cs : List Char) : Option (Key × List Char) := do
  let (steps, rest) ← keySteps? nestingLimit cs
  let last ← steps.getLast?
  return (⟨steps.dropLast, last⟩, rest)

inductive Frame where
  /-- The items so far, latest first. -/
  | array (done : List Toml)
  | table (done : Members) (key : Key)

inductive Expecting where
  | value
  | item (done : List Toml)
  /-- A key of an inline table that holds these members; its end only if `mayEnd`. -/
  | key (done : Members) (mayEnd : Bool)
  | next (complete : Toml)

/-- What may come next after the start of a value inside these open arrays and inline tables, and the
rest of the text. -/
def startValue? (stack : List Frame) (cs : List Char) : Option (Expecting × List Char) :=
  match cs with
  | '[' :: rest => if stack.length < nestingLimit then some (.item [], rest) else none
  | '\x7b' :: rest => if stack.length < nestingLimit then some (.key [] true, rest) else none
  | '"' :: _ | '\'' :: _ =>
    (Quoted.read? cs).map fun (quoted, rest) => (.next (.text (String.ofList quoted)), rest)
  | _ =>
    let (word, rest) := Scalar.word cs
    (Scalar.read? word).map fun v => (.next v, rest)

/-- Reads a value to its end, in at most `fuel` steps; every step but the last takes a character. -/
def readValue? : (fuel : Nat) → Expecting → List Frame → List Char → Option (Toml × List Char)
  | 0, _, _, _ => none
  | n + 1, expecting, stack, cs =>
    match expecting, stack with
    | .value, _ => (startValue? stack cs).bind fun (e, rest) => readValue? n e stack rest
    | .item done, _ => do
      match ← afterBlankLines? cs.length cs with
      | ']' :: rest => readValue? n (.next (.array done.reverse)) stack rest
      | rest =>
        let stack := .array done :: stack
        let (e, rest) ← startValue? stack rest
        readValue? n e stack rest
    | .key done mayEnd, _ => do
      match mayEnd, cs.dropWhile isBlank with
      | true, '\x7d' :: rest => readValue? n (.next (.table (closeMembers done))) stack rest
      | _, rest =>
        let (key, rest) ← key? rest
        match rest with
        | '=' :: rest =>
          let stack := .table done key :: stack
          let (e, rest) ← startValue? stack (rest.dropWhile isBlank)
          readValue? n e stack rest
        | _ => none
    | .next v, [] => some (v, cs)
    | .next v, .array done :: stack => do
      match ← afterBlankLines? cs.length cs with
      | ',' :: rest => readValue? n (.item (v :: done)) stack rest
      | ']' :: rest => readValue? n (.next (.array (v :: done).reverse)) stack rest
      | _ => none
    | .next v, .table done key :: stack => do
      let done ← done.assign? key.last v key.path
      match cs.dropWhile isBlank with
      | ',' :: rest => readValue? n (.key done false) stack rest
      | '\x7d' :: rest => readValue? n (.next (.table (closeMembers done))) stack rest
      | _ => none

def value? (cs : List Char) : Option (Toml × List Char) :=
  readValue? (cs.length + 1) .value [] cs

/-- A document while it is being read: its top table, and the steps to the table that keys now go
to. -/
structure Document where
  top : Members
  current : List String

def Document.assign? (d : Document) (key : Key) (v : Toml) : Option Document := do
  let top ← d.top.descend? (·.assign? key.last v key.path) d.current
  return { d with top }

def Document.define? (d : Document) (key : Key) : Option Document := do
  let top ← d.top.descend? (·.define? key.last) key.path
  return ⟨top, key.path ++ [key.last]⟩

def Document.extend? (d : Document) (key : Key) : Option Document := do
  let top ← d.top.descend? (·.extend? key.last) key.path
  return ⟨top, key.path ++ [key.last]⟩

def Document.line? (d : Document) (cs : List Char) : Option (Document × List Char) :=
  match cs with
  | '#' :: _ => (afterLine? cs).map (d, ·)
  | '\r' :: _ | '\n' :: _ => (afterBreak? cs).map (d, ·)
  | '[' :: '[' :: rest => do
    match ← key? rest with
    | (key, ']' :: ']' :: rest) => return (← d.extend? key, ← afterLine? rest)
    | _ => none
  | '[' :: rest => do
    match ← key? rest with
    | (key, ']' :: rest) => return (← d.define? key, ← afterLine? rest)
    | _ => none
  | _ => do
    match ← key? cs with
    | (key, '=' :: rest) =>
      let (v, rest) ← value? (rest.dropWhile isBlank)
      return (← d.assign? key v, ← afterLine? rest)
    | _ => none

/-- Reads lines up to the end of the text, at most `fuel`; every line takes a character. -/
def Document.lines? : (fuel : Nat) → Document → List Char → Option Document
  | 0, _, _ => none
  | n + 1, d, cs =>
    match cs.dropWhile isBlank with
    | [] => some d
    | cs => (d.line? cs).bind fun (d, rest) => Document.lines? n d rest

def withoutMark : List Char → List Char
  | '\uFEFF' :: cs => cs
  | cs => cs

def read? (s : String) : Option (List (String × Toml)) :=
  let cs := withoutMark s.toList
  (Document.lines? (cs.length + 1) ⟨[], []⟩ cs).map fun d => closeMembers d.top

end ContractLaunch.Toml
