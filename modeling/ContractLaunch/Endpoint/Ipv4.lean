import ContractLaunch.Text.Numeral
/-!
IPv4 addresses as host names write them: one to four numbers between points, each decimal, octal
after a `0`, or hexadecimal after `0x`. The last number fills the bytes that the others leave.
-/
namespace ContractLaunch.Endpoint.Ipv4

def number? : List Char → Option Nat
  | [] => none
  | '0' :: 'x' :: cs | '0' :: 'X' :: cs => Numeral.digits? 16 cs
  | '0' :: c :: cs => Numeral.digits? 8 (c :: cs)
  | cs => Numeral.digits? 10 cs

def withoutEnd (labels : List (List Char)) : List (List Char) :=
  if labels.getLast? = some [] then labels.dropLast else labels

/-- Whether the last label of a host name reads as a number, so that the name has to be an
address. -/
def isAttempted (labels : List (List Char)) : Bool :=
  match (withoutEnd labels).getLast? with
  | none => false
  | some label => (Numeral.read? label).isSome || (number? label).isSome

def ofNumbers? (numbers : List Nat) : Option Nat :=
  match numbers.getLast? with
  | none => none
  | some last =>
    let bytes := numbers.dropLast
    if 3 < bytes.length || bytes.any (255 < ·) || Nat.pow 256 (4 - bytes.length) ≤ last then none
    else some (bytes.foldl (fun n b => n * 256 + b) 0 * Nat.pow 256 (4 - bytes.length) + last)

def read? (labels : List (List Char)) : Option Nat :=
  ((withoutEnd labels).mapM number?).bind ofNumbers?

end ContractLaunch.Endpoint.Ipv4
