import ContractLaunch.Text.Numeral
import ContractLaunch.Text.Search
/-!
IPv6 addresses: eight pieces of up to four hexadecimal digits between colons. One double colon may
stand for any number of zero pieces but none, and four decimal bytes between points may stand for the
last two pieces.
-/
namespace ContractLaunch.Endpoint.Ipv6

def piece? (cs : List Char) : Option Nat :=
  if cs.isEmpty || 4 < cs.length then none else Numeral.digits? 16 cs

def byte? (cs : List Char) : Option Nat :=
  if 1 < cs.length && cs.head? = some '0' then none else Numeral.readBelow? 256 cs

def lastPieces? (cs : List Char) : Option (List Nat) :=
  if cs.contains '+' then none
  else
    match (cs.splitOn '.').mapM byte? with
    | some [a, b, c, d] => some [a * 256 + b, c * 256 + d]
    | _ => none

/-- The pieces between colons; the last one may be written as bytes where that is allowed. -/
def pieces? (bytesAllowed : Bool) : List (List Char) → Option (List Nat)
  | [] => some []
  | [cs] =>
    if bytesAllowed && cs.contains '.' then lastPieces? cs else (piece? cs).map ([·])
  | cs :: rest =>
    match piece? cs, pieces? bytesAllowed rest with
    | some n, some ns => some (n :: ns)
    | _, _ => none

/-- The pieces that one side of a double colon writes; an empty side writes none. -/
def side? (bytesAllowed : Bool) (cs : List Char) : Option (List Nat) :=
  if cs.isEmpty then some [] else pieces? bytesAllowed (cs.splitOn ':')

def read? (cs : List Char) : Option (List Nat) :=
  match Text.splitFirst? [':', ':'] cs with
  | none => (side? true cs).filter (·.length = 8)
  | some (before, after) =>
    match side? false before, side? true after with
    | some high, some low =>
      if high.length + low.length < 8 then
        some (high ++ List.replicate (8 - high.length - low.length) 0 ++ low)
      else none
    | _, _ => none

end ContractLaunch.Endpoint.Ipv6
