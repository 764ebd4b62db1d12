import ContractLaunch.Endpoint.Name.Direction
import ContractLaunch.Endpoint.Name.Disallowed
import ContractLaunch.Endpoint.Name.Folding
import ContractLaunch.Endpoint.Name.Joining
import ContractLaunch.Endpoint.Punycode
/-!
Host names. A name is folded, cut into labels at its points, and every label is checked; a label that
starts with `xn--` is checked in its decoded form, which must need that form. A name may have any
length, and labels may be empty, but a label beyond ASCII must not be too long to encode.
-/
namespace ContractLaunch.Endpoint.Name

def delimiters : List Char :=
  ['%', '#', '/', ':', '<', '>', '?', '@', '[', '\\', ']', '^', '|']

/-- Whether an ASCII character may not stand in a host name: a control, a space or a delimiter. -/
def isDenied (c : Char) : Bool := c.toNat ≤ 0x20 || c.toNat = 0x7F || delimiters.contains c

def isAscii (c : Char) : Bool := c.toNat < 0x80

def encodedStart : List Char := ['x', 'n', '-', '-']

def longestLabel : Nat := 1000

def longestCode : Nat := 2000

def isLabel (label : List Char) : Bool :=
  (label.all isAscii || label.length ≤ longestLabel) &&
    !(label.head?.map isMark).getD false && joinersFit [] label

/-- The label that a Punycode text stands for. It must be beyond ASCII and in its final form. -/
def decodedLabel? (code : List Char) : Option (List Char) :=
  if longestCode < code.length then none
  else
    (Punycode.decode? code).filter fun label =>
      !label.all isAscii && !label.any isDisallowed && folded label = label && isLabel label

/-- The final form of a label that was folded; `none` if it may not stand in a host name. -/
def label? (label : List Char) : Option (List Char) :=
  if encodedStart.isPrefixOf label then
    if label.all isAscii then decodedLabel? (label.drop encodedStart.length) else none
  else if isLabel label then some label
  else none

def labels? (name : List Char) : Option (List (List Char)) :=
  let final := folded name
  if final.isEmpty || name.any isDisallowed || final.any isDenied then none
  else
    match (final.splitOn '.').mapM label? with
    | none => none
    | some labels =>
      if labels.any (·.any isRightToLeft) && !labels.all readsOneWay then none else some labels

end ContractLaunch.Endpoint.Name
