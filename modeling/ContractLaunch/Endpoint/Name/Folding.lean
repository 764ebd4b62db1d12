import ContractLaunch.Endpoint.Name.Folding.Abbreviation
import ContractLaunch.Endpoint.Name.Folding.Ideograph
import ContractLaunch.Endpoint.Name.Folding.Letter
import ContractLaunch.Text.Composition
import ContractLaunch.Text.Ranges
/-!
Folding of host names. A character may stand for nothing, for another character or for several; a
name is looked up in its folded form, which is composed.
-/
namespace ContractLaunch.Endpoint.Name

def ignoredRanges : List (Nat × Nat) := [
  (0xAD, 0xAD), (0x34F, 0x34F), (0x115F, 0x1160), (0x17B4, 0x17B5), (0x180B, 0x180F),
  (0x200B, 0x200B), (0x2060, 0x2064), (0x206A, 0x206F), (0x3164, 0x3164), (0xFE00, 0xFE0F),
  (0xFEFF, 0xFEFF), (0xFFA0, 0xFFA0), (0x1BCA0, 0x1BCA3), (0x1D173, 0x1D17A), (0xE0100, 0xE01EF)]

def fold (c : Char) : List Char :=
  if c.toNat < 0x80 then [c.toLower]
  else if Text.inRanges ignoredRanges c then []
  else
    match (ideograph? c).or (letter? c) with
    | some image => [image]
    | none => (expansion? c).getD [c]

def folded (cs : List Char) : List Char := Text.Composition.composed (cs.flatMap fold)

end ContractLaunch.Endpoint.Name
