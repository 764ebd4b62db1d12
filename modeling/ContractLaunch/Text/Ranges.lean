/-!
Sets of characters as ascending inclusive ranges of code points.
-/
namespace ContractLaunch.Text

def inRanges (ranges : List (Nat × Nat)) (c : Char) : Bool :=
  ranges.any fun (first, last) => first ≤ c.toNat && c.toNat ≤ last

end ContractLaunch.Text
