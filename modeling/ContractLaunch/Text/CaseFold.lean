/-!
Comparing without regard to case, for marks made of ASCII letters. Only two characters outside ASCII
have an ASCII letter in their lower-case form, the Kelvin sign (`k`) and the capital I with a dot
(`i` and a combining dot), so folding these and the ASCII capitals decides whether such a mark occurs
in the lower-case form of a text.
-/
namespace ContractLaunch.Text

/-- The lower-case form of a character, as far as it has ASCII letters in it. -/
def foldChar (c : Char) : List Char :=
  if c = '\u212A' then ['k']
  else if c = '\u0130' then ['i', '\u0307']
  else [c.toLower]

def foldCase (cs : List Char) : List Char := cs.flatMap foldChar

end ContractLaunch.Text
