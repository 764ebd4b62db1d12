/-!
White space and the line structure of a text. A blank is a character with the Unicode property
`White_Space`; trimming removes blanks from both ends, and the first line of a text is its first
line that is not all blank, trimmed.
-/
namespace ContractLaunch.Text

/-- The characters with the Unicode property `White_Space`. The zero-width space, the byte order
mark and the separators U+001C to U+001F do not have it. -/
def isBlank (c : Char) : Bool :=
  let n := c.toNat
  (9 ≤ n && n ≤ 13) || n == 0x20 || n == 0x85 || n == 0xA0 || n == 0x1680 ||
    (0x2000 ≤ n && n ≤ 0x200A) || n == 0x2028 || n == 0x2029 || n == 0x202F || n == 0x205F ||
    n == 0x3000

def trimStart (cs : List Char) : List Char := cs.dropWhile isBlank

def trimEnd (cs : List Char) : List Char := (cs.reverse.dropWhile isBlank).reverse

def trim (cs : List Char) : List Char := trimEnd (trimStart cs)

def trimmed (s : String) : String := String.ofList (trim s.toList)

def isAllBlank (s : String) : Bool := s.toList.all isBlank

def words (s : String) : List (List Char) :=
  (s.toList.splitOnP isBlank).filter (!·.isEmpty)

/-- The lines of a text, each trimmed. A line ends at a line feed; a carriage return before it is a
blank, so trimming removes it. -/
def lines (cs : List Char) : List (List Char) := (cs.splitOn '\n').map trim

def firstLine (cs : List Char) : List Char := ((lines cs).find? (!·.isEmpty)).getD []

end ContractLaunch.Text
