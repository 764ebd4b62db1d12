import ContractLaunch.Text.Composition.Double
import ContractLaunch.Text.Composition.Order
import ContractLaunch.Text.Composition.Pair
/-!
The composed form of a text (normal form C). Many characters can be written as one code point or as
several; in the composed form each is written one way: a text is taken apart, its marks are put in
order, and then every mark is joined to its letter where a single code point for both exists.
-/
namespace ContractLaunch.Text.Composition

def syllableBase : Nat := 0xAC00

def syllablesPerLead : Nat := 588

def syllablesPerVowel : Nat := 28

def syllableCount : Nat := 11172

def syllableLetters (index : Nat) : List Char :=
  let letters := [
    Char.ofNat (0x1100 + index / syllablesPerLead),
    Char.ofNat (0x1161 + index % syllablesPerLead / syllablesPerVowel)]
  if index % syllablesPerVowel = 0 then letters
  else letters ++ [Char.ofNat (0x11A7 + index % syllablesPerVowel)]

/-- The Hangul syllable of a consonant and a vowel, or of a syllable without final consonant and that
consonant. -/
def syllable? (first second : Char) : Option Char :=
  let a := first.toNat
  let b := second.toNat
  if 0x1100 ≤ a && a < 0x1113 && 0x1161 ≤ b && b < 0x1176 then
    some (Char.ofNat
      (syllableBase + (a - 0x1100) * syllablesPerLead + (b - 0x1161) * syllablesPerVowel))
  else if syllableBase ≤ a && a < syllableBase + syllableCount &&
      (a - syllableBase) % syllablesPerVowel = 0 && 0x11A8 ≤ b && b < 0x11C3 then
    some (Char.ofNat (a + (b - 0x11A7)))
  else none

/-- What a character falls into in one step; `none` for a character that is simple. No character
below U+00C0 falls apart. -/
def split? (c : Char) : Option (List Char) :=
  let n := c.toNat
  if n < 0xC0 then none
  else if syllableBase ≤ n && n < syllableBase + syllableCount then
    some (syllableLetters (n - syllableBase))
  else
    match (compositePairs ++ separatePairs).find? fun (whole, _, _) => whole = n with
    | some (_, first, second) => some [Char.ofNat first, Char.ofNat second]
    | none => (double? n).map fun image => [Char.ofNat image]

/-- The simple characters that a character consists of. No character falls apart in more than four
steps. -/
def simpleParts (steps : Nat) (c : Char) : List Char :=
  match steps with
  | 0 => [c]
  | steps + 1 =>
    match split? c with
    | some parts => parts.flatMap (simpleParts steps)
    | none => [c]

def decomposed (cs : List Char) : List Char := ordered (cs.flatMap (simpleParts 4))

def composite? (first second : Char) : Option Char :=
  match syllable? first second with
  | some whole => some whole
  | none =>
    match compositePairs.find? fun (_, a, b) => b = second.toNat && a = first.toNat with
    | some (whole, _, _) => some (Char.ofNat whole)
    | none => none

/-- Joins to a letter what follows it. `marks` are the marks after the letter that could not be
joined, latest first; a mark is out of reach of the letter behind another of its class. -/
def join (letter : Char) (marks : List Char) : List Char → List Char
  | [] => letter :: marks.reverse
  | c :: rest =>
    let isReached := marks.head?.all fun last => combiningClass last < combiningClass c
    match if isReached then composite? letter c else none with
    | some whole => join whole marks rest
    | none =>
      if combiningClass c = 0 then letter :: (marks.reverse ++ join c [] rest)
      else join letter (c :: marks) rest

def joined : List Char → List Char
  | [] => []
  | c :: rest => if combiningClass c = 0 then join c [] rest else c :: joined rest

def composed (cs : List Char) : List Char := joined (decomposed cs)

end ContractLaunch.Text.Composition
