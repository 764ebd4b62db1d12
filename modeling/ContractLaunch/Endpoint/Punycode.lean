/-!
Punycode: text beyond ASCII written in lower-case letters, digits and hyphens. The ASCII characters
stand before the last hyphen; the digits after it are numbers of varying length that say which
character to insert where, in the order of the code points.
-/
namespace ContractLaunch.Endpoint.Punycode

/-- The value of a digit: letters first, then the decimal digits. -/
def digit? (c : Char) : Option Nat :=
  if 'a' ≤ c ∧ c ≤ 'z' then some (c.toNat - 'a'.toNat)
  else if 'A' ≤ c ∧ c ≤ 'Z' then some (c.toNat - 'A'.toNat)
  else if c.isDigit then some (c.toNat - '0'.toNat + 26)
  else none

/-- The least digit that does not end a number, at a position and under a bias. Positions count in
steps of 36. -/
def threshold (position bias : Nat) : Nat := max 1 (min 26 (position - bias))

/-- Divides a step down until it is small; with it goes the bias gained. -/
def settle (step : Nat) : Nat × Nat :=
  if 455 < step then
    let (small, gained) := settle (step / 35)
    (small, gained + 36)
  else (step, 0)
termination_by step
decreasing_by omega

def nextBias (step length : Nat) (isFirst : Bool) : Nat :=
  let step := if isFirst then step / 700 else step / 2
  let (small, gained) := settle (step + step / length)
  gained + 36 * small / (small + 38)

structure State where
  text : List Char
  codePoint : Nat
  /-- The number read so far, counted on from the place of the last insertion. -/
  index : Nat
  start : Nat
  bias : Nat
  weight : Nat
  position : Nat

def State.initial (text : List Char) : State := ⟨text, 128, 0, 0, 72, 1, 36⟩

def char? (n : Nat) : Option Char :=
  if h : n.isValidChar then some (Char.ofNatAux n h) else none

def State.step? (s : State) (c : Char) : Option State := do
  let digit ← digit? c
  let index := s.index + digit * s.weight
  let t := threshold s.position s.bias
  if t ≤ digit then
    some { s with index, weight := s.weight * (36 - t), position := s.position + 36 }
  else
    let length := s.text.length + 1
    let codePoint := s.codePoint + index / length
    let place := index % length
    let char ← char? codePoint
    some {
      text := s.text.take place ++ char :: s.text.drop place
      codePoint
      index := place + 1
      start := place + 1
      bias := nextBias (index - s.start) length (s.start = 0)
      weight := 1
      position := 36 }

/-- The parts before and after the last hyphen; all is in the second part when there is no hyphen or
nothing stands before it. -/
def parts (cs : List Char) : List Char × List Char :=
  let after := (cs.reverse.takeWhile (· ≠ '-')).reverse
  let before := (cs.take (cs.length - after.length)).dropLast
  if before.isEmpty then ([], cs) else (before, after)

def decode? (cs : List Char) : Option (List Char) :=
  let (ascii, digits) := parts cs
  match digits.foldlM State.step? (.initial ascii) with
  | some s => if s.position = 36 then some s.text else none
  | none => none

end ContractLaunch.Endpoint.Punycode
