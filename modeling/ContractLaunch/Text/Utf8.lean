/-!
UTF-8. A sequence of bytes falls into characters and faults; a fault is a longest run of bytes that
starts a well-formed character without completing it, or one byte that starts none. Strict reading
refuses any fault, lenient reading writes U+FFFD for each.
-/
namespace ContractLaunch

abbrev Bytes := List UInt8

namespace Utf8

/-- A character that has been begun: the continuation bytes still owed, the range allowed for the
next of them, and the bits read so far. -/
structure Begun where
  tails : Nat
  low : UInt8
  high : UInt8
  bits : Nat

/-- The character that a lead byte begins; an ASCII byte owes nothing more. -/
def lead? (b : UInt8) : Option Begun :=
  if b < 0x80 then some ⟨0, 0x80, 0xBF, b.toNat⟩
  else if 0xC2 ≤ b && b ≤ 0xDF then some ⟨1, 0x80, 0xBF, b.toNat - 0xC0⟩
  else if b == 0xE0 then some ⟨2, 0xA0, 0xBF, 0⟩
  else if b == 0xED then some ⟨2, 0x80, 0x9F, 0xD⟩
  else if 0xE1 ≤ b && b ≤ 0xEF then some ⟨2, 0x80, 0xBF, b.toNat - 0xE0⟩
  else if b == 0xF0 then some ⟨3, 0x90, 0xBF, 0⟩
  else if 0xF1 ≤ b && b ≤ 0xF3 then some ⟨3, 0x80, 0xBF, b.toNat - 0xF0⟩
  else if b == 0xF4 then some ⟨3, 0x80, 0x8F, 4⟩
  else none

/-- The units of a byte sequence: `some c` for a character, `none` for a fault. `begun` is the
character that the bytes before have begun and not completed; a byte that does not continue it is a
fault before it and starts afresh. -/
def unitsFrom (begun : Option Begun) : Bytes → List (Option Char)
  | [] => if begun.isSome then [none] else []
  | b :: rest =>
    match begun.filter fun current => current.low ≤ b && b ≤ current.high with
    | some current =>
      let bits := current.bits * 64 + (b.toNat - 0x80)
      if current.tails ≤ 1 then some (Char.ofNat bits) :: unitsFrom none rest
      else unitsFrom (some ⟨current.tails - 1, 0x80, 0xBF, bits⟩) rest
    | none =>
      let fault : List (Option Char) := if begun.isSome then [none] else []
      match lead? b with
      | none => fault ++ none :: unitsFrom none rest
      | some new =>
        if new.tails = 0 then fault ++ some (Char.ofNat new.bits) :: unitsFrom none rest
        else fault ++ unitsFrom (some new) rest

def units (bytes : Bytes) : List (Option Char) := unitsFrom none bytes

def decode? (bytes : Bytes) : Option String := ((units bytes).mapM id).map String.ofList

/-- The text that the bytes encode, with U+FFFD for each fault. -/
def decodeLenient (bytes : Bytes) : String :=
  String.ofList ((units bytes).map (·.getD '\uFFFD'))

def encode (s : String) : Bytes := s.toUTF8.toList

end Utf8

end ContractLaunch
