import ContractLaunch.Json.Basic
/-!
Number literals: their grammar and the values they stand for. A literal with a fraction or an
exponent is read as `digits * 10 ^ exponent` with as many digits as fit in 64 bits, and the power of
ten is applied by one rounded multiplication or division.
-/
namespace ContractLaunch

/-- A number as written: the digits before the point, those after it, and the exponent with whether
it is negative. -/
structure NumberLiteral where
  negative : Bool
  whole : List Char
  fraction : List Char
  exponent : Option (Bool × List Char)
  deriving DecidableEq

namespace NumberLiteral

def spanDigits (cs : List Char) : List Char × List Char :=
  (cs.takeWhile Char.isDigit, cs.dropWhile Char.isDigit)

def scanExponent? (cs : List Char) : Option ((Bool × List Char) × List Char) :=
  let (negative, unsigned) := match cs with
    | '-' :: rest => (true, rest)
    | '+' :: rest => (false, rest)
    | _ => (false, cs)
  let (digits, after) := spanDigits unsigned
  if digits.isEmpty then none else some ((negative, digits), after)

def scanFraction? : List Char → Option (List Char × List Char)
  | '.' :: rest =>
    let (digits, after) := spanDigits rest
    if digits.isEmpty then none else some (digits, after)
  | cs => some ([], cs)

def scanTail? (negative : Bool) (whole : List Char) (cs : List Char) :
    Option (NumberLiteral × List Char) :=
  match scanFraction? cs with
  | none => none
  | some (fraction, after) =>
    match after with
    | 'e' :: rest | 'E' :: rest =>
      (scanExponent? rest).map fun (e, after) => (⟨negative, whole, fraction, some e⟩, after)
    | _ => some (⟨negative, whole, fraction, none⟩, after)

/-- The number literal at the start of a text and what follows it. A literal has at least one digit
before the point, and no zero before other digits there. -/
def scan? (cs : List Char) : Option (NumberLiteral × List Char) :=
  let (negative, unsigned) := match cs with
    | '-' :: rest => (true, rest)
    | _ => (false, cs)
  match spanDigits unsigned with
  | ([], _) => none
  | ('0' :: _ :: _, _) => none
  | (whole, after) => scanTail? negative whole after

def natural? (n : NumberLiteral) : Option Nat :=
  if n.negative || !n.fraction.isEmpty || n.exponent.isSome then none
  else some (Nat.ofDigitChars 10 n.whole 0)

/-- Takes digits into a number as long as it stays below 2⁶⁴; also gives the digits left over. -/
def absorb (number : Nat) : List Char → Nat × List Char
  | [] => (number, [])
  | c :: rest =>
    let more := 10 * number + (c.toNat - '0'.toNat)
    if more < UInt64.size then absorb more rest else (number, c :: rest)

/-- The leading digits of a literal that fit in 64 bits, and the power of ten that belongs to them
by the position of the point alone. -/
def leadingDigits (n : NumberLiteral) : Nat × Int :=
  let (number, dropped) := absorb 0 n.whole
  let (number, ignored) := absorb number n.fraction
  (number, (dropped.length : Int) - (n.fraction.length - ignored.length : Nat))

def statedExponent (n : NumberLiteral) : Int :=
  match n.exponent with
  | none => 0
  | some (negative, digits) =>
    let value : Int := Nat.ofDigitChars 10 digits 0
    if negative then -value else value

def shrinkRepeatedly (places : Nat) (x : Binary64) : Nat → Option Binary64
  | 0 => some x
  | times + 1 =>
    ((Binary64.powerOfTen? places).bind x.div?).bind (shrinkRepeatedly places · times)

/-- Divides by ten to the power of `k`, at most 308 places at a time. Three steps of 308 places take
every 64-bit number to zero, so no more are made. -/
def shrink (x : Binary64) (k : Nat) : Option Binary64 :=
  let times := (k - 1) / 308
  (shrinkRepeatedly 308 x (min times 3)).bind (shrinkRepeatedly (k - 308 * times) · 1)

def grow (x : Binary64) (k : Nat) : Option Binary64 :=
  if k ≤ 308 then (Binary64.powerOfTen? k).bind x.mul?
  else if x.mantissa = 0 then some x
  else none

def real? (n : NumberLiteral) : Option Binary64 := do
  let (digits, position) := n.leadingDigits
  let start ← Binary64.nearest? digits 1
  let magnitude ← match position + n.statedExponent with
    | .ofNat k => grow start k
    | .negSucc k => shrink start (k + 1)
  return magnitude.withSign n.negative

/-- The value of a literal. One without fraction and exponent is a whole number if it is in the range
of signed or unsigned 64-bit integers and not a negative zero. -/
def value? (n : NumberLiteral) : Option JsonNumber :=
  if n.fraction.isEmpty && n.exponent.isNone then
    let magnitude := Nat.ofDigitChars 10 n.whole 0
    if !n.negative && magnitude < UInt64.size then some (.integer magnitude)
    else if n.negative && 0 < magnitude && magnitude ≤ 0x8000000000000000 then some (.integer (-magnitude))
    else n.real?.map .real
  else n.real?.map .real

theorem length_spanDigits (cs : List Char) :
    (spanDigits cs).1.length + (spanDigits cs).2.length = cs.length := by
  rw [← List.length_append, spanDigits, List.takeWhile_append_dropWhile]

theorem length_scanExponent? {cs : List Char} {r} (h : scanExponent? cs = some r) :
    r.2.length ≤ cs.length := by
  unfold scanExponent? at h
  split at h
  next negative unsigned hu =>
    have hlen : unsigned.length ≤ cs.length := by
      split at hu <;> simp only [Prod.mk.injEq] at hu <;> obtain ⟨-, rfl⟩ := hu <;> simp
    have := length_spanDigits unsigned
    split at h
    next digits after hd =>
      rw [hd] at this
      split at h
      · simp at h
      · obtain rfl := Option.some.inj h
        simp only at this ⊢
        omega

theorem length_scanFraction? {cs : List Char} {r} (h : scanFraction? cs = some r) :
    r.2.length ≤ cs.length := by
  unfold scanFraction? at h
  split at h
  next rest =>
    have := length_spanDigits rest
    dsimp only at h
    split at h
    · simp at h
    · obtain rfl := Option.some.inj h
      simp only [List.length_cons]
      omega
  · obtain rfl := Option.some.inj h
    exact Nat.le_refl _

theorem length_scanTail? {negative whole cs} {r} (h : scanTail? negative whole cs = some r) :
    r.2.length ≤ cs.length := by
  unfold scanTail? at h
  split at h
  · simp at h
  next fraction after hf =>
    have hlen := length_scanFraction? hf
    simp only at hlen
    split at h
    next rest =>
      obtain ⟨e, he, rfl⟩ := Option.map_eq_some_iff.mp h
      have := length_scanExponent? he
      simp only [List.length_cons] at hlen ⊢
      omega
    next rest =>
      obtain ⟨e, he, rfl⟩ := Option.map_eq_some_iff.mp h
      have := length_scanExponent? he
      simp only [List.length_cons] at hlen ⊢
      omega
    · obtain rfl := Option.some.inj h
      exact hlen

theorem length_scan?_lt {cs : List Char} {r} (h : scan? cs = some r) : r.2.length < cs.length := by
  unfold scan? at h
  split at h
  next negative unsigned hu =>
    have hlen : unsigned.length ≤ cs.length := by
      split at hu <;> simp only [Prod.mk.injEq] at hu <;> obtain ⟨-, rfl⟩ := hu <;> simp
    have hspan := length_spanDigits unsigned
    split at h
    · simp at h
    · simp at h
    next whole after hne _ hs =>
      rw [hs] at hspan
      have := length_scanTail? h
      have : whole ≠ [] := by rintro rfl; exact hne rfl
      have := List.length_pos_iff.mpr this
      simp only at hspan
      omega

end NumberLiteral

end ContractLaunch
