import ContractLaunch.Proofs.Settings.Offer
import ContractLaunch.Proofs.Setup.Course
/-!
What keeps a NUL out of a command. No message, price or code id is written with one; so if the upload of
a session could be given to the daemon, its instantiation can be given as well, unless there is a NUL in
the label of the contract.
-/
namespace ContractLaunch

theorem Numeral.nul_not_mem {digits : List Char} (all : ∀ c ∈ digits, c.isDigit = true) :
    '\x00' ∉ digits := by
  intro inside
  cases all _ inside

namespace Binary64

theorem nul_not_mem_shortestDigits (x : Binary64) : '\x00' ∉ x.shortestDigits.1 := by
  unfold shortestDigits
  dsimp only
  split
  · decide
  next count d _ =>
    intro inside
    rw [List.mem_reverse] at inside
    have digit := (List.dropWhile_suffix _).subset inside
    exact Numeral.nul_not_mem Numeral.isDigit_of_mem_toDigits (List.mem_reverse.mp digit)

theorem nul_not_mem_layout {style : PositionalRange} {digits : List Char} {point : Int}
    (clean : '\x00' ∉ digits) : '\x00' ∉ layout style digits point := by
  have front (n : Nat) : '\x00' ∉ digits.take n := fun inside => clean (List.mem_of_mem_take inside)
  have back (n : Nat) : '\x00' ∉ digits.drop n := fun inside => clean (List.mem_of_mem_drop inside)
  have rest : '\x00' ∉ digits.tail := fun inside => clean (List.mem_of_mem_tail inside)
  have exponent (n : Nat) : '\x00' ∉ Nat.toDigits 10 n :=
    Numeral.nul_not_mem Numeral.isDigit_of_mem_toDigits
  unfold layout
  dsimp only
  split
  · split
    · simp [clean]
    · split <;> simp [front, back]
  · split <;> split <;> simp [front, rest, exponent]

theorem nul_not_mem_written (x : Binary64) : '\x00' ∉ x.written := by
  have magnitude : '\x00' ∉ layout messageRange x.shortestDigits.1 x.shortestDigits.2 :=
    nul_not_mem_layout x.nul_not_mem_shortestDigits
  unfold written
  dsimp only
  split <;> split <;> simp [magnitude]

end Binary64

namespace Json

theorem nul_not_mem_escapedChar (c : Char) : '\x00' ∉ escapedChar c := by
  have digit : ∀ n < 0x20, Nat.digitChar (n / 16) ≠ '\x00' ∧ Nat.digitChar (n % 16) ≠ '\x00' := by
    decide
  unfold escapedChar
  split
  case h_8 =>
    split
    next control =>
      obtain ⟨high, low⟩ := digit _ control
      simp [high.symm, low.symm]
    next printable =>
      rw [List.mem_singleton]
      rintro rfl
      exact printable (by decide)
  all_goals decide

theorem nul_not_mem_quotedChars (s : String) : '\x00' ∉ quotedChars s := by
  simp [quotedChars, nul_not_mem_escapedChar]

theorem nul_not_mem_numberChars (n : JsonNumber) : '\x00' ∉ numberChars n := by
  have digits (n : Nat) : '\x00' ∉ Nat.toDigits 10 n :=
    Numeral.nul_not_mem Numeral.isDigit_of_mem_toDigits
  unfold numberChars
  split
  · exact digits _
  · simp [digits]
  · exact Binary64.nul_not_mem_written _

mutual

theorem nul_not_mem_chars (j : Json) : '\x00' ∉ chars j := by
  match j with
  | .null | .bool true | .bool false | .array [] | .object [] => simp [chars]
  | .number n =>
    rw [chars]
    exact nul_not_mem_numberChars n
  | .text s =>
    rw [chars]
    exact nul_not_mem_quotedChars s
  | .array (v :: vs) => simp [chars, nul_not_mem_chars v, nul_not_mem_moreItems vs]
  | .object ((k, v) :: ms) =>
    simp [chars, nul_not_mem_quotedChars k, nul_not_mem_chars v, nul_not_mem_moreMembers ms]

theorem nul_not_mem_moreItems (vs : List Json) : '\x00' ∉ moreItems vs := by
  match vs with
  | [] => simp [moreItems]
  | v :: vs => simp [moreItems, nul_not_mem_chars v, nul_not_mem_moreItems vs]

theorem nul_not_mem_moreMembers (ms : List (String × Json)) : '\x00' ∉ moreMembers ms := by
  match ms with
  | [] => simp [moreMembers]
  | (k, v) :: ms =>
    simp [moreMembers, nul_not_mem_quotedChars k, nul_not_mem_chars v, nul_not_mem_moreMembers ms]

end

theorem nul_not_mem_compact (j : Json) : '\x00' ∉ j.compact.toList := by
  rw [compact, String.toList_ofList]
  exact nul_not_mem_chars j

end Json

theorem GasPrice.nul_not_mem_toString {price : GasPrice} (named : isDenom price.denom.toList = true) :
    '\x00' ∉ (toString price).toList := by
  intro inside
  cases isDenomChar_of_mem_toString named _ inside

theorem CodeId.nul_not_mem_toString (codeId : CodeId) : '\x00' ∉ (toString codeId).toList := by
  change '\x00' ∉ (toString codeId.value).toList
  rw [Numeral.toList_toString]
  exact Numeral.nul_not_mem Numeral.isDigit_of_mem_toDigits

namespace DaemonSetup

open Dialogue

variable {d : DaemonSetup} {s : Session} {bytecode : Bytes} {fee : Fee}

/-- There is no NUL in what all transactions of a session's deployer have in common. -/
structure Clear (d : DaemonSetup) (s : Session) : Prop where
  program : '\x00' ∉ d.daemon.program.toList
  flags : ∀ flag ∈ d.daemon.txFlags s.deployer.key, '\x00' ∉ flag.toList

theorem clear_of_sendable (sendable : (d.storeCommand s bytecode fee).hasNul = false) : d.Clear s := by
  simp only [storeCommand, NodeClient.storeArguments, Invocation.hasNul, Daemon.invocation,
    List.map_append, List.any_append, List.any_cons, List.any_map, Bool.or_eq_false_iff] at sendable
  obtain ⟨program, -, -, -, flags⟩ := sendable
  refine ⟨by simpa using program, fun flag inside => ?_⟩
  simpa using List.any_eq_false.mp flags flag inside

theorem clear_of_stored {made : List CommandExchange} {stored : StoredCode}
    (ran : Transcript (d.carryOut s (s.storeCode bytecode)) made (.ok stored)) : d.Clear s := by
  obtain ⟨fee, included, course, -⟩ := storeCode_ok ran
  have begun : made ≠ [] := by
    obtain ⟨_, _, _, _, rfl, -⟩ := course.landed
    exact List.cons_ne_nil _ _
  have sendable := mt course.eq_nil_iff.mpr begun
  rw [Bool.not_eq_true] at sendable
  exact clear_of_sendable sendable

theorem nul_not_mem_gasPrice {settings : Settings} {env : Environment} {staging : Staging}
    {price : GasPrice} (priced : settings.price = .ok price)
    (settled : ofSettings settings env staging = .ok d) : '\x00' ∉ d.settings.gasPrice.toList := by
  obtain ⟨_, -, -, named⟩ := GasPrice.read?_eq_some_iff.mp (Settings.price_eq_ok_iff.mp priced)
  rw [gasPrice_of_ofSettings priced settled]
  exact GasPrice.nul_not_mem_toString named

theorem hasNul_instantiateCommand (clear : d.Clear s) (price : '\x00' ∉ d.settings.gasPrice.toList)
    (codeId : CodeId) (message : Json) :
    (d.instantiateCommand s codeId message).hasNul = s.label.toList.contains '\x00' := by
  have flags : (d.daemon.txFlags s.deployer.key).any (fun word => word.toList.contains '\x00') = false :=
    List.any_eq_false.mpr fun flag inside => by simpa using clear.flags flag inside
  have program : d.daemon.program.toList.contains '\x00' = false := by simpa using clear.program
  have code : (toString codeId).toList.contains '\x00' = false := by
    simpa using codeId.nul_not_mem_toString
  have body : message.compact.toList.contains '\x00' = false := by simpa using message.nul_not_mem_compact
  have offer : d.settings.gasPrice.toList.contains '\x00' = false := by simpa using price
  rw [instantiateCommand, Invocation.hasNul_texts rfl]
  simp only [Daemon.invocation, NodeClient.instantiateArguments, NodeClient.feeFlags, clientOf, program,
    List.any_append, List.any_cons, List.any_nil, code, body, offer, flags]
  -- All other words are fixed.
  generalize s.label.toList.contains '\x00' = held
  revert held
  decide

end DaemonSetup

end ContractLaunch
