import ContractLaunch.Json.Printer
import ContractLaunch.Proofs.Json.Tree
import ContractLaunch.Proofs.Text.Numeral
/-!
What is printed for a value spells the tokens of a tree, so the tree is read back from it. Values that
hold a binary64 number are left out.
-/
namespace ContractLaunch.Json

mutual

/-- The tree that a value is printed as, if all of its numbers are whole. -/
def written? : Json → Option Written
  | .null => some .null
  | .bool b => some (.bool b)
  | .number (.integer i) => some (.number (.ofInt i))
  | .number (.real _) => none
  | .text s => some (.text (some s))
  | .array vs => (writtenItems? vs).map .array
  | .object ms => (writtenMembers? ms).map .object

def writtenItems? : List Json → Option (List Written)
  | [] => some []
  | v :: vs =>
    match written? v, writtenItems? vs with
    | some w, some ws => some (w :: ws)
    | _, _ => none

def writtenMembers? : List (String × Json) → Option (List (Option String × Written))
  | [] => some []
  | (k, v) :: ms =>
    match written? v, writtenMembers? ms with
    | some w, some ws => some ((some k, w) :: ws)
    | _, _ => none

end

section Append

variable {t : Token} {ts ts' : List Token} {cs rest : List Char}

theorem Spelled.cons (first : t.Spelled cs) (others : Spelled ts rest) : Spelled (t :: ts) (cs ++ rest) :=
  .more t cs [] ts rest first nofun others

theorem Spelled.mark {c : Char} (mark : punctuation? c = some t) (others : Spelled ts rest) :
    Spelled (t :: ts) (c :: rest) :=
  .cons (.punctuation c t mark) others

theorem Spelled.append (spelled : Spelled ts cs) (others : Spelled ts' rest) :
    Spelled (ts ++ ts') (cs ++ rest) := by
  induction spelled with
  | one _ _ last => exact .cons last others
  | more t cs gap ts cs' first space _ ih =>
    rw [List.append_assoc, List.append_assoc]
    exact .more t cs gap (ts ++ ts') (cs' ++ rest) first space ih

end Append

section Texts

def printedPiece (c : Char) : Piece :=
  if c.toNat < 0x20 ∧ c ∉ ['\x08', '\x0c', '\n', '\r', '\t'] then .unit c.toNat else .char c

theorem unit?_control : ∀ n < 0x20,
    unit? '0' '0' (Nat.digitChar (n / 16)) (Nat.digitChar (n % 16)) = some n := by
  decide

theorem spelled_escapedChar (c : Char) : Piece.Spelled (printedPiece c) (escapedChar c) := by
  unfold escapedChar
  split
  · exact .escaped _ _ rfl
  · exact .escaped _ _ rfl
  · exact .escaped _ _ rfl
  · exact .escaped _ _ rfl
  · exact .escaped _ _ rfl
  · exact .escaped _ _ rfl
  · exact .escaped _ _ rfl
  next quote backslash b f n r t =>
    have unnamed : c ∉ ['\x08', '\x0c', '\n', '\r', '\t'] := by
      simpa using ⟨b, f, n, r, t⟩
    split
    next control =>
      rw [printedPiece, if_pos ⟨control, unnamed⟩]
      exact .unit _ _ _ _ _ (unit?_control _ control)
    next printable =>
      rw [printedPiece, if_neg fun both => printable both.1]
      exact .plain c (Nat.not_lt.mp printable) quote backslash

theorem joinPieces?_unit {u : Nat} (low : u < 0xD800) (rest : List Piece) :
    joinPieces? (.unit u :: rest) = (joinPieces? rest).map (Char.ofNat u :: ·) := by
  have high : ¬ 0xD800 ≤ u := by omega
  have high' : ¬ 0xDC00 ≤ u := by omega
  rw [joinPieces?.eq_def]
  simp [high, high']

theorem joinPieces?_printed (cs : List Char) : joinPieces? (cs.map printedPiece) = some cs := by
  induction cs with
  | nil => rfl
  | cons c cs ih =>
    rw [List.map_cons, printedPiece]
    split
    next control =>
      rw [joinPieces?_unit (by omega), ih, Char.ofNat_toNat]
      rfl
    next =>
      rw [joinPieces?, ih]
      rfl

theorem spelled_quotedChars (s : String) : Token.Spelled (.text (some s)) (quotedChars s) := by
  have pieces : List.Forall₂ Piece.Spelled (s.toList.map printedPiece) (s.toList.map escapedChar) := by
    rw [List.forall₂_map_left_iff, List.forall₂_map_right_iff]
    exact List.forall₂_same.mpr fun c _ => spelled_escapedChar c
  have spelled := Token.Spelled.text _ _ pieces
  rw [joinPieces?_printed, Option.map_some, String.ofList_toList] at spelled
  rwa [quotedChars, List.flatMap_def]

end Texts

theorem spelled_numberChars (i : Int) :
    (NumberLiteral.ofInt i).Spelled (numberChars (.integer i)) := by
  have digits (n : Nat) : NumberLiteral.IsDigits (Nat.toDigits 10 n) :=
    ⟨Numeral.isDigit_of_mem_toDigits, Numeral.toDigits_ne_nil n⟩
  refine ⟨digits _, Numeral.toDigits_lead _, [], [], .none, .none, ?_⟩
  cases i with
  | ofNat n => simp [NumberLiteral.ofInt, numberChars]
  | negSucc n => simp [NumberLiteral.ofInt, numberChars]

mutual

/-- What is printed for a value spells the tokens of its tree. -/
theorem spelled_chars (j : Json) {w : Written} (printed : written? j = some w) :
    Spelled w.tokens (chars j) := by
  match j with
  | .null =>
    obtain rfl := Option.some.inj printed
    exact .one _ _ (.word _ _ (by decide))
  | .bool true =>
    obtain rfl := Option.some.inj printed
    exact .one _ _ (.word _ _ (by decide))
  | .bool false =>
    obtain rfl := Option.some.inj printed
    exact .one _ _ (.word _ _ (by decide))
  | .number (.integer i) =>
    obtain rfl := Option.some.inj printed
    exact .one _ _ (.number _ _ (spelled_numberChars i))
  | .text s =>
    obtain rfl := Option.some.inj printed
    exact .one _ _ (spelled_quotedChars s)
  | .array [] =>
    obtain rfl := Option.some.inj printed
    exact .mark rfl (.one _ _ (.punctuation _ _ rfl))
  | .array (v :: vs) =>
    obtain ⟨ws, items, rfl⟩ := Option.map_eq_some_iff.mp printed
    rw [writtenItems?] at items
    split at items
    next w ws first others =>
      obtain rfl := Option.some.inj items
      exact .mark rfl ((spelled_chars v first).append (spelled_moreItems vs others))
    next => cases items
  | .object [] =>
    obtain rfl := Option.some.inj printed
    exact .mark rfl (.one _ _ (.punctuation _ _ rfl))
  | .object ((k, v) :: ms) =>
    obtain ⟨ws, members, rfl⟩ := Option.map_eq_some_iff.mp printed
    rw [writtenMembers?] at members
    split at members
    next w ws first others =>
      obtain rfl := Option.some.inj members
      exact .mark rfl (.cons (spelled_quotedChars k) (.mark rfl
        ((spelled_chars v first).append (spelled_moreMembers ms others))))
    next => cases members

theorem spelled_moreItems (vs : List Json) {ws : List Written} (printed : writtenItems? vs = some ws) :
    Spelled (Written.moreItems ws) (moreItems vs) := by
  match vs with
  | [] =>
    obtain rfl := Option.some.inj printed
    exact .one _ _ (.punctuation _ _ rfl)
  | v :: vs =>
    rw [writtenItems?] at printed
    split at printed
    next w ws first others =>
      obtain rfl := Option.some.inj printed
      exact .mark rfl ((spelled_chars v first).append (spelled_moreItems vs others))
    next => cases printed

theorem spelled_moreMembers (ms : List (String × Json)) {ws : List (Option String × Written)}
    (printed : writtenMembers? ms = some ws) : Spelled (Written.moreMembers ws) (moreMembers ms) := by
  match ms with
  | [] =>
    obtain rfl := Option.some.inj printed
    exact .one _ _ (.punctuation _ _ rfl)
  | (k, v) :: ms =>
    rw [writtenMembers?] at printed
    split at printed
    next w ws first others =>
      obtain rfl := Option.some.inj printed
      exact .mark rfl (.cons (spelled_quotedChars k) (.mark rfl
        ((spelled_chars v first).append (spelled_moreMembers ms others))))
    next => cases printed

end

theorem standsIn_compact {j : Json} {w : Written} (printed : written? j = some w) :
    w.StandsIn j.compact.toList := by
  have stands := Written.StandsIn.within [] (chars j) [] (spelled_chars j printed) rfl rfl
  rwa [List.nil_append, List.append_nil, ← String.toList_ofList (l := chars j)] at stands

end ContractLaunch.Json
