import ContractLaunch.Proofs.Json.Tree
import Mathlib
/-!
Only what spells a tree is read as that tree. The scanners take spellings off the front of a text, and
each state of reading accounts for all tokens that led to it.
-/
namespace ContractLaunch

namespace NumberLiteral

variable {cs rest : List Char}

theorem spanDigits_eq (cs : List Char) :
    cs = (spanDigits cs).1 ++ (spanDigits cs).2 ∧ ∀ c ∈ (spanDigits cs).1, c.isDigit = true :=
  ⟨List.takeWhile_append_dropWhile.symm, fun _ => List.mem_takeWhile_imp⟩

theorem spelled_of_scanFraction? {fraction : List Char} (scanned : scanFraction? cs = some (fraction, rest)) :
    ∃ text, FractionSpelled fraction text ∧ cs = text ++ rest := by
  unfold scanFraction? at scanned
  split at scanned
  next point =>
    obtain ⟨split, digits⟩ := spanDigits_eq point
    dsimp only at scanned
    split at scanned
    next => cases scanned
    next filled =>
      obtain ⟨rfl, rfl⟩ := Prod.mk.inj (Option.some.inj scanned)
      refine ⟨'.' :: (spanDigits point).1, .some _ ⟨digits, by simpa using filled⟩, ?_⟩
      rw [List.cons_append, ← split]
  next =>
    obtain ⟨rfl, rfl⟩ := Prod.mk.inj (Option.some.inj scanned)
    exact ⟨[], .none, rfl⟩

theorem spelled_of_scanExponent? {mark : Char} {exponent : Bool × List Char}
    (isMark : mark = 'e' ∨ mark = 'E') (scanned : scanExponent? cs = some (exponent, rest)) :
    ∃ text, ExponentSpelled (some exponent) (mark :: text) ∧ cs = text ++ rest := by
  unfold scanExponent? at scanned
  split at scanned
  next negative unsigned sign =>
    obtain ⟨split, digits⟩ := spanDigits_eq unsigned
    dsimp only at scanned
    split at scanned
    next => cases scanned
    next filled =>
      obtain ⟨rfl, rfl⟩ := Prod.mk.inj (Option.some.inj scanned)
      have isDigits : IsDigits (spanDigits unsigned).1 := ⟨digits, by simpa using filled⟩
      split at sign
      next =>
        obtain ⟨rfl, rfl⟩ := Prod.mk.inj sign
        exact ⟨_, .negative mark _ isMark isDigits, congrArg _ split⟩
      next =>
        obtain ⟨rfl, rfl⟩ := Prod.mk.inj sign
        exact ⟨_, .positive mark _ isMark isDigits, congrArg _ split⟩
      next =>
        obtain ⟨rfl, rfl⟩ := Prod.mk.inj sign
        exact ⟨_, .unsigned mark _ isMark isDigits, split⟩

theorem spelled_of_scanTail? {negative : Bool} {whole : List Char} {n : NumberLiteral}
    (scanned : scanTail? negative whole cs = some (n, rest)) :
    n.negative = negative ∧ n.whole = whole ∧ ∃ fraction exponent, FractionSpelled n.fraction fraction ∧
      ExponentSpelled n.exponent exponent ∧ cs = fraction ++ (exponent ++ rest) := by
  unfold scanTail? at scanned
  split at scanned
  next => cases scanned
  next fraction after fractional =>
    obtain ⟨text, spelled, rfl⟩ := spelled_of_scanFraction? fractional
    dsimp only at scanned
    split at scanned
    next further =>
      obtain ⟨⟨exponent, _⟩, scaled, same⟩ := Option.map_eq_some_iff.mp scanned
      obtain ⟨rfl, rfl⟩ := Prod.mk.inj same
      obtain ⟨marked, exponential, rfl⟩ := spelled_of_scanExponent? (.inl rfl) scaled
      exact ⟨rfl, rfl, text, _, spelled, exponential, rfl⟩
    next further =>
      obtain ⟨⟨exponent, _⟩, scaled, same⟩ := Option.map_eq_some_iff.mp scanned
      obtain ⟨rfl, rfl⟩ := Prod.mk.inj same
      obtain ⟨marked, exponential, rfl⟩ := spelled_of_scanExponent? (.inr rfl) scaled
      exact ⟨rfl, rfl, text, _, spelled, exponential, rfl⟩
    next =>
      obtain ⟨rfl, rfl⟩ := Prod.mk.inj (Option.some.inj scanned)
      exact ⟨rfl, rfl, text, [], spelled, .none, rfl⟩

theorem spelled_of_scan? {n : NumberLiteral} (scanned : scan? cs = some (n, rest)) :
    ∃ text, n.Spelled text ∧ cs = text ++ rest := by
  unfold scan? at scanned
  split at scanned
  next negative unsigned sign =>
    obtain ⟨apart, digits⟩ := spanDigits_eq unsigned
    have signed : cs = (if negative then ['-'] else []) ++ unsigned := by
      split at sign
      next =>
        obtain ⟨rfl, rfl⟩ := Prod.mk.inj sign
        rfl
      next =>
        obtain ⟨rfl, rfl⟩ := Prod.mk.inj sign
        rfl
    generalize spanDigits unsigned = span at apart digits scanned
    split at scanned
    next => cases scanned
    next => cases scanned
    next whole after filled lead =>
      obtain ⟨rfl, rfl, fraction, exponent, fractional, scaled, rfl⟩ := spelled_of_scanTail? scanned
      refine ⟨_, ⟨⟨digits, filled⟩, fun zero => ?_, fraction, exponent, fractional, scaled, rfl⟩, ?_⟩
      · obtain ⟨ds, same⟩ := List.head?_eq_some_iff.mp zero
        cases ds with
        | nil => exact same
        | cons d ds => exact absurd same (lead d ds)
      · rw [signed, apart]
        simp

end NumberLiteral

namespace Json

variable {cs rest : List Char} {t : Token} {ts : List Token}

theorem spelled_of_scanText? {pieces : List Piece} (scanned : scanText? cs = some (pieces, rest)) :
    ∃ spellings, List.Forall₂ Piece.Spelled pieces spellings ∧ cs = spellings.flatten ++ '"' :: rest := by
  fun_induction scanText? cs generalizing pieces with
  | case1 => cases scanned
  | case2 after =>
    obtain ⟨rfl, rfl⟩ := Prod.mk.inj (Option.some.inj scanned)
    exact ⟨[], .nil, rfl⟩
  | case3 a b c d after u more later further digits ih =>
    obtain ⟨rfl, rfl⟩ := Prod.mk.inj (Option.some.inj scanned)
    obtain ⟨spellings, spelled, rfl⟩ := ih further
    exact ⟨_ :: spellings, .cons (.unit a b c d u digits) spelled, rfl⟩
  | case4 => cases scanned
  | case5 letter after _ c more later further named ih =>
    obtain ⟨rfl, rfl⟩ := Prod.mk.inj (Option.some.inj scanned)
    obtain ⟨spellings, spelled, rfl⟩ := ih further
    exact ⟨_ :: spellings, .cons (.escaped letter c named) spelled, rfl⟩
  | case6 => cases scanned
  | case7 => cases scanned
  | case8 c after quote _ plain printable ih =>
    obtain ⟨⟨more, later⟩, further, same⟩ := Option.map_eq_some_iff.mp scanned
    obtain ⟨rfl, rfl⟩ := Prod.mk.inj same
    obtain ⟨spellings, spelled, rfl⟩ := ih further
    simp only [Bool.or_eq_true, decide_eq_true_eq, not_or] at printable
    have unquoted : c ≠ '"' := quote
    exact ⟨[c] :: spellings, .cons (.plain c (Nat.not_lt.mp printable.1) unquoted printable.2) spelled, rfl⟩

theorem spelled_of_scanToken? (scanned : scanToken? cs = some (t, rest)) :
    ∃ text, t.Spelled text ∧ cs = text ++ rest := by
  cases cs with
  | nil => cases scanned
  | cons c cs =>
    rw [scanToken?] at scanned
    split at scanned
    next token mark =>
      obtain ⟨rfl, rfl⟩ := Prod.mk.inj (Option.some.inj scanned)
      exact ⟨[c], .punctuation c token mark, rfl⟩
    next =>
      split at scanned
      next quote =>
        obtain ⟨⟨pieces, after⟩, text, same⟩ := Option.map_eq_some_iff.mp scanned
        obtain ⟨rfl, rfl⟩ := Prod.mk.inj same
        obtain ⟨spellings, spelled, rfl⟩ := spelled_of_scanText? text
        exact ⟨_, .text pieces spellings spelled, by simp [quote]⟩
      next =>
        split at scanned
        next =>
          obtain ⟨⟨literal, after⟩, number, same⟩ := Option.map_eq_some_iff.mp scanned
          obtain ⟨rfl, rfl⟩ := Prod.mk.inj same
          obtain ⟨text, spelled, split⟩ := NumberLiteral.spelled_of_scan? number
          exact ⟨text, .number literal text spelled, split⟩
        next =>
          obtain ⟨⟨word, token⟩, named, found⟩ := List.exists_of_findSome?_eq_some scanned
          obtain ⟨after, begins, same⟩ := Option.map_eq_some_iff.mp found
          obtain ⟨rfl, rfl⟩ := Prod.mk.inj same
          exact ⟨word, .word word token named, Text.eq_append_of_afterStart? begins⟩

theorem isBlank_of_isSpace {c : Char} (space : isSpace c = true) : Text.isBlank c = true := by
  by_contra visible
  rw [isSpace_of_not_isBlank (Bool.not_eq_true _ ▸ visible)] at space
  cases space

theorem all_isBlank_of_isSpace (space : ∀ c ∈ cs, isSpace c = true) : cs.all Text.isBlank = true :=
  List.all_eq_true.mpr fun c inside => isBlank_of_isSpace (space c inside)

/-- A text in which tokens are spelled, with spaces at its ends, or one of spaces alone. -/
inductive Lays : List Token → List Char → Prop
  | none (gap) (space : ∀ c ∈ gap, isSpace c = true) : Lays [] gap
  | some (before core after ts) (spelled : Spelled ts core) (space : ∀ c ∈ before, isSpace c = true)
      (space' : ∀ c ∈ after, isSpace c = true) : Lays ts (before ++ core ++ after)

theorem Lays.space {c : Char} (space : isSpace c = true) (lays : Lays ts cs) : Lays ts (c :: cs) := by
  cases lays with
  | none _ spaces => exact .none _ (List.forall_mem_cons.mpr ⟨space, spaces⟩)
  | some before core after _ spelled spaces spaces' =>
    exact .some (c :: before) core after ts spelled (List.forall_mem_cons.mpr ⟨space, spaces⟩) spaces'

theorem Lays.token (first : t.Spelled cs) (lays : Lays ts rest) : Lays (t :: ts) (cs ++ rest) := by
  cases lays with
  | none _ space => exact .some [] cs rest [t] (.one t cs first) (List.forall_mem_nil _) space
  | some before core after _ spelled space space' =>
    have split : cs ++ (before ++ core ++ after) = [] ++ (cs ++ (before ++ core)) ++ after := by simp
    rw [split]
    exact .some [] _ after _ (.more t cs before ts core first space spelled) (List.forall_mem_nil _) space'

theorem lays_of_lex? (lexed : lex? cs = some ts) : Lays ts cs := by
  fun_induction lex? cs generalizing ts with
  | case1 =>
    obtain rfl := Option.some.inj lexed
    exact .none [] (List.forall_mem_nil _)
  | case2 c cs space ih => exact (ih lexed).space space
  | case3 => cases lexed
  | case4 c cs visible token after scanned _ ih =>
    obtain ⟨others, further, rfl⟩ := Option.map_eq_some_iff.mp lexed
    obtain ⟨text, spelled, split⟩ := spelled_of_scanToken? scanned
    rw [split]
    exact (ih further).token spelled

theorem Lays.exists_core (lays : Lays ts cs) (filled : ts ≠ []) : ∃ before core after, Spelled ts core ∧
    before.all Text.isBlank = true ∧ after.all Text.isBlank = true ∧ cs = before ++ core ++ after := by
  cases lays with
  | none => contradiction
  | some before core after _ spelled space space' =>
    exact ⟨before, core, after, spelled, all_isBlank_of_isSpace space, all_isBlank_of_isSpace space', rfl⟩

namespace Written

section Spent

def spentItems (done : List Written) : List Token := done.reverse.flatMap fun w => w.tokens ++ [.comma]

def spentMembers (done : List (Option String × Written)) : List Token :=
  done.reverse.flatMap fun m => .text m.1 :: .colon :: (m.2.tokens ++ [.comma])

/-- The tokens that led into an open array or object. -/
def Frame.spent : Frame → List Token
  | .array done => .beginArray :: spentItems done
  | .object done name => .beginObject :: (spentMembers done ++ [.text name, .colon])

def Expecting.spent : Expecting → List Token
  | .value => []
  | .firstItem => [.beginArray]
  | .firstKey => [.beginObject]
  | .key done => .beginObject :: spentMembers done
  | .colon done name => .beginObject :: (spentMembers done ++ [.text name])
  | .next w => w.tokens

def spent (s : State) : List Token := s.2.reverse.flatMap Frame.spent ++ s.1.spent

variable {s s' : State} {stack : List Frame} {w : Written} {key : Option String}

theorem spentItems_cons (w : Written) (done : List Written) :
    spentItems (w :: done) = spentItems done ++ (w.tokens ++ [.comma]) := by
  simp [spentItems]

theorem spentMembers_cons (key : Option String) (w : Written) (done : List (Option String × Written)) :
    spentMembers ((key, w) :: done) = spentMembers done ++ .text key :: .colon :: (w.tokens ++ [.comma]) := by
  simp [spentMembers]

theorem moreItems_concat (ws : List Written) (w : Written) :
    moreItems (ws ++ [w]) =
      .comma :: (ws.flatMap (fun w => w.tokens ++ [.comma]) ++ (w.tokens ++ [.endArray])) := by
  induction ws with
  | nil => rfl
  | cons v ws ih =>
    rw [List.cons_append, moreItems, ih]
    simp

theorem moreMembers_concat (ms : List (Option String × Written)) (m : Option String × Written) :
    moreMembers (ms ++ [m]) =
      .comma :: (ms.flatMap (fun m => .text m.1 :: .colon :: (m.2.tokens ++ [.comma])) ++
        .text m.1 :: .colon :: (m.2.tokens ++ [.endObject])) := by
  induction ms with
  | nil => rfl
  | cons n ms ih =>
    rw [List.cons_append, moreMembers, ih]
    simp

theorem tokens_array (w : Written) (done : List Written) :
    (array (w :: done).reverse).tokens = .beginArray :: (spentItems done ++ (w.tokens ++ [.endArray])) := by
  rw [List.reverse_cons, spentItems]
  cases done.reverse with
  | nil => rfl
  | cons v ws =>
    rw [List.cons_append, tokens, moreItems_concat]
    simp

theorem tokens_object (key : Option String) (w : Written) (done : List (Option String × Written)) :
    (object ((key, w) :: done).reverse).tokens =
      .beginObject :: (spentMembers done ++ .text key :: .colon :: (w.tokens ++ [.endObject])) := by
  rw [List.reverse_cons, spentMembers]
  cases done.reverse with
  | nil => rfl
  | cons m ms =>
    rw [List.cons_append, tokens, moreMembers_concat]
    simp

theorem spent_start? (started : start? t stack = some s') :
    spent s' = stack.reverse.flatMap Frame.spent ++ [t] := by
  cases t with
  | comma | colon | endArray | endObject => cases started
  | _ =>
    obtain rfl := Option.some.inj started
    rfl

/-- The state after a token accounts for it. -/
theorem spent_step? (stepped : step? s t = some s') : spent s' = spent s ++ [t] := by
  unfold step? at stepped
  split at stepped
  next =>
    rw [spent_start? stepped]
    simp [spent, Expecting.spent]
  next =>
    obtain rfl := Option.some.inj stepped
    simp [spent, Expecting.spent, tokens]
  next =>
    rw [spent_start? stepped]
    simp [spent, Expecting.spent, Frame.spent, spentItems]
  next =>
    obtain rfl := Option.some.inj stepped
    simp [spent, Expecting.spent, tokens]
  next =>
    obtain rfl := Option.some.inj stepped
    simp [spent, Expecting.spent, spentMembers]
  next =>
    obtain rfl := Option.some.inj stepped
    simp [spent, Expecting.spent]
  next =>
    obtain rfl := Option.some.inj stepped
    simp [spent, Expecting.spent, Frame.spent]
  next =>
    obtain rfl := Option.some.inj stepped
    simp [spent, Expecting.spent, Frame.spent, spentItems_cons]
  next =>
    obtain rfl := Option.some.inj stepped
    simp only [spent, Expecting.spent, tokens_array]
    simp [Frame.spent]
  next =>
    obtain rfl := Option.some.inj stepped
    simp [spent, Expecting.spent, Frame.spent, spentMembers_cons]
  next =>
    obtain rfl := Option.some.inj stepped
    simp only [spent, Expecting.spent, tokens_object]
    simp [Frame.spent]
  next => cases stepped

theorem spent_foldlM (read : ts.foldlM step? s = some s') : spent s' = spent s ++ ts := by
  induction ts generalizing s with
  | nil =>
    obtain rfl := Option.some.inj read
    exact (List.append_nil _).symm
  | cons t ts ih =>
    rw [List.foldlM_cons] at read
    obtain ⟨next, stepped, further⟩ := Option.bind_eq_some_iff.mp read
    rw [ih further, spent_step? stepped, List.append_assoc, List.singleton_append]

theorem tokens_of_ofTokens? (read : ofTokens? ts = some w) : w.tokens = ts := by
  unfold ofTokens? at read
  split at read
  next complete ended =>
    obtain rfl := Option.some.inj read
    exact spent_foldlM ended
  next => cases read

end Spent

/-- A tree is read from a text, less the blanks at its ends, exactly if it stands in the text. -/
theorem read?_trim_eq_some_iff {w : Written} : read? (Text.trim cs) = some w ↔ w.StandsIn cs := by
  constructor
  · intro read
    obtain ⟨ts, lexed, parsed⟩ := Option.bind_eq_some_iff.mp read
    obtain rfl := tokens_of_ofTokens? parsed
    obtain ⟨outer, outer', around, blank, blank'⟩ := (Text.trims_trim cs).around
    have filled : w.tokens ≠ [] := by
      obtain ⟨t, ts, first, -⟩ := w.tokens_eq_cons
      simp [first]
    obtain ⟨before, core, after, spelled, blank₁, blank₂, trimmed⟩ := (lays_of_lex? lexed).exists_core filled
    have split : cs = (outer ++ before) ++ core ++ (after ++ outer') := by
      rw [around, trimmed]
      simp
    rw [split]
    exact .within _ core _ spelled (by simp [blank, blank₁]) (by simp [blank₂, blank'])
  · exact StandsIn.read?_trim

end Written

end Json

end ContractLaunch
