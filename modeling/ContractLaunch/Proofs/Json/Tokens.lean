import ContractLaunch.Proofs.Json.Literal
import ContractLaunch.Proofs.Text.Lines
import Mathlib
/-!
JSON text as spelled tokens with gaps of white space between them. A text that spells tokens is lexed
into these tokens, as long as no number is followed by a token that could go on with it.
-/
namespace ContractLaunch.Json

/-- A spelling of a token. -/
inductive Token.Spelled : Token → List Char → Prop
  | punctuation (c t) (mark : punctuation? c = some t) : Token.Spelled t [c]
  | word (cs t) (named : (cs, t) ∈ words) : Token.Spelled t cs
  | number (n cs) (spelled : NumberLiteral.Spelled n cs) : Token.Spelled (.number n) cs
  | text (pieces spellings) (spelled : List.Forall₂ Piece.Spelled pieces spellings) :
      Token.Spelled (.text ((joinPieces? pieces).map String.ofList)) ('"' :: (spellings.flatten ++ ['"']))

/-- A text that spells tokens one after another, with gaps between them. -/
inductive Spelled : List Token → List Char → Prop
  | one (t cs) (last : t.Spelled cs) : Spelled [t] cs
  | more (t cs gap ts rest) (first : t.Spelled cs) (space : ∀ c ∈ gap, isSpace c = true)
      (others : Spelled ts rest) : Spelled (t :: ts) (cs ++ (gap ++ rest))

/-- Whether a token may stand after a number without a gap. -/
def Token.endsNumber : Token → Bool
  | .comma | .endArray | .endObject => true
  | _ => false

def Token.Adjacent : Token → Token → Prop
  | .number _, t => t.endsNumber = true
  | _, _ => True

section Token

variable {t : Token} {c : Char} {cs rest : List Char}

theorem eq_of_punctuation? (mark : punctuation? c = some t) :
    c = '[' ∨ c = ']' ∨ c = '\x7b' ∨ c = '\x7d' ∨ c = ',' ∨ c = ':' := by
  unfold punctuation? at mark
  split at mark
  · exact .inl rfl
  · exact .inr (.inl rfl)
  · exact .inr (.inr (.inl rfl))
  · exact .inr (.inr (.inr (.inl rfl)))
  · exact .inr (.inr (.inr (.inr (.inl rfl))))
  · exact .inr (.inr (.inr (.inr (.inr rfl))))
  · cases mark

theorem punctuation?_eq_none (start : c = '-' ∨ c.isDigit = true) : punctuation? c = none := by
  refine Option.eq_none_iff_forall_ne_some.mpr fun t mark => ?_
  rcases eq_of_punctuation? mark with rfl | rfl | rfl | rfl | rfl | rfl <;> revert start <;> decide

theorem isBlank_of_punctuation? (mark : punctuation? c = some t) : Text.isBlank c = false := by
  rcases eq_of_punctuation? mark with rfl | rfl | rfl | rfl | rfl | rfl <;> rfl

theorem eq_of_mem_words (named : (cs, t) ∈ words) :
    (cs = ['n', 'u', 'l', 'l'] ∧ t = .null) ∨ (cs = ['t', 'r', 'u', 'e'] ∧ t = .bool true) ∨
      (cs = ['f', 'a', 'l', 's', 'e'] ∧ t = .bool false) := by
  simpa [words] using named

theorem isSpace_of_not_isBlank (visible : Text.isBlank c = false) : isSpace c = false := by
  simp only [isSpace, Bool.or_eq_false_iff, decide_eq_false_iff_not]
  refine ⟨⟨⟨?_, ?_⟩, ?_⟩, ?_⟩ <;> rintro rfl <;> contradiction

theorem begins_of_number {n : NumberLiteral} (spelled : n.Spelled cs) :
    ∃ c ds, cs = c :: ds ∧ (c = '-' ∨ c.isDigit = true) := by
  obtain ⟨whole, -, fraction, exponent, -, -, rfl⟩ := spelled
  obtain ⟨d, ds, first, digit, -⟩ := whole.exists_cons
  rw [first]
  cases n.negative with
  | true => exact ⟨'-', _, rfl, .inl rfl⟩
  | false => exact ⟨d, _, rfl, .inr digit⟩

theorem isBlank_of_number {n : NumberLiteral} (spelled : n.Spelled cs) :
    ∀ c ∈ cs, Text.isBlank c = false := by
  obtain ⟨negative, whole, fraction, exponent⟩ := n
  obtain ⟨isDigits, -, _, _, fractional, scaled, rfl⟩ := spelled
  have digits {ds : List Char} (isDigits : NumberLiteral.IsDigits ds) : ∀ c ∈ ds, Text.isBlank c = false :=
    fun c inside => Text.isBlank_of_isDigit (isDigits.digits c inside)
  have ofMark {mark : Char} (isMark : mark = 'e' ∨ mark = 'E') : Text.isBlank mark = false := by
    rcases isMark with rfl | rfl <;> rfl
  refine List.forall_mem_append.mpr ⟨?_, List.forall_mem_append.mpr ⟨digits isDigits,
    List.forall_mem_append.mpr ⟨?_, ?_⟩⟩⟩
  · cases negative with
    | true => exact List.forall_mem_singleton.mpr rfl
    | false => nofun
  · cases fractional with
    | none => nofun
    | some _ isDigits => exact List.forall_mem_cons.mpr ⟨rfl, digits isDigits⟩
  · cases scaled with
    | none => nofun
    | negative _ _ isMark isDigits' | positive _ _ isMark isDigits' =>
      exact List.forall_mem_cons.mpr ⟨ofMark isMark, List.forall_mem_cons.mpr ⟨rfl, digits isDigits'⟩⟩
    | unsigned _ _ isMark isDigits' =>
      exact List.forall_mem_cons.mpr ⟨ofMark isMark, digits isDigits'⟩

theorem Token.Spelled.edges (spelled : t.Spelled cs) :
    ∃ first last, cs.head? = some first ∧ Text.isBlank first = false ∧
      cs.getLast? = some last ∧ Text.isBlank last = false := by
  cases spelled with
  | punctuation c _ mark =>
    exact ⟨c, c, rfl, isBlank_of_punctuation? mark, rfl, isBlank_of_punctuation? mark⟩
  | word _ _ named =>
    rcases eq_of_mem_words named with ⟨rfl, rfl⟩ | ⟨rfl, rfl⟩ | ⟨rfl, rfl⟩ <;> exact ⟨_, _, rfl, rfl, rfl, rfl⟩
  | number n _ spelled =>
    have visible := isBlank_of_number spelled
    obtain ⟨c, ds, rfl, -⟩ := begins_of_number spelled
    have ended := List.getLast?_eq_some_getLast (List.cons_ne_nil c ds)
    exact ⟨c, _, rfl, visible c List.mem_cons_self, ended, visible _ (List.getLast_mem _)⟩
  | text pieces spellings => exact ⟨'"', '"', rfl, rfl, List.getLast?_concat (l := '"' :: _), rfl⟩

theorem Token.Spelled.scanned (spelled : t.Spelled cs)
    (stops : ∀ n, t = .number n → NumberLiteral.Stops rest) :
    scanToken? (cs ++ rest) = some (t, rest) := by
  cases spelled with
  | punctuation c _ mark => simp [scanToken?, mark]
  | word _ _ named =>
    rcases eq_of_mem_words named with ⟨rfl, rfl⟩ | ⟨rfl, rfl⟩ | ⟨rfl, rfl⟩ <;> rfl
  | number n _ spelled =>
    have scanned := spelled.scan? (stops n rfl)
    obtain ⟨c, ds, rfl, start⟩ := begins_of_number spelled
    rw [List.cons_append] at scanned ⊢
    have quote : c ≠ '"' := by
      rintro rfl
      revert start
      decide
    simp [scanToken?, punctuation?_eq_none start, quote, start, scanned]
  | text pieces spellings spelled =>
    have scanned := scanText?_spelled spelled rest
    simp [scanToken?, punctuation?, scanned]

theorem Token.Spelled.stops (spelled : t.Spelled cs) (ends : t.endsNumber = true) :
    NumberLiteral.Stops (cs ++ rest) := by
  have ofMark {c : Char} (mark : c = ',' ∨ c = ']' ∨ c = '\x7d') : NumberLiteral.Stops (c :: rest) := by
    intro c first
    obtain rfl := Option.some.inj first
    rcases mark with rfl | rfl | rfl <;> decide
  cases spelled with
  | punctuation c _ mark =>
    rcases eq_of_punctuation? mark with rfl | rfl | rfl | rfl | rfl | rfl <;> cases mark <;>
      first | contradiction | exact ofMark (by decide)
  | word _ _ named =>
    rcases eq_of_mem_words named with ⟨rfl, rfl⟩ | ⟨rfl, rfl⟩ | ⟨rfl, rfl⟩ <;> contradiction
  | number => contradiction
  | text => contradiction

end Token

section Lexing

variable {t : Token} {ts : List Token} {cs gap rest : List Char}

theorem lex?_gap (space : ∀ c ∈ gap, isSpace c = true) : lex? (gap ++ rest) = lex? rest := by
  induction gap with
  | nil => rfl
  | cons c gap ih =>
    obtain ⟨first, others⟩ := List.forall_mem_cons.mp space
    rw [List.cons_append, lex?, if_pos first, ih others]

theorem lex?_token (scanned : scanToken? cs = some (t, rest))
    (visible : ∀ c ∈ cs.head?, isSpace c = false) : lex? cs = (lex? rest).map (t :: ·) := by
  cases cs with
  | nil => cases scanned
  | cons c cs =>
    rw [lex?, if_neg (by simp [visible c rfl])]
    split
    next none => simp [none] at scanned
    next some =>
      obtain ⟨rfl, rfl⟩ := Prod.mk.inj (Option.some.inj (some.symm.trans scanned))
      rfl

theorem Token.Spelled.lexed (spelled : t.Spelled cs) (rest : List Char)
    (stops : ∀ n, t = .number n → NumberLiteral.Stops rest) :
    lex? (cs ++ rest) = (lex? rest).map (t :: ·) := by
  obtain ⟨first, _, begins, visible, -, -⟩ := spelled.edges
  refine lex?_token (spelled.scanned stops) fun c start => ?_
  rw [List.head?_append, begins] at start
  obtain rfl := Option.some.inj start
  exact isSpace_of_not_isBlank visible

theorem stops_of_space {c : Char} (space : isSpace c = true) : NumberLiteral.Stops (c :: rest) := by
  intro c first
  obtain rfl := Option.some.inj first
  simp only [isSpace, Bool.or_eq_true, decide_eq_true_eq] at space
  rcases space with ((rfl | rfl) | rfl) | rfl <;> decide

theorem Spelled.stops (spelled : Spelled (t :: ts) rest) (ends : t.endsNumber = true)
    (space : ∀ c ∈ gap, isSpace c = true) : NumberLiteral.Stops (gap ++ rest) := by
  cases gap with
  | cons c gap => exact stops_of_space (space c List.mem_cons_self)
  | nil =>
    cases spelled with
    | one _ _ last =>
      rw [List.nil_append, ← List.append_nil rest]
      exact last.stops ends
    | more _ _ _ _ _ first => exact first.stops ends

/-- A text is lexed into the tokens that it spells. -/
theorem Spelled.lexed (spelled : Spelled ts cs) (chain : ts.IsChain Token.Adjacent) :
    lex? cs = some ts := by
  induction spelled with
  | one t cs last =>
    have lexed := last.lexed [] fun _ _ => nofun
    rw [List.append_nil] at lexed
    rw [lexed, lex?]
    rfl
  | more t cs gap ts rest first space others ih =>
    -- only a number asks what follows it
    have stops : ∀ n, t = .number n → NumberLiteral.Stops (gap ++ rest) := by
      rintro n rfl
      cases ts with
      | nil => cases others
      | cons next ts =>
        have adjacent : Token.Adjacent (.number n) next := (List.isChain_cons_cons.mp chain).1
        exact others.stops adjacent space
    rw [first.lexed _ stops, lex?_gap space, ih chain.tail]
    rfl

theorem Spelled.edges (spelled : Spelled ts cs) :
    ∃ first last, cs.head? = some first ∧ Text.isBlank first = false ∧
      cs.getLast? = some last ∧ Text.isBlank last = false := by
  induction spelled with
  | one _ _ last => exact last.edges
  | more _ _ _ _ _ token _ _ ih =>
    obtain ⟨first, -, begins, visible, -⟩ := token.edges
    obtain ⟨-, last, -, -, ends, visible'⟩ := ih
    exact ⟨first, last, by simp [List.head?_append, begins], visible,
      by simp [List.getLast?_append, ends], visible'⟩

theorem Spelled.trimmed (spelled : Spelled ts cs) {before after : List Char}
    (blank : before.all Text.isBlank = true) (blank' : after.all Text.isBlank = true) :
    Text.trim (before ++ cs ++ after) = cs := by
  obtain ⟨first, last, begins, visible, ends, visible'⟩ := spelled.edges
  refine Text.trim_eq_iff.mpr ⟨⟨before, after, rfl, blank, blank'⟩, ?_, ?_⟩
  · simpa [begins] using visible
  · simpa [ends] using visible'

end Lexing

end ContractLaunch.Json
