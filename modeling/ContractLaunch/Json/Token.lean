import ContractLaunch.Json.NumberLiteral
import ContractLaunch.Text.Numeral
import ContractLaunch.Text.Search
/-!
The tokens of JSON text. Lexing fails on anything that no token starts with, on controls inside a
text and on unknown escapes; it does not care how tokens follow one another.
-/
namespace ContractLaunch.Json

/-- A token. A text is `none` when an escape in it names half of a surrogate pair without the other
half: such a text has no characters, and only a value that is skipped may contain it. -/
inductive Token where
  | beginArray
  | endArray
  | beginObject
  | endObject
  | comma
  | colon
  | null
  | bool (value : Bool)
  | number (literal : NumberLiteral)
  | text (value : Option String)
  deriving DecidableEq

/-- A piece of a text as written: a character, or the 16-bit unit that a hexadecimal escape names. -/
inductive Piece where
  | char (c : Char)
  | unit (u : Nat)
  deriving DecidableEq

def unit? (a b c d : Char) : Option Nat := do
  let digits ← [a, b, c, d].mapM Numeral.hexDigit?
  return digits.foldl (· * 16 + ·) 0

def unescape? : Char → Option Char
  | '"' => some '"'
  | '\\' => some '\\'
  | '/' => some '/'
  | 'b' => some '\x08'
  | 'f' => some '\x0c'
  | 'n' => some '\n'
  | 'r' => some '\r'
  | 't' => some '\t'
  | _ => none

def scanText? : List Char → Option (List Piece × List Char)
  | [] => none
  | '"' :: rest => some ([], rest)
  | '\\' :: 'u' :: a :: b :: c :: d :: rest =>
    match unit? a b c d, scanText? rest with
    | some u, some (pieces, after) => some (.unit u :: pieces, after)
    | _, _ => none
  | '\\' :: c :: rest =>
    match unescape? c, scanText? rest with
    | some e, some (pieces, after) => some (.char e :: pieces, after)
    | _, _ => none
  | c :: rest =>
    if c.toNat < 0x20 || c = '\\' then none
    else (scanText? rest).map fun (pieces, after) => (.char c :: pieces, after)

/-- The characters of the pieces of a text: units that form a surrogate pair are joined. -/
def joinPieces? : List Piece → Option (List Char)
  | [] => some []
  | .char c :: rest => (joinPieces? rest).map (c :: ·)
  | .unit high :: rest =>
    if 0xD800 ≤ high && high < 0xDC00 then
      match rest with
      | .unit low :: rest =>
        if 0xDC00 ≤ low && low < 0xE000 then
          (joinPieces? rest).map
            (Char.ofNat (0x10000 + (high - 0xD800) * 0x400 + (low - 0xDC00)) :: ·)
        else none
      | _ => none
    else if 0xDC00 ≤ high && high < 0xE000 then none
    else (joinPieces? rest).map (Char.ofNat high :: ·)

def punctuation? : Char → Option Token
  | '[' => some .beginArray
  | ']' => some .endArray
  | '\x7b' => some .beginObject
  | '\x7d' => some .endObject
  | ',' => some .comma
  | ':' => some .colon
  | _ => none

def isSpace (c : Char) : Bool := c = ' ' || c = '\n' || c = '\r' || c = '\t'

def words : List (List Char × Token) :=
  [(['n', 'u', 'l', 'l'], .null), (['t', 'r', 'u', 'e'], .bool true),
    (['f', 'a', 'l', 's', 'e'], .bool false)]

/-- The token at the start of a text that starts with none of the spaces, and what follows it. -/
def scanToken? : List Char → Option (Token × List Char)
  | [] => none
  | c :: rest =>
    match punctuation? c with
    | some token => some (token, rest)
    | none =>
      if c = '"' then
        (scanText? rest).map fun (pieces, after) =>
          (.text ((joinPieces? pieces).map String.ofList), after)
      else if c = '-' || c.isDigit then
        (NumberLiteral.scan? (c :: rest)).map fun (literal, after) => (.number literal, after)
      else
        words.findSome? fun (word, token) =>
          (Text.afterStart? word (c :: rest)).map (token, ·)

theorem length_scanText?_lt {cs : List Char} {r} (h : scanText? cs = some r) :
    r.2.length < cs.length := by
  fun_induction scanText? cs generalizing r with
  | case1 => simp at h
  | case2 rest => obtain rfl := Option.some.inj h; simp
  | case3 a b c d rest u pieces after hs hu ih =>
    obtain rfl := Option.some.inj h
    have := ih hs
    simp only [List.length_cons] at this ⊢
    omega
  | case4 => simp at h
  | case5 c rest _ e pieces after hs he ih =>
    obtain rfl := Option.some.inj h
    have := ih hs
    simp only [List.length_cons] at this ⊢
    omega
  | case6 => simp at h
  | case7 => simp at h
  | case8 c rest _ _ _ hc ih =>
    obtain ⟨p, hp, rfl⟩ := Option.map_eq_some_iff.mp h
    have := ih hp
    simp only [List.length_cons]
    omega

theorem length_scanToken?_lt {cs : List Char} {r} (h : scanToken? cs = some r) :
    r.2.length < cs.length := by
  unfold scanToken? at h
  split at h
  · simp at h
  next c rest =>
    split at h
    · obtain rfl := Option.some.inj h
      simp
    · split at h
      · obtain ⟨p, hp, rfl⟩ := Option.map_eq_some_iff.mp h
        have := length_scanText?_lt hp
        simp only [List.length_cons]
        omega
      · split at h
        · obtain ⟨p, hp, rfl⟩ := Option.map_eq_some_iff.mp h
          exact NumberLiteral.length_scan?_lt hp
        · obtain ⟨w, hw, hm⟩ := List.exists_of_findSome?_eq_some h
          obtain ⟨after, ha, rfl⟩ := Option.map_eq_some_iff.mp hm
          have hlen := congrArg List.length (Text.eq_append_of_afterStart? ha)
          have : 0 < w.1.length := by
            simp only [words, List.mem_cons, List.not_mem_nil, or_false] at hw
            rcases hw with rfl | rfl | rfl <;> decide
          simp only [List.length_append, List.length_cons] at hlen ⊢
          omega

def lex? (cs : List Char) : Option (List Token) :=
  match cs with
  | [] => some []
  | c :: rest =>
    if isSpace c then lex? rest
    else
      match h : scanToken? (c :: rest) with
      | none => none
      | some (token, after) =>
        have : after.length < (c :: rest).length := length_scanToken?_lt h
        (lex? after).map (token :: ·)
termination_by cs.length
decreasing_by all_goals (simp only [List.length_cons] at *; omega)

end ContractLaunch.Json
