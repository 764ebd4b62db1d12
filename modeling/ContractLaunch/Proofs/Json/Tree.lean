import ContractLaunch.Json.Written
import ContractLaunch.Proofs.Json.Tokens
import Mathlib
/-!
The tokens of a tree, and that a tree is read back from every text that spells them. Where a value may
start, its tokens lead to the state that has read it, whatever arrays and objects are open around it.
-/
namespace ContractLaunch.Json.Written

mutual

def tokens : Written → List Token
  | .null => [.null]
  | .bool b => [.bool b]
  | .number n => [.number n]
  | .text t => [.text t]
  | .array [] => [.beginArray, .endArray]
  | .array (w :: ws) => .beginArray :: (tokens w ++ moreItems ws)
  | .object [] => [.beginObject, .endObject]
  | .object ((k, w) :: ms) => .beginObject :: .text k :: .colon :: (tokens w ++ moreMembers ms)

def moreItems : List Written → List Token
  | [] => [.endArray]
  | w :: ws => .comma :: (tokens w ++ moreItems ws)

def moreMembers : List (Option String × Written) → List Token
  | [] => [.endObject]
  | (k, w) :: ms => .comma :: .text k :: .colon :: (tokens w ++ moreMembers ms)

end

section Run

/-- No value starts with the end of an array, so that one may stand where the first item may. -/
theorem tokens_eq_cons (w : Written) : ∃ t ts, w.tokens = t :: ts ∧ t ≠ .endArray := by
  cases w with
  | null | bool | number | text => exact ⟨_, _, tokens.eq_def _, nofun⟩
  | array items => cases items <;> exact ⟨_, _, tokens.eq_def _, nofun⟩
  | object members =>
    rcases members with _ | ⟨⟨key, w⟩, members⟩ <;> exact ⟨_, _, tokens.eq_def _, nofun⟩

theorem step?_firstItem {t : Token} (other : t ≠ .endArray) (stack : List Frame) :
    step? (.firstItem, stack) t = step? (.value, .array [] :: stack) t := by
  cases t <;> first | contradiction | rfl

theorem foldlM_firstItem (w : Written) (stack : List Frame) (rest : List Token) :
    (w.tokens ++ rest).foldlM step? (.firstItem, stack) =
      (w.tokens ++ rest).foldlM step? (.value, .array [] :: stack) := by
  obtain ⟨t, ts, first, other⟩ := w.tokens_eq_cons
  rw [first, List.cons_append, List.foldlM_cons, List.foldlM_cons, step?_firstItem other]

-- By recursion on the tree, for every stack: an item is read above the frame that it then joins.
mutual

theorem foldlM_tokens (w : Written) (stack : List Frame) (rest : List Token) :
    (w.tokens ++ rest).foldlM step? (.value, stack) = rest.foldlM step? (.next w, stack) := by
  match w with
  | .null | .bool _ | .number _ | .text _ => rfl
  | .array [] | .object [] => rfl
  | .array (w :: ws) =>
    rw [tokens, List.cons_append, List.append_assoc, List.foldlM_cons]
    change (w.tokens ++ _).foldlM step? (.firstItem, stack) = _
    rw [foldlM_firstItem, foldlM_tokens w, foldlM_moreItems ws]
    rfl
  | .object ((key, w) :: ms) =>
    rw [tokens, List.cons_append, List.cons_append, List.cons_append, List.append_assoc]
    change (w.tokens ++ _).foldlM step? (.value, .object [] key :: stack) = _
    rw [foldlM_tokens w, foldlM_moreMembers ms]
    rfl

theorem foldlM_moreItems (ws : List Written) (w : Written) (done : List Written) (stack : List Frame)
    (rest : List Token) :
    (moreItems ws ++ rest).foldlM step? (.next w, .array done :: stack) =
      rest.foldlM step? (.next (.array (done.reverse ++ w :: ws)), stack) := by
  match ws with
  | [] =>
    rw [moreItems, List.cons_append, List.foldlM_cons, ← List.reverse_cons]
    rfl
  | next :: ws =>
    rw [moreItems, List.cons_append, List.append_assoc, List.foldlM_cons]
    change (next.tokens ++ _).foldlM step? (.value, .array (w :: done) :: stack) = _
    rw [foldlM_tokens next, foldlM_moreItems ws, List.reverse_cons, List.append_assoc]
    rfl

theorem foldlM_moreMembers (ms : List (Option String × Written)) (key : Option String) (w : Written)
    (done : List (Option String × Written)) (stack : List Frame) (rest : List Token) :
    (moreMembers ms ++ rest).foldlM step? (.next w, .object done key :: stack) =
      rest.foldlM step? (.next (.object (done.reverse ++ (key, w) :: ms)), stack) := by
  match ms with
  | [] =>
    rw [moreMembers, List.cons_append, List.foldlM_cons, ← List.reverse_cons]
    rfl
  | (next, v) :: ms =>
    rw [moreMembers, List.cons_append, List.cons_append, List.cons_append, List.append_assoc]
    change (v.tokens ++ _).foldlM step? (.value, .object ((key, w) :: done) next :: stack) = _
    rw [foldlM_tokens v, foldlM_moreMembers ms, List.reverse_cons, List.append_assoc]
    rfl

end

theorem ofTokens?_tokens (w : Written) : ofTokens? w.tokens = some w := by
  have run := foldlM_tokens w [] []
  rw [List.append_nil] at run
  rw [ofTokens?, run]
  rfl

end Run

section Chain

/-- Tokens that may follow a value, if any do. -/
structure Follows (next : List Token) : Prop where
  chain : next.IsChain Token.Adjacent
  ends : ∀ t ∈ next.head?, t.endsNumber = true

theorem Follows.cons {next : List Token} (follows : Follows next) (t : Token) :
    (t :: next).IsChain Token.Adjacent := by
  refine List.isChain_cons.mpr ⟨fun following first => ?_, follows.chain⟩
  cases t with
  | number => exact follows.ends following first
  | _ => trivial

theorem Follows.start {t : Token} {next : List Token} (ends : t.endsNumber = true)
    (chain : (t :: next).IsChain Token.Adjacent) : Follows (t :: next) := by
  refine ⟨chain, fun first start => ?_⟩
  obtain rfl := Option.some.inj start
  exact ends

-- By recursion on the tree, for all that may follow: what stands between items or behind them ends a
-- number, and only the last token of a value can be one.
mutual

theorem isChain_tokens (w : Written) {next : List Token} (follows : Follows next) :
    (w.tokens ++ next).IsChain Token.Adjacent := by
  match w with
  | .null | .bool _ | .number _ | .text _ => exact follows.cons _
  | .array [] | .object [] => exact .cons_cons trivial (follows.cons _)
  | .array (w :: ws) =>
    rw [tokens, List.cons_append, List.append_assoc]
    have chain := isChain_tokens w (follows_moreItems ws follows)
    exact List.isChain_cons.mpr ⟨fun _ _ => trivial, chain⟩
  | .object ((key, w) :: ms) =>
    rw [tokens, List.cons_append, List.cons_append, List.cons_append, List.append_assoc]
    have chain := isChain_tokens w (follows_moreMembers ms follows)
    exact .cons_cons trivial (.cons_cons trivial (List.isChain_cons.mpr ⟨fun _ _ => trivial, chain⟩))

theorem follows_moreItems (ws : List Written) {next : List Token} (follows : Follows next) :
    Follows (moreItems ws ++ next) := by
  match ws with
  | [] => exact .start rfl (follows.cons _)
  | w :: ws =>
    rw [moreItems, List.cons_append, List.append_assoc]
    have chain := isChain_tokens w (follows_moreItems ws follows)
    exact .start rfl (List.isChain_cons.mpr ⟨fun _ _ => trivial, chain⟩)

theorem follows_moreMembers (ms : List (Option String × Written)) {next : List Token}
    (follows : Follows next) : Follows (moreMembers ms ++ next) := by
  match ms with
  | [] => exact .start rfl (follows.cons _)
  | (key, w) :: ms =>
    rw [moreMembers, List.cons_append, List.cons_append, List.cons_append, List.append_assoc]
    have chain := isChain_tokens w (follows_moreMembers ms follows)
    exact .start rfl (.cons_cons trivial (.cons_cons trivial
      (List.isChain_cons.mpr ⟨fun _ _ => trivial, chain⟩)))

end

end Chain

/-- A tree is read from every text that spells its tokens. -/
theorem read?_spelled {w : Written} {cs : List Char} (spelled : Spelled w.tokens cs) :
    read? cs = some w := by
  have chain := isChain_tokens w (⟨.nil, nofun⟩ : Follows [])
  rw [List.append_nil] at chain
  rw [read?, spelled.lexed chain]
  exact ofTokens?_tokens w

/-- A tree stands in a text that spells it and has nothing but blanks around that. -/
inductive StandsIn (w : Written) : List Char → Prop
  | within (before core after) (spelled : Spelled w.tokens core)
      (blank : before.all Text.isBlank = true) (blank' : after.all Text.isBlank = true) :
      StandsIn w (before ++ core ++ after)

theorem StandsIn.read?_trim {w : Written} {cs : List Char} (stands : w.StandsIn cs) :
    read? (Text.trim cs) = some w := by
  obtain ⟨before, core, after, spelled, blank, blank'⟩ := stands
  rw [spelled.trimmed blank blank']
  exact read?_spelled spelled

end ContractLaunch.Json.Written
