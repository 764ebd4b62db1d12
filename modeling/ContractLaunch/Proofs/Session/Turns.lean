import ContractLaunch.Session.Interleaving
import Mathlib.Algebra.Order.Monoid.Prod
import Mathlib.Data.List.Nodup
import Mathlib.Data.Prod.Lex
import Mathlib.Logic.Function.Basic
/-!
The turns of programs that run side by side. A program that takes no second lock, signs only under the
lock of the account, and gives back what it took stands in at most one line, once; while its signed
call is open it is the first there. Every poll that changes anything costs it some of what it has
left to do.
-/
namespace ContractLaunch.Session

def lockOf (role : Role) (c : ClientCall) : Option Role := if c.isSigned then some role else none

/-- A program, holding a lock or none, that has at most so many acts before it and keeps to the rules
of the locks. -/
inductive Disciplined {α : Type} : Option Role → Nat → Program α → Prop
  | done (acts : Nat) (a : α) : Disciplined none acts (.done a)
  | acquire (role : Role) (acts : Nat) (resume : Unit → Program α)
      (kept : Disciplined (some role) acts (resume ())) :
      Disciplined none (acts + 1) (.ask (.acquire role) resume)
  | release (role : Role) (acts : Nat) (resume : Unit → Program α)
      (kept : Disciplined none acts (resume ())) :
      Disciplined (some role) (acts + 1) (.ask (.release role) resume)
  | call (role : Role) (c : ClientCall) (acts : Nat) (resume : c.Reply → Program α)
      (kept : ∀ reply, Disciplined (lockOf role c) acts (resume reply)) :
      Disciplined (lockOf role c) (acts + 1) (.ask (.call role c) resume)

/-- Who holds a lock or waits for it, in the order of their turns. -/
def Lock.line (lock : Lock) : List Nat := lock.holder.toList ++ lock.waiting

/-- A lock serves its claimants: each stands in the line once, and nobody waits for a free lock. -/
structure Lock.Serves (lock : Lock) (claims : Nat → Prop) : Prop where
  once : lock.line.Nodup
  stands : ∀ who, who ∈ lock.line ↔ claims who
  free : lock.holder = none → lock.waiting = []

namespace Lock

variable {lock : Lock} {claims : Nat → Prop} {who : Nat}

theorem ask_line (free : lock.holder = none → lock.waiting = []) (who : Nat) :
    (lock.ask who).line = lock.line ++ [who] := by
  cases held : lock.holder with
  | none => simp [ask, line, held, free held]
  | some first => simp [ask, line, held]

theorem handOver_line (lock : Lock) : lock.handOver.line = lock.waiting := by
  unfold handOver line
  cases lock.waiting <;> rfl

theorem ask_holder (lock : Lock) (who : Nat) :
    (lock.ask who).holder = some (lock.holder.getD who) := by
  cases held : lock.holder with
  | none => simp [ask, held]
  | some first => simp [ask, held]

theorem Serves.ask (serves : lock.Serves claims) (absent : ¬ claims who) :
    (lock.ask who).Serves fun other => claims other ∨ other = who where
  once := by
    rw [ask_line serves.free, ← List.concat_eq_append, List.nodup_concat]
    exact ⟨fun inside => absent ((serves.stands who).mp inside), serves.once⟩
  stands := by
    intro other
    rw [ask_line serves.free, List.mem_append, List.mem_singleton, serves.stands]
  free := by
    intro nobody
    rw [ask_holder] at nobody
    cases nobody

theorem Serves.handOver (serves : lock.Serves claims) (held : lock.holder = some who) :
    lock.handOver.Serves fun other => claims other ∧ other ≠ who := by
  have line : lock.line = who :: lock.waiting := by simp [Lock.line, held]
  have once := serves.once
  rw [line] at once
  obtain ⟨left, rest⟩ := List.nodup_cons.mp once
  refine ⟨?_, ?_, ?_⟩
  · rw [handOver_line]
    exact rest
  · intro other
    rw [handOver_line, ← serves.stands, line, List.mem_cons]
    constructor
    · intro waits
      exact ⟨.inr waits, fun same => left (same ▸ waits)⟩
    · exact fun ⟨stands, differs⟩ => stands.resolve_left differs
  · intro nobody
    have none_waits : lock.waiting = [] := List.head?_eq_none_iff.mp nobody
    simp [Lock.handOver, none_waits]

theorem serves_congr {others : Nat → Prop} (serves : lock.Serves claims)
    (same : ∀ who, claims who ↔ others who) : lock.Serves others :=
  ⟨serves.once, fun who => (serves.stands who).trans (same who), serves.free⟩

end Lock

/-- How a program stands in the lines: what it has left to do, in acts and in polls, and whose lock
it has asked for. A call under a lock is open only in the program's turn. -/
inductive Progress.Stands {α : Type} (turn : Option Role → Prop) :
    Progress α → Nat ×ₗ Nat → Option Role → Prop
  | ready (next acts) (disciplined : Disciplined none acts next) :
      Stands turn (.ready next) (toLex (acts + 1, 0)) none
  | waiting (role next acts) (disciplined : Disciplined (some role) acts next) :
      Stands turn (.waiting role next) (toLex (acts + 1, 0)) (some role)
  | calling (polls role c reply next acts) (first : turn (lockOf role c))
      (kept : ∀ reply, Disciplined (lockOf role c) acts (next reply)) :
      Stands turn (.calling polls role c reply next) (toLex (acts + 1, polls)) (lockOf role c)
  | finished (a) : Stands turn (.finished a) (toLex (0, 0)) none

theorem Progress.Stands.mono {α : Type} {turn turn' : Option Role → Prop} {p : Progress α}
    {cost : Nat ×ₗ Nat} {claim : Option Role} (stands : p.Stands turn cost claim)
    (still : turn claim → turn' claim) : p.Stands turn' cost claim := by
  cases stands with
  | ready next acts disciplined => exact .ready next acts disciplined
  | waiting role next acts disciplined => exact .waiting role next acts disciplined
  | calling polls role c reply next acts first kept =>
    exact .calling polls role c reply next acts (still first) kept
  | finished a => exact .finished a

theorem found_set {α : Type} {programs : List (Progress α)} {who other : Nat} {p q : Progress α}
    (found : (programs.set who p)[other]? = some q) :
    (other = who ∧ q = p) ∨ (other ≠ who ∧ programs[other]? = some q) := by
  by_cases same : other = who
  · subst same
    rw [List.getElem?_set_self'] at found
    obtain ⟨_, -, rfl⟩ := Option.map_eq_some_iff.mp found
    exact .inl ⟨rfl, rfl⟩
  · rw [List.getElem?_set_ne (Ne.symm same)] at found
    exact .inr ⟨same, found⟩

namespace Floor

variable {σ α : Type}

/-- It is the turn of a program at the lock that it claims, if it claims one. -/
def HasTurn (f : Floor σ α) (who : Nat) (claim : Option Role) : Prop :=
  ∀ role, claim = some role → (f.lock role).holder = some who

theorem hasTurn_none (f : Floor σ α) (who : Nat) : f.HasTurn who none := by
  intro role claimed
  cases claimed

/-- The locks serve the programs by their claims, and every program but one stands as it should. -/
structure InTurn (f : Floor σ α) (count : Nat) (cost : Nat → Nat ×ₗ Nat) (claims : Nat → Option Role)
    (skipped : Option Nat) : Prop where
  length : f.programs.length = count
  serves : ∀ role, (f.lock role).Serves fun who => claims who = some role
  absent : ∀ who, count ≤ who → claims who = none
  stands : ∀ (who : Nat) p, f.programs[who]? = some p → some who ≠ skipped →
    p.Stands (f.HasTurn who) (cost who) (claims who)

variable {f : Floor σ α} {count who : Nat} {cost : Nat → Nat ×ₗ Nat} {claims : Nat → Option Role}

@[simp] theorem lock_withLock_self (role : Role) (lock : Lock) :
    (f.withLock role lock).lock role = lock := by
  cases role <;> rfl

theorem lock_withLock_ne {role other : Role} (differs : other ≠ role) (lock : Lock) :
    (f.withLock role lock).lock other = f.lock other := by
  cases role <;> cases other <;> first | rfl | exact absurd rfl differs

theorem InTurn.congr {g : Floor σ α} {skipped : Option Nat}
    (inTurn : f.InTurn count cost claims skipped) (programs : g.programs = f.programs)
    (locks : g.lock = f.lock) : g.InTurn count cost claims skipped where
  length := programs ▸ inTurn.length
  serves := locks ▸ inTurn.serves
  absent := inTurn.absent
  stands := by
    have same : g.HasTurn = f.HasTurn := by
      unfold HasTurn
      rw [locks]
    rw [programs, same]
    exact inTurn.stands

theorem InTurn.record {skipped : Option Nat} (inTurn : f.InTurn count cost claims skipped)
    (event : Event) : (f.record event).InTurn count cost claims skipped := inTurn.congr rfl rfl

theorem InTurn.openCall {skipped : Option Nat} (inTurn : f.InTurn count cost claims skipped) :
    f.openCall.InTurn count cost claims skipped := inTurn.congr rfl rfl

theorem InTurn.closeCall {skipped : Option Nat} (inTurn : f.InTurn count cost claims skipped) :
    f.closeCall.InTurn count cost claims skipped := inTurn.congr rfl rfl

theorem InTurn.forget (inTurn : f.InTurn count cost claims none) (who : Nat) :
    f.InTurn count cost claims (some who) :=
  ⟨inTurn.length, inTurn.serves, inTurn.absent,
    fun other p found _ => inTurn.stands other p found (Option.some_ne_none other)⟩

theorem InTurn.settle (inTurn : f.InTurn count cost claims (some who)) {p : Progress α}
    {left : Nat ×ₗ Nat} (stands : p.Stands (f.HasTurn who) left (claims who)) :
    (f.withProgress who p).InTurn count (Function.update cost who left) claims none where
  length := (List.length_set ..).trans inTurn.length
  serves := inTurn.serves
  absent := inTurn.absent
  stands := by
    intro other p' found _
    rcases found_set found with ⟨rfl, rfl⟩ | ⟨differs, found⟩
    · rw [Function.update_self]
      exact stands
    · rw [Function.update_of_ne differs]
      exact inTurn.stands other p' found fun equal => differs (Option.some.inj equal)

/-- A program takes its place in the line of a lock, or leaves it; the turns of the others stay. -/
theorem InTurn.relock (inTurn : f.InTurn count cost claims (some who)) (inside : who < count)
    (role : Role) (lock : Lock) (claim : Option Role)
    (serves : lock.Serves fun other => Function.update claims who claim other = some role)
    (elsewhere : ∀ other ≠ role, claim = some other ↔ claims who = some other)
    (turns : ∀ other ≠ who, (f.lock role).holder = some other → lock.holder = some other) :
    (f.withLock role lock).InTurn count cost (Function.update claims who claim) (some who) where
  length := by
    cases role <;> exact inTurn.length
  serves := by
    intro other
    by_cases same : other = role
    · subst same
      rw [lock_withLock_self]
      exact serves
    · rw [lock_withLock_ne same]
      refine Lock.serves_congr (inTurn.serves other) fun someone => ?_
      by_cases mine : someone = who
      · subst mine
        rw [Function.update_self]
        exact (elsewhere other same).symm
      · rw [Function.update_of_ne mine]
  absent := by
    intro other outside
    have differs : other ≠ who := by omega
    rw [Function.update_of_ne differs]
    exact inTurn.absent other outside
  stands := by
    intro other p found skipped
    have differs : other ≠ who := fun same => skipped (congrArg some same)
    rw [Function.update_of_ne differs]
    have same : (f.withLock role lock).programs = f.programs := by cases role <;> rfl
    rw [same] at found
    refine (inTurn.stands other p found skipped).mono fun turn role' claimed => ?_
    by_cases here : role' = role
    · subst here
      rw [lock_withLock_self]
      exact turns other differs (turn role' claimed)
    · rw [lock_withLock_ne here]
      exact turn role' claimed

theorem InTurn.acquire (inTurn : f.InTurn count cost claims (some who)) (inside : who < count)
    (unclaimed : claims who = none) (role : Role) :
    (f.withLock role ((f.lock role).ask who)).InTurn count cost
      (Function.update claims who (some role)) (some who) := by
  have absent : ¬ claims who = some role := by simp [unclaimed]
  refine inTurn.relock inside role _ (some role) ?_ ?_ ?_
  · refine Lock.serves_congr ((inTurn.serves role).ask absent) fun other => ?_
    by_cases mine : other = who
    · simp [mine]
    · simp [mine]
  · intro other differs
    simp [unclaimed, Ne.symm differs]
  · intro other _ held
    rw [Lock.ask_holder, held]
    rfl

theorem InTurn.release (inTurn : f.InTurn count cost claims (some who)) (inside : who < count)
    {role : Role} (claimed : claims who = some role) (turn : (f.lock role).holder = some who) :
    (f.withLock role (f.lock role).handOver).InTurn count cost
      (Function.update claims who none) (some who) := by
  refine inTurn.relock inside role _ none ?_ ?_ ?_
  · refine Lock.serves_congr ((inTurn.serves role).handOver turn) fun other => ?_
    by_cases mine : other = who
    · simp [mine]
    · simp [mine]
  · intro other differs
    simp [claimed, Ne.symm differs]
  · intro other differs held
    exact absurd (Option.some.inj (held.symm.trans turn)) differs

theorem cost_lt (acts polls more : Nat) : toLex (acts, polls) < toLex (acts + 1, more) :=
  Prod.Lex.toLex_lt_toLex.mpr (.inl (Nat.lt_succ_self acts))

theorem advance_inTurn (serve : Clients σ) (duration : Nat → Nat) (inside : who < count)
    {held : Option Role} {acts : Nat} {next : Program α} (disciplined : Disciplined held acts next)
    (inTurn : f.InTurn count cost claims (some who)) (claimed : claims who = held)
    (turn : f.HasTurn who held) :
    ∃ left < toLex (acts + 1, 0), ∃ claims',
      (advance serve duration who next f).InTurn count (Function.update cost who left) claims' none := by
  -- Within one poll the program may take a free lock, get an answer and give the lock back, so the
  -- induction is on all that is left of it, and its place in the line changes on the way.
  induction disciplined generalizing f claims with
  | done acts a =>
    have nothing : toLex (0, 0) < toLex (acts + 1, 0) :=
      Prod.Lex.toLex_lt_toLex.mpr (.inl (Nat.succ_pos acts))
    exact ⟨_, nothing, claims, inTurn.settle (claimed ▸ .finished a)⟩
  | acquire role acts resume kept ih =>
    have asked := inTurn.acquire inside claimed role
    have mine : Function.update claims who (some role) who = some role := Function.update_self ..
    rw [advance]
    split
    next free =>
      have first : (f.withLock role ((f.lock role).ask who)).HasTurn who (some role) := by
        intro _ same
        cases same
        rw [lock_withLock_self, Lock.ask_holder, Option.isNone_iff_eq_none.mp free]
        rfl
      obtain ⟨left, less, onward⟩ := ih asked mine first
      exact ⟨left, less.trans (cost_lt ..), onward⟩
    next =>
      refine ⟨toLex (acts + 1, 0), cost_lt .., _, asked.settle ?_⟩
      rw [mine]
      exact .waiting role _ acts kept
  | release role acts resume kept ih =>
    have released := inTurn.release inside claimed (turn role rfl)
    obtain ⟨left, less, onward⟩ := ih released (Function.update_self ..) (hasTurn_none _ _)
    exact ⟨left, less.trans (cost_lt ..), onward⟩
  | call role c acts resume kept ih =>
    rw [advance]
    obtain ⟨outcome, clients⟩ := serve f.clients role c
    have served : InTurn { f with clients } count cost claims (some who) := inTurn.congr rfl rfl
    have called := served.record (.called who role c)
    cases outcome with
    | refused fault =>
      obtain ⟨left, less, onward⟩ := ih (.error fault) (called.record _) claimed turn
      exact ⟨left, less.trans (cost_lt ..), onward⟩
    | opened reply =>
      dsimp only
      split
      · obtain ⟨left, less, onward⟩ := ih reply (called.openCall.closeCall.record _) claimed turn
        exact ⟨left, less.trans (cost_lt ..), onward⟩
      · refine ⟨toLex (acts + 1, duration f.made), cost_lt .., claims, called.openCall.settle ?_⟩
        rw [claimed]
        exact .calling _ role c reply resume acts turn kept

end Floor

end ContractLaunch.Session
