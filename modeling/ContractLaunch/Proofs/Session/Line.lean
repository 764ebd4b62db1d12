import ContractLaunch.Proofs.Session.Polls
/-!
The order in the lines. A program that waits stands behind those who hold the lock or asked for it
earlier; a poll takes at most the polled program out of a line and puts it at the end, so that nobody
overtakes anybody, and it leaves a program waiting only behind others.
-/
namespace ContractLaunch.Session

/-- Those who hold a lock or asked for it before a program did. -/
def Lock.ahead (lock : Lock) (who : Nat) : List Nat := lock.line.takeWhile (· ≠ who)

/-- The lock that a program has asked for and not given back. -/
def Progress.claim {α : Type} : Progress α → Option Role
  | .waiting role _ => some role
  | .calling _ role c _ _ => lockOf role c
  | .ready _ | .finished _ => none

/-- A line keeps its order, but for one who may leave it or be put at its end. -/
def Passes (who : Nat) (first last : List Nat) : Prop :=
  last = first ∨ last = first.erase who ∨ last = first.erase who ++ [who]

namespace Lock

variable {lock : Lock} {who : Nat}

theorem mem_line_of_mem_ahead {other : Nat} (ahead : other ∈ lock.ahead who) :
    other ∈ lock.line ∧ other ≠ who := by
  refine ⟨(List.takeWhile_prefix _).subset ahead, ?_⟩
  simpa using (List.all_eq_true.mp List.all_takeWhile) other ahead

theorem ahead_ne_nil (free : lock.holder = none → lock.waiting = []) (stands : who ∈ lock.line)
    (behind : lock.holder ≠ some who) : lock.ahead who ≠ [] := by
  unfold ahead
  unfold line at stands ⊢
  cases held : lock.holder with
  | none =>
    rw [held, free held] at stands
    cases stands
  | some first =>
    rw [held] at behind
    have differs : first ≠ who := fun same => behind (congrArg some same)
    rw [Option.toList_some, List.singleton_append, List.takeWhile_cons_of_pos (by simpa using differs)]
    exact List.cons_ne_nil _ _

theorem ahead_ask (free : lock.holder = none → lock.waiting = []) (absent : who ∉ lock.line)
    (busy : lock.holder ≠ none) : (lock.ask who).ahead who ≠ [] := by
  refine ahead_ne_nil ?_ ?_ ?_
  · intro nobody
    rw [ask_holder] at nobody
    cases nobody
  · rw [ask_line free]
    exact List.mem_append_right _ (List.mem_singleton_self who)
  · cases held : lock.holder with
    | none => exact absurd held busy
    | some first =>
      rw [ask_holder, held]
      intro same
      refine absent ?_
      rw [line, held, ← Option.some.inj same]
      exact List.mem_cons_self

end Lock

namespace Floor

variable {σ α : Type}

/-- While a program is carried on, the lines are those of the poll's beginning, `first`, without the
program, which is at the head of the line of the lock that it holds. -/
structure Passing (f : Floor σ α) (first : Role → List Nat) (who : Nat) (held : Option Role) :
    Prop where
  free : ∀ role, (f.lock role).holder = none → (f.lock role).waiting = []
  line : ∀ role, (f.lock role).line =
    (if held = some role then [who] else []) ++ (first role).erase who
  came : ∀ role, held = some role →
    (first role).erase who = [] ∨ first role = who :: (first role).erase who
  once : ∀ role, who ∉ (first role).erase who

variable {f g : Floor σ α} {first : Role → List Nat} {who : Nat} {role : Role}

theorem Passing.congr {held : Option Role} (passing : f.Passing first who held)
    (locks : g.lock = f.lock) : g.Passing first who held :=
  ⟨locks ▸ passing.free, locks ▸ passing.line, passing.came, passing.once⟩

theorem Passing.passes {held : Option Role} (passing : f.Passing first who held) (role : Role) :
    Passes who (first role) (f.lock role).line := by
  rw [passing.line]
  by_cases mine : held = some role
  · rw [if_pos mine]
    obtain alone | head := passing.came role mine
    · rw [alone, List.append_nil]
      refine .inr (.inr ?_)
      rw [alone, List.nil_append]
    · exact .inl head.symm
  · rw [if_neg mine]
    exact .inr (.inl rfl)

theorem Passing.absent (passing : f.Passing first who none) (role : Role) :
    who ∉ (f.lock role).line := by
  rw [passing.line, if_neg (Option.some_ne_none role).symm, List.nil_append]
  exact passing.once role

theorem Passing.enter (passing : f.Passing first who none) (free : (f.lock role).holder = none) :
    (f.withLock role ((f.lock role).ask who)).Passing first who (some role) := by
  have empty : (first role).erase who = [] := by
    have line := passing.line role
    rw [if_neg (Option.some_ne_none role).symm, List.nil_append] at line
    rw [← line, Lock.line, free, passing.free role free]
    rfl
  refine ⟨?_, ?_, ?_, passing.once⟩
  · intro other
    by_cases same : other = role
    · subst same
      rw [lock_withLock_self, Lock.ask_holder]
      intro nobody
      cases nobody
    · rw [lock_withLock_ne same]
      exact passing.free other
  · intro other
    by_cases same : other = role
    · subst same
      rw [lock_withLock_self, Lock.ask_line (passing.free other), passing.line, if_pos rfl,
        if_neg (Option.some_ne_none other).symm, empty]
      rfl
    · rw [lock_withLock_ne same, passing.line, if_neg (Option.some_ne_none other).symm,
        if_neg fun equal => same (Option.some.inj equal).symm]
  · intro other same
    cases same
    exact .inl empty

theorem Passing.leave (passing : f.Passing first who (some role)) :
    (f.withLock role (f.lock role).handOver).Passing first who none := by
  have line := passing.line role
  rw [if_pos rfl, List.singleton_append, Lock.line] at line
  have waiting : (f.lock role).waiting = (first role).erase who := by
    cases held : (f.lock role).holder with
    | none =>
      rw [held, passing.free role held] at line
      cases line
    | some head =>
      rw [held] at line
      exact (List.cons.inj line).2
  refine ⟨?_, ?_, ?_, passing.once⟩
  · intro other
    by_cases same : other = role
    · subst same
      rw [lock_withLock_self]
      intro nobody
      have none_waits : (f.lock other).waiting = [] := List.head?_eq_none_iff.mp nobody
      simp [Lock.handOver, none_waits]
    · rw [lock_withLock_ne same]
      exact passing.free other
  · intro other
    rw [if_neg (Option.some_ne_none other).symm]
    by_cases same : other = role
    · subst same
      rw [lock_withLock_self, Lock.handOver_line, waiting]
      rfl
    · rw [lock_withLock_ne same, passing.line, if_neg fun equal => same (Option.some.inj equal).symm]
  · intro other claimed
    cases claimed

/-- What a poll does to the lines: nobody overtakes, and if the polled program is left waiting, it is
behind somebody. -/
structure KeepsOrder (f g : Floor σ α) (who : Nat) : Prop where
  passes : ∀ role, Passes who (f.lock role).line (g.lock role).line
  behind : ∀ role next, g.programs[who]? = some (.waiting role next) → (g.lock role).ahead who ≠ []

variable {serve : Clients σ} {duration : Nat → Nat}

theorem Carried.keepsOrder {phase : Phase} {calls : Nat}
    (carried : Carried serve duration who phase calls f g)
    (passing : f.Passing first who phase.held) :
    (∀ role, Passes who (first role) (g.lock role).line) ∧
      ∀ role next, g.programs[who]? = some (.waiting role next) → (g.lock role).ahead who ≠ [] := by
  induction carried with
  | finish calls a f =>
    refine ⟨passing.passes, fun role next found => ?_⟩
    cases eq_of_withProgress found
  | queue role calls next f busy kept =>
    constructor
    · intro other
      change Passes who (first other) ((f.withLock role ((f.lock role).ask who)).lock other).line
      by_cases same : other = role
      · subst same
        rw [lock_withLock_self, Lock.ask_line (passing.free other), passing.line]
        exact .inr (.inr rfl)
      · rw [lock_withLock_ne same]
        exact passing.passes other
    · intro other next' found
      cases eq_of_withProgress found
      change ((f.withLock role ((f.lock role).ask who)).lock role).ahead who ≠ []
      rw [lock_withLock_self]
      exact Lock.ahead_ask (passing.free role) (passing.absent role) busy
  | enter role calls f g free onward ih => exact ih (passing.enter free)
  | leave role calls f g onward ih => exact ih passing.leave
  | refused role c calls f g fault clients served onward ih =>
    rw [Phase.held_atCall] at passing
    rw [Phase.held_afterCall] at ih
    exact ih (passing.congr rfl)
  | instant role c calls f g reply clients served short onward ih =>
    rw [Phase.held_atCall] at passing
    rw [Phase.held_afterCall] at ih
    exact ih (passing.congr rfl)
  | lasting role c calls f reply next clients served long kept =>
    refine ⟨passing.passes, fun role' next' found => ?_⟩
    cases eq_of_withProgress found

variable {count : Nat} {cost : Nat → Nat ×ₗ Nat} {claims : Nat → Option Role}

theorem InTurn.claims_eq (inTurn : f.InTurn count cost claims none) {p : Progress α}
    (found : f.programs[who]? = some p) : claims who = p.claim := by
  have stands := inTurn.stands who p found (Option.some_ne_none who)
  generalize cost who = paid at stands
  generalize claims who = claim at stands
  cases stands <;> rfl

theorem InTurn.turn_of_calling (inTurn : f.InTurn count cost claims none) {polls : Nat}
    {c : ClientCall} {reply : c.Reply} {next : c.Reply → Program α}
    (found : f.programs[who]? = some (.calling polls role c reply next)) :
    f.HasTurn who (lockOf role c) := by
  have stands := inTurn.stands who _ found (Option.some_ne_none who)
  generalize cost who = paid at stands
  generalize claims who = claim at stands
  cases stands with
  | calling _ _ _ _ _ acts first kept => exact first

theorem InTurn.passing (inTurn : f.InTurn count cost claims none) (turn : f.HasTurn who (claims who)) :
    f.Passing (fun role => (f.lock role).line) who (claims who) := by
  have absent : ∀ role, claims who ≠ some role → who ∉ (f.lock role).line :=
    fun role other inside => other (((inTurn.serves role).stands who).mp inside)
  have head : ∀ role, claims who = some role → (f.lock role).line = who :: (f.lock role).waiting := by
    intro role claimed
    rw [Lock.line, turn role claimed]
    rfl
  refine ⟨fun role => (inTurn.serves role).free, ?_, ?_, ?_⟩
  · intro role
    by_cases claimed : claims who = some role
    · rw [if_pos claimed, head role claimed, List.erase_cons_head]
      rfl
    · rw [if_neg claimed, List.erase_of_not_mem (absent role claimed)]
      rfl
  · intro role claimed
    rw [head role claimed, List.erase_cons_head]
    exact .inr rfl
  · intro role inside
    exact (List.Nodup.mem_erase_iff (inTurn.serves role).once).mp inside |>.1 rfl

theorem InTurn.keepsOrder {left : Nat → Nat} (inTurn : f.InTurn count cost claims none)
    (sectioned : f.SectionedBy left) (who : Nat) :
    f.KeepsOrder (poll serve duration f who) who := by
  have polled := poll_polled serve duration sectioned who
  generalize poll serve duration f who = g at polled
  cases polled with
  | idle stuck =>
    refine ⟨fun role => .inl rfl, fun role next found => ?_⟩
    have claimed := inTurn.claims_eq found
    refine Lock.ahead_ne_nil (inTurn.serves role).free (((inTurn.serves role).stands who).mpr claimed) ?_
    intro turn
    refine stuck ⟨_, found, rfl, fun role' next' same => ?_⟩
    cases same
    exact turn
  | started next g found carried =>
    have unclaimed : claims who = none := inTurn.claims_eq found
    have passing := inTurn.passing (unclaimed ▸ hasTurn_none f who)
    rw [unclaimed] at passing
    obtain ⟨passes, behind⟩ := carried.keepsOrder passing
    exact ⟨passes, behind⟩
  | entered role next g found turn carried =>
    have claimed : claims who = some role := inTurn.claims_eq found
    have first : f.HasTurn who (some role) := fun _ same => Option.some.inj same ▸ turn
    have passing := inTurn.passing (claimed.symm ▸ first)
    rw [claimed] at passing
    obtain ⟨passes, behind⟩ := carried.keepsOrder passing
    exact ⟨passes, behind⟩
  | ticked polls role c reply next found more =>
    refine ⟨fun role => .inl rfl, fun role' next' there => ?_⟩
    cases eq_of_withProgress there
  | replied polls role c reply next g found last carried =>
    have claimed : claims who = lockOf role c := inTurn.claims_eq found
    have passing := inTurn.passing (claimed.symm ▸ inTurn.turn_of_calling found)
    rw [claimed, ← Phase.held_afterCall] at passing
    obtain ⟨passes, behind⟩ := carried.keepsOrder (passing.congr rfl)
    exact ⟨passes, behind⟩

end Floor

end ContractLaunch.Session
