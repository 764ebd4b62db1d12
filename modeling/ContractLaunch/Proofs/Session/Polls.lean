import ContractLaunch.Proofs.Session.Log
import ContractLaunch.Proofs.Session.Turns
import Mathlib.Algebra.BigOperators.Intervals
/-!
What a poll can do. A program whose locks guard single calls takes a lock only to make one signed
call, and gives it back when the call is answered. The relation `Carried` lists what carrying such a
program on can do to the floor, act by act, and `Polled` what a poll can do; what holds after every
poll is proved from them, case by case.
-/
namespace ContractLaunch.Session

/-- Where a program stands with its lock. -/
inductive Phase where
  | outside
  /-- It holds the lock for the signed call that it makes next. -/
  | entered (role : Role)
  /-- Its signed call is answered, and it gives the lock back next. -/
  | leaving (role : Role)

namespace Phase

def held : Phase → Option Role
  | outside => none
  | entered role | leaving role => some role

def atCall (role : Role) (c : ClientCall) : Phase := if c.isSigned then entered role else outside

def afterCall (role : Role) (c : ClientCall) : Phase := if c.isSigned then leaving role else outside

@[simp] theorem held_atCall (role : Role) (c : ClientCall) :
    (atCall role c).held = lockOf role c := by
  unfold atCall lockOf
  split <;> rfl

@[simp] theorem held_afterCall (role : Role) (c : ClientCall) :
    (afterCall role c).held = lockOf role c := by
  unfold afterCall lockOf
  split <;> rfl

end Phase

/-- A program in some phase, with at most so many calls before it, whose locks guard single calls. -/
inductive Sectioned {α : Type} : Phase → Nat → Program α → Prop
  | done (calls : Nat) (a : α) : Sectioned .outside calls (.done a)
  | acquire (role : Role) (calls : Nat) (resume : Unit → Program α)
      (kept : Sectioned (.entered role) calls (resume ())) :
      Sectioned .outside calls (.ask (.acquire role) resume)
  | release (role : Role) (calls : Nat) (resume : Unit → Program α)
      (kept : Sectioned .outside calls (resume ())) :
      Sectioned (.leaving role) calls (.ask (.release role) resume)
  | call (role : Role) (c : ClientCall) (calls : Nat) (resume : c.Reply → Program α)
      (kept : ∀ reply, Sectioned (.afterCall role c) calls (resume reply)) :
      Sectioned (.atCall role c) (calls + 1) (.ask (.call role c) resume)

theorem Disciplined.mono {α : Type} {held : Option Role} {acts more : Nat} {program : Program α}
    (disciplined : Disciplined held acts program) (le : acts ≤ more) :
    Disciplined held more program := by
  induction disciplined generalizing more with
  | done acts a => exact .done more a
  | acquire role acts resume kept ih =>
    obtain ⟨more, rfl⟩ := Nat.exists_eq_add_one_of_ne_zero (by omega : more ≠ 0)
    exact .acquire role more resume (ih (by omega))
  | release role acts resume kept ih =>
    obtain ⟨more, rfl⟩ := Nat.exists_eq_add_one_of_ne_zero (by omega : more ≠ 0)
    exact .release role more resume (ih (by omega))
  | call role c acts resume kept ih =>
    obtain ⟨more, rfl⟩ := Nat.exists_eq_add_one_of_ne_zero (by omega : more ≠ 0)
    exact .call role c more resume fun reply => ih reply (by omega)

/-- A bound on the acts of a program, three for each call that is left. -/
def Phase.acts (calls : Nat) : Phase → Nat
  | outside => 3 * calls + 1
  | entered _ => 3 * calls
  | leaving _ => 3 * calls + 2

theorem Sectioned.disciplined {α : Type} {phase : Phase} {calls : Nat} {program : Program α}
    (sectioned : Sectioned phase calls program) :
    Disciplined phase.held (phase.acts calls) program := by
  induction sectioned with
  | done calls a => exact .done _ a
  | acquire role calls resume kept ih => exact .acquire role (3 * calls) resume ih
  | release role calls resume kept ih => exact .release role (3 * calls + 1) resume ih
  | call role c calls resume kept ih =>
    rw [Phase.held_atCall]
    have enough : ∀ reply, Disciplined (lockOf role c) (3 * calls + 2) (resume reply) := by
      intro reply
      have rest := ih reply
      rw [Phase.held_afterCall] at rest
      refine rest.mono ?_
      unfold Phase.afterCall
      split
      · exact le_rfl
      · exact Nat.le_succ _
    refine (Disciplined.call role c _ resume enough).mono ?_
    unfold Phase.atCall
    split
    · exact le_rfl
    · exact Nat.le_succ _

/-- A program that is not being polled, with at most so many calls before it. -/
inductive Progress.Sectioned {α : Type} (calls : Nat) : Progress α → Prop
  | ready (next) (kept : Session.Sectioned .outside calls next) : Sectioned calls (.ready next)
  | waiting (role next) (kept : Session.Sectioned (.entered role) calls next) :
      Sectioned calls (.waiting role next)
  | calling (polls role c reply next)
      (kept : ∀ reply, Session.Sectioned (.afterCall role c) calls (next reply)) :
      Sectioned calls (.calling polls role c reply next)
  | finished (a) : Sectioned calls (.finished a)

def Progress.isReady {α : Type} : Progress α → Bool
  | ready _ => true
  | _ => false

def Event.isCall : Event → Bool
  | called .. => true
  | answered .. => false

/-- The rounds that a program takes until its next call is made, or until the one that is open is
answered and it has the next lock or its result. -/
def Progress.weight {α : Type} : Progress α → Nat
  | ready _ | waiting .. => 1
  | calling polls .. => max polls 1 + 1
  | finished _ => 0

/-- The rounds that a program may take before a call that it is free to make. -/
def Phase.slack : Phase → Nat
  | outside | leaving _ => 1
  | entered _ => 0

@[simp] theorem Phase.slack_afterCall (role : Role) (c : ClientCall) :
    (afterCall role c).slack = 1 := by
  unfold afterCall
  split <;> rfl

/-- The rounds that so many calls take, of which so many others were made before. -/
def callRounds (duration : Nat → Nat) (made calls : Nat) : Nat :=
  ∑ n ∈ Finset.range calls, (duration (made + n) + 2)

theorem callRounds_succ (duration : Nat → Nat) (made calls : Nat) :
    callRounds duration made (calls + 1) =
      duration made + 2 + callRounds duration (made + 1) calls := by
  unfold callRounds
  rw [Finset.sum_range_succ', Nat.add_comm]
  refine congrArg (_ + ·) (Finset.sum_congr rfl fun n _ => ?_)
  rw [Nat.add_comm n 1, Nat.add_assoc]

theorem callRounds_last (duration : Nat → Nat) (made calls : Nat) :
    callRounds duration made (calls + 1) =
      callRounds duration made calls + (duration (made + calls) + 2) := Finset.sum_range_succ _ _

namespace Floor

variable {σ α : Type}

/-- A program goes on when it is polled: it is not finished, and it does not wait for a lock that
another holds. -/
def Able (f : Floor σ α) (who : Nat) : Prop :=
  ∃ p, f.programs[who]? = some p ∧ p.isFinished = false ∧
    ∀ role next, p = .waiting role next → (f.lock role).holder = some who

def SectionedBy (f : Floor σ α) (left : Nat → Nat) : Prop :=
  ∀ (who : Nat) p, f.programs[who]? = some p → p.Sectioned (left who)

theorem eq_of_withProgress {f : Floor σ α} {who : Nat} {p q : Progress α}
    (found : (f.withProgress who p).programs[who]? = some q) : p = q := by
  rcases found_set found with ⟨-, same⟩ | ⟨differs, -⟩
  · exact same.symm
  · exact absurd rfl differs

section Polls

variable (serve : Clients σ) (duration : Nat → Nat) (who : Nat)

/-- What carrying a program on can do to the floor. -/
inductive Carried : Phase → Nat → Floor σ α → Floor σ α → Prop
  | finish (calls a f) : Carried .outside calls f (f.withProgress who (.finished a))
  | queue (role calls next f) (busy : (f.lock role).holder ≠ none)
      (kept : Sectioned (.entered role) calls next) :
      Carried .outside calls f
        ((f.withLock role ((f.lock role).ask who)).withProgress who (.waiting role next))
  | enter (role calls f g) (free : (f.lock role).holder = none)
      (onward : Carried (.entered role) calls (f.withLock role ((f.lock role).ask who)) g) :
      Carried .outside calls f g
  | leave (role calls f g)
      (onward : Carried .outside calls (f.withLock role (f.lock role).handOver) g) :
      Carried (.leaving role) calls f g
  | refused (role c calls f g fault clients)
      (served : serve f.clients role c = (.refused fault, clients))
      (onward : Carried (.afterCall role c) calls
        (({ f with clients }.record (.called who role c)).record
          (.answered who role c (.error fault))) g) :
      Carried (.atCall role c) (calls + 1) f g
  | instant (role c calls f g reply clients)
      (served : serve f.clients role c = (.opened reply, clients)) (short : duration f.made = 0)
      (onward : Carried (.afterCall role c) calls
        (({ f with clients }.record (.called who role c)).openCall.closeCall.record
          (.answered who role c reply)) g) :
      Carried (.atCall role c) (calls + 1) f g
  | lasting (role c calls f reply next clients)
      (served : serve f.clients role c = (.opened reply, clients)) (long : duration f.made ≠ 0)
      (kept : ∀ reply, Sectioned (.afterCall role c) calls (next reply)) :
      Carried (.atCall role c) (calls + 1) f
        (({ f with clients }.record (.called who role c)).openCall.withProgress who
          (.calling (duration f.made) role c reply next))

variable {serve duration who}

theorem advance_carried {phase : Phase} {calls : Nat} {next : Program α} {f : Floor σ α}
    (sectioned : Sectioned phase calls next) :
    Carried serve duration who phase calls f (advance serve duration who next f) := by
  induction sectioned generalizing f with
  | done calls a => exact .finish calls a f
  | acquire role calls resume kept ih =>
    rw [advance]
    split
    next free => exact .enter role calls f _ (Option.isNone_iff_eq_none.mp free) ih
    next busy => exact .queue role calls _ f (fun free => busy (Option.isNone_iff_eq_none.mpr free)) kept
  | release role calls resume kept ih => exact .leave role calls f _ ih
  | call role c calls resume kept ih =>
    rw [advance]
    generalize served : serve f.clients role c = outcome
    obtain ⟨_ | reply, clients⟩ := outcome
    · exact .refused role c calls f _ _ clients served (ih _)
    · dsimp only
      split
      next short => exact .instant role c calls f _ reply clients served short (ih reply)
      next long => exact .lasting role c calls f reply resume clients served long kept

/-- A log grows by events of one program, which makes so many of its calls that it has the others
left. -/
def Grows (who : Nat) (first last : List Event) (left calls : Nat) : Prop :=
  ∃ events, last = first ++ events ∧ (∀ event ∈ events, event.who = who) ∧
    left + events.countP Event.isCall = calls

theorem Grows.refl (log : List Event) (calls : Nat) : Grows who log log calls calls :=
  ⟨[], (List.append_nil log).symm, nofun, rfl⟩

theorem Grows.answered {log last : List Event} {role : Role} {c : ClientCall} {reply : c.Reply}
    {left calls : Nat} (grows : Grows who (log ++ [.answered who role c reply]) last left calls) :
    Grows who log last left calls := by
  obtain ⟨events, rfl, mine, spent⟩ := grows
  refine ⟨_, List.append_assoc .., List.forall_mem_cons.mpr ⟨rfl, mine⟩, ?_⟩
  rw [List.singleton_append, List.countP_cons_of_neg Bool.false_ne_true, spent]

theorem Grows.called {log last : List Event} {role : Role} {c : ClientCall} {left calls : Nat}
    (grows : Grows who (log ++ [.called who role c]) last left calls) :
    Grows who log last left (calls + 1) := by
  obtain ⟨events, rfl, mine, spent⟩ := grows
  refine ⟨_, List.append_assoc .., List.forall_mem_cons.mpr ⟨rfl, mine⟩, ?_⟩
  rw [List.singleton_append, List.countP_cons_of_pos rfl, ← Nat.add_assoc, spent]

/-- What a program is left with after it was carried on. It has made the calls that it no longer has
before it. Those calls have paid for the rounds to come, and the calls that it has left are paid for
together with the `others`. -/
structure Left (duration : Nat → Nat) (who : Nat) (f g : Floor σ α) (phase : Phase) (calls : Nat)
    (p : Progress α) (left : Nat) : Prop where
  programs : g.programs = f.programs.set who p
  sectioned : p.Sectioned left
  started : p.isReady = false
  grown : Grows who f.log g.log left calls
  paid : ∀ others, p.weight + callRounds duration g.made (others + left) ≤
    phase.slack + callRounds duration f.made (others + calls)

theorem Carried.leaves {phase : Phase} {calls : Nat} {f g : Floor σ α}
    (carried : Carried serve duration who phase calls f g) :
    ∃ p left, Left duration who f g phase calls p left := by
  induction carried with
  | finish calls a f =>
    refine ⟨.finished a, calls, rfl, .finished a, rfl, .refl f.log calls, fun others => ?_⟩
    exact Nat.add_le_add_right (Nat.zero_le 1) _
  | queue role calls next f busy kept =>
    refine ⟨.waiting role next, calls, ?_, .waiting role next kept, rfl, ?_, fun others => ?_⟩
    · exact congrArg (List.set · who _) (withLock_programs role _)
    · change Grows who f.log (f.withLock role _).log calls calls
      rw [withLock_log]
      exact .refl f.log calls
    · cases role <;> exact le_rfl
  | enter role calls f g free onward ih =>
    obtain ⟨p, left, programs, sectioned, started, grown, paid⟩ := ih
    rw [withLock_log] at grown
    refine ⟨p, left, ?_, sectioned, started, grown, fun others => (paid others).trans ?_⟩
    · rw [programs, withLock_programs]
    · cases role <;> exact Nat.add_le_add_right (Nat.zero_le 1) _
  | leave role calls f g onward ih =>
    obtain ⟨p, left, programs, sectioned, started, grown, paid⟩ := ih
    rw [withLock_log] at grown
    refine ⟨p, left, ?_, sectioned, started, grown, fun others => (paid others).trans ?_⟩
    · rw [programs, withLock_programs]
    · cases role <;> exact le_rfl
  | refused role c calls f g fault clients served onward ih =>
    obtain ⟨p, left, programs, sectioned, started, grown, paid⟩ := ih
    refine ⟨p, left, programs, sectioned, started, grown.answered.called,
      fun others => (paid others).trans ?_⟩
    have cheaper := callRounds_last duration f.made (others + calls)
    rw [Phase.slack_afterCall, ← Nat.add_assoc others calls 1, cheaper]
    change 1 + callRounds duration f.made (others + calls) ≤ _
    omega
  | instant role c calls f g reply clients served short onward ih =>
    obtain ⟨p, left, programs, sectioned, started, grown, paid⟩ := ih
    refine ⟨p, left, programs, sectioned, started, grown.answered.called,
      fun others => (paid others).trans ?_⟩
    have cheaper := callRounds_succ duration f.made (others + calls)
    rw [Phase.slack_afterCall, ← Nat.add_assoc others calls 1, cheaper]
    change 1 + callRounds duration (f.made + 1) (others + calls) ≤ _
    omega
  | lasting role c calls f reply next clients served long kept =>
    refine ⟨_, calls, rfl, .calling _ role c reply next kept, rfl,
      Grows.called (.refl _ calls), fun others => ?_⟩
    have cheaper := callRounds_succ duration f.made (others + calls)
    rw [← Nat.add_assoc others calls 1, cheaper]
    change max (duration f.made) 1 + 1 + callRounds duration (f.made + 1) (others + calls) ≤ _
    omega

variable (serve duration)

inductive Polled (f : Floor σ α) (who calls : Nat) : Floor σ α → Prop
  | idle (stuck : ¬ f.Able who) : Polled f who calls f
  | started (next g) (found : f.programs[who]? = some (.ready next))
      (carried : Carried serve duration who .outside calls f g) : Polled f who calls g
  | entered (role next g) (found : f.programs[who]? = some (.waiting role next))
      (turn : (f.lock role).holder = some who)
      (carried : Carried serve duration who (.entered role) calls f g) : Polled f who calls g
  | ticked (polls role c reply next) (found : f.programs[who]? = some (.calling polls role c reply next))
      (more : 1 < polls) :
      Polled f who calls (f.withProgress who (.calling (polls - 1) role c reply next))
  | replied (polls role c reply next g)
      (found : f.programs[who]? = some (.calling polls role c reply next)) (last : polls ≤ 1)
      (carried : Carried serve duration who (.afterCall role c) calls
        (f.closeCall.record (.answered who role c reply)) g) : Polled f who calls g

theorem poll_polled {f : Floor σ α} {left : Nat → Nat} (sectioned : f.SectionedBy left) (who : Nat) :
    Polled serve duration f who (left who) (poll serve duration f who) := by
  unfold poll
  split
  next next found =>
    cases sectioned who _ found with
    | ready _ kept => exact .started next _ found (advance_carried kept)
  next role next found =>
    split
    next turn =>
      cases sectioned who _ found with
      | waiting _ _ kept => exact .entered role next _ found turn (advance_carried kept)
    next behind =>
      refine .idle fun able => ?_
      obtain ⟨p, there, -, turn⟩ := able
      exact behind (turn role next (Option.some.inj (there.symm.trans found)))
  next polls role c reply next found =>
    split
    next last =>
      cases sectioned who _ found with
      | calling _ _ _ _ _ kept =>
        exact .replied polls role c reply next _ found last (advance_carried (kept reply))
    next more => exact .ticked polls role c reply next found (Nat.lt_of_not_le more)
  next a found =>
    refine .idle fun able => ?_
    obtain ⟨p, there, unfinished, -⟩ := able
    rw [Option.some.inj (there.symm.trans found)] at unfinished
    cases unfinished
  next absent =>
    refine .idle fun able => ?_
    obtain ⟨p, there, -⟩ := able
    cases there.symm.trans absent

/-- What a poll of an able program did: the program is now `p`, and the rounds to come have become
fewer, or not more if this was its first poll. -/
structure Onward (f g : Floor σ α) (who calls : Nat) (old p : Progress α) (left : Nat) : Prop where
  found : f.programs[who]? = some old
  programs : g.programs = f.programs.set who p
  sectioned : p.Sectioned left
  started : p.isReady = false
  grown : Grows who f.log g.log left calls
  paid : ∀ others,
    p.weight + callRounds duration g.made (others + left) + (if old.isReady then 0 else 1) ≤
      old.weight + callRounds duration f.made (others + calls)

theorem poll_onward {f : Floor σ α} {left : Nat → Nat} (sectioned : f.SectionedBy left) (who : Nat) :
    (¬ f.Able who ∧ poll serve duration f who = f) ∨
      ∃ old p calls, Onward duration f (poll serve duration f who) who (left who) old p calls := by
  have polled := poll_polled serve duration sectioned who
  generalize poll serve duration f who = g at polled
  cases polled with
  | idle stuck => exact .inl ⟨stuck, rfl⟩
  | started next g found carried =>
    obtain ⟨p, calls, programs, kept, begun, grown, paid⟩ := carried.leaves
    exact .inr ⟨_, p, calls, found, programs, kept, begun, grown, paid⟩
  | entered role next g found turn carried =>
    obtain ⟨p, calls, programs, kept, begun, grown, paid⟩ := carried.leaves
    refine .inr ⟨_, p, calls, found, programs, kept, begun, grown, fun others => ?_⟩
    have cheaper := paid others
    change _ ≤ 0 + callRounds duration f.made _ at cheaper
    change _ + 1 ≤ 1 + callRounds duration f.made _
    omega
  | ticked polls role c reply next found more =>
    have kept : (Progress.calling (polls - 1) role c reply next).Sectioned (left who) := by
      cases sectioned who _ found with
      | calling _ _ _ _ _ kept => exact .calling _ role c reply next kept
    refine .inr ⟨_, _, left who, found, rfl, kept, rfl,
      .refl f.log _, fun others => ?_⟩
    change max (polls - 1) 1 + 1 + callRounds duration f.made _ + 1 ≤ max polls 1 + 1 + _
    omega
  | replied polls role c reply next g found last carried =>
    obtain ⟨p, calls, programs, kept, begun, grown, paid⟩ := carried.leaves
    refine .inr ⟨_, p, calls, found, programs, kept, begun, grown.answered, fun others => ?_⟩
    have cheaper := paid others
    rw [Phase.slack_afterCall] at cheaper
    change _ ≤ 1 + callRounds duration f.made _ at cheaper
    change _ + 1 ≤ max polls 1 + 1 + callRounds duration f.made _
    omega

theorem Onward.sectionedBy {f g : Floor σ α} {left : Nat → Nat} {calls rest : Nat}
    {old p : Progress α} (onward : Onward duration f g who calls old p rest)
    (sectioned : f.SectionedBy left) : g.SectionedBy (Function.update left who rest) := by
  intro other q found
  rw [onward.programs] at found
  rcases found_set found with ⟨rfl, rfl⟩ | ⟨differs, found⟩
  · rw [Function.update_self]
    exact onward.sectioned
  · rw [Function.update_of_ne differs]
    exact sectioned other q found

def Metered (f : Floor σ α) (limit : Nat → Nat) : Prop :=
  ∃ left, f.SectionedBy left ∧ ∀ who, left who + (own who f.log).countP Event.isCall = limit who

theorem poll_metered {f : Floor σ α} {limit : Nat → Nat} (metered : f.Metered limit) (who : Nat) :
    (poll serve duration f who).Metered limit := by
  obtain ⟨left, sectioned, total⟩ := metered
  obtain ⟨-, same⟩ | ⟨old, p, rest, onward⟩ := poll_onward serve duration sectioned who
  · exact ⟨left, same.symm ▸ sectioned, same.symm ▸ total⟩
  · refine ⟨_, onward.sectionedBy duration sectioned, fun other => ?_⟩
    obtain ⟨events, grown, mine, spent⟩ := onward.grown
    have before := total other
    unfold own at before ⊢
    rw [grown, List.filter_append, List.countP_append]
    by_cases same : other = who
    · subst same
      have all : events.filter (·.who = other) = events :=
        List.filter_eq_self.mpr fun event inside => decide_eq_true (mine event inside)
      rw [Function.update_self, all]
      omega
    · have nothing : events.filter (·.who = other) = [] := List.filter_eq_nil_iff.mpr
        fun event inside theirs => same ((of_decide_eq_true theirs).symm.trans (mine event inside))
      rw [Function.update_of_ne same, nothing]
      exact before

theorem follow_preserves {Holds : Floor σ α → Prop}
    (kept : ∀ f who, Holds f → Holds (poll serve duration f who)) {f : Floor σ α} (holds : Holds f)
    (schedule : List Nat) : Holds (follow serve duration f schedule) := by
  induction schedule generalizing f with
  | nil => exact holds
  | cons who rest ih => exact ih (kept f who holds)

end Polls

end Floor

end ContractLaunch.Session
