import ContractLaunch.Proofs.Session.Polls
/-!
The calls that are open at once. At every moment of a run, and a moment is any beginning of the log,
an account has at most one signed call open: the program that made it holds the lock of the account
until the call is answered. The floor's own count of the open calls never exceeds what the log shows.
-/
namespace ContractLaunch.Session

/-- An event ends the open call of its program, or it begins one. -/
def track (opened : List Event) (event : Event) : List Event :=
  match event with
  | .called .. => opened ++ [event]
  | .answered who .. => opened.eraseP (·.who = who)

/-- The calls that are open after some events, in the order in which they were made. -/
def openAfter (log : List Event) : List Event := log.foldl track []

/-- The lock that a call is made under, for one that is signed. -/
def Event.lock? : Event → Option Role
  | .called _ role c | .answered _ role c _ => lockOf role c

def Progress.open? {α : Type} (who : Nat) : Progress α → Option Event
  | .calling _ role c _ _ => some (.called who role c)
  | _ => none

/-- No program has two calls open, and no account has two signed calls open. -/
structure Exclusive (log : List Event) : Prop where
  distinct : ((openAfter log).map Event.who).Nodup
  single : ∀ role, (openAfter log).countP (·.lock? = some role) ≤ 1

theorem openAfter_append (log : List Event) (event : Event) :
    openAfter (log ++ [event]) = track (openAfter log) event := by
  unfold openAfter
  rw [List.foldl_append]
  rfl

theorem mem_of_mem_openAfter {log : List Event} {event : Event} (opened : event ∈ openAfter log) :
    event ∈ log := by
  induction log using List.reverseRecOn with
  | nil => exact opened
  | append_singleton log last ih =>
    rw [openAfter_append] at opened
    cases last with
    | called who role c =>
      rcases List.mem_append.mp opened with early | now
      · exact List.mem_append_left _ (ih early)
      · exact List.mem_append_right _ now
    | answered who role c reply => exact List.mem_append_left _ (ih (List.mem_of_mem_eraseP opened))

theorem mem_eraseP_who {opened : List Event} (distinct : (opened.map Event.who).Nodup) {who : Nat}
    {event : Event} :
    event ∈ opened.eraseP (·.who = who) ↔ event ∈ opened ∧ event.who ≠ who := by
  induction opened with
  | nil => simp
  | cons first rest ih =>
    rw [List.map_cons, List.nodup_cons] at distinct
    by_cases mine : first.who = who
    · rw [List.eraseP_cons_of_pos (by simpa using mine), List.mem_cons]
      constructor
      · intro inside
        refine ⟨.inr inside, fun same => distinct.1 ?_⟩
        rw [mine, ← same]
        exact List.mem_map_of_mem inside
      · rintro ⟨rfl | inside, differs⟩
        · exact absurd mine differs
        · exact inside
    · rw [List.eraseP_cons_of_neg (by simpa using mine), List.mem_cons, List.mem_cons,
        ih distinct.2]
      constructor
      · rintro (rfl | ⟨inside, differs⟩)
        · exact ⟨.inl rfl, mine⟩
        · exact ⟨.inr inside, differs⟩
      · rintro ⟨rfl | inside, differs⟩
        · exact .inl rfl
        · exact .inr ⟨inside, differs⟩

namespace Floor

variable {σ α : Type}

/-- The log shows the calls that all programs but one have open, each signed one under a lock in the
hands of its program, and no moment of the run was otherwise. -/
structure OpenBut (f : Floor σ α) (skipped : Option Nat) : Prop where
  shown : ∀ event, event ∈ openAfter f.log ↔
    some event.who ≠ skipped ∧ ∃ p, f.programs[event.who]? = some p ∧ p.open? event.who = some event
  held : ∀ event ∈ openAfter f.log, ∀ role, event.lock? = some role →
    (f.lock role).holder = some event.who
  exclusive : ∀ past, past <+: f.log → Exclusive past
  counted : f.inFlight = (openAfter f.log).length
  peaked : ∃ past, past <+: f.log ∧ f.peak = (openAfter past).length

variable {f g : Floor σ α} {who : Nat} {role : Role} {c : ClientCall}

theorem OpenBut.start (clients : σ) (starts : List (Program α)) : (start clients starts).OpenBut none where
  shown := by
    intro event
    constructor
    · intro inside
      cases inside
    · intro given
      obtain ⟨-, p, found, calling⟩ := given
      change (starts.map Progress.ready)[event.who]? = some p at found
      rw [List.getElem?_map] at found
      obtain ⟨program, -, rfl⟩ := Option.map_eq_some_iff.mp found
      cases calling
  held := by
    intro event inside
    cases inside
  exclusive := by
    intro past early
    obtain rfl := List.prefix_nil.mp early
    exact ⟨List.nodup_nil, fun _ => Nat.zero_le 1⟩
  counted := rfl
  peaked := ⟨[], List.prefix_rfl, rfl⟩

theorem OpenBut.absent (shows : f.OpenBut (some who)) : ∀ event ∈ openAfter f.log, event.who ≠ who :=
  fun event inside same => ((shows.shown event).mp inside).1 (congrArg some same)

theorem OpenBut.relock {skipped : Option Nat} (shows : f.OpenBut skipped) (role : Role) (lock : Lock)
    (keeps : ∀ event ∈ openAfter f.log, event.lock? = some role → lock.holder = some event.who) :
    (f.withLock role lock).OpenBut skipped where
  shown := by
    rw [withLock_log, withLock_programs]
    exact shows.shown
  held := by
    intro event inside other under
    rw [withLock_log] at inside
    by_cases same : other = role
    · subst same
      rw [lock_withLock_self]
      exact keeps event inside under
    · rw [lock_withLock_ne same]
      exact shows.held event inside other under
  exclusive := by
    rw [withLock_log]
    exact shows.exclusive
  counted := by
    rw [withLock_log]
    cases role <;> exact shows.counted
  peaked := by
    rw [withLock_log]
    cases role <;> exact shows.peaked

theorem OpenBut.ask {skipped : Option Nat} (shows : f.OpenBut skipped) (role : Role) (who : Nat) :
    (f.withLock role ((f.lock role).ask who)).OpenBut skipped := by
  refine shows.relock role _ fun event inside under => ?_
  rw [Lock.ask_holder, shows.held event inside role under]
  rfl

theorem OpenBut.handOver (shows : f.OpenBut (some who)) (turn : (f.lock role).holder = some who) :
    (f.withLock role (f.lock role).handOver).OpenBut (some who) := by
  refine shows.relock role _ fun event inside under => ?_
  have holds := shows.held event inside role under
  exact absurd (Option.some.inj (holds.symm.trans turn)) (shows.absent event inside)

theorem OpenBut.called (shows : f.OpenBut (some who)) (turn : f.HasTurn who (lockOf role c)) :
    openAfter (f.log ++ [.called who role c]) = openAfter f.log ++ [.called who role c] ∧
      ∀ past, past <+: f.log ++ [.called who role c] → Exclusive past := by
  have grown := openAfter_append f.log (.called who role c)
  refine ⟨grown, fun past early => ?_⟩
  obtain rfl | early := List.prefix_concat_iff.mp early
  · have before := shows.exclusive f.log List.prefix_rfl
    constructor
    · rw [grown]
      change ((openAfter f.log ++ [_]).map Event.who).Nodup
      rw [List.map_append, List.map_singleton, ← List.concat_eq_append, List.nodup_concat]
      refine ⟨fun inside => ?_, before.distinct⟩
      obtain ⟨event, present, same⟩ := List.mem_map.mp inside
      exact shows.absent event present same
    · intro other
      rw [grown]
      change (openAfter f.log ++ [_]).countP _ ≤ 1
      rw [List.countP_append]
      by_cases under : lockOf role c = some other
      · have alone : (openAfter f.log).countP (·.lock? = some other) = 0 := by
          refine List.countP_eq_zero.mpr fun event inside locked => ?_
          have holds := shows.held event inside other (of_decide_eq_true locked)
          exact shows.absent event inside (Option.some.inj (holds.symm.trans (turn other under)))
        rw [alone, Nat.zero_add]
        exact List.countP_le_length
      · have free : [Event.called who role c].countP (·.lock? = some other) = 0 := by
          refine List.countP_eq_zero.mpr fun event inside locked => ?_
          rw [List.mem_singleton.mp inside] at locked
          exact under (of_decide_eq_true locked)
        rw [free, Nat.add_zero]
        exact before.single other
  · exact shows.exclusive past early

theorem OpenBut.brief (shows : f.OpenBut (some who)) (turn : f.HasTurn who (lockOf role c))
    {reply : c.Reply} (programs : g.programs = f.programs) (locks : g.lock = f.lock)
    (log : g.log = f.log ++ [.called who role c] ++ [.answered who role c reply])
    (inFlight : g.inFlight = f.inFlight) (peak : g.peak = f.peak ∨ g.peak = f.inFlight + 1) :
    g.OpenBut (some who) := by
  obtain ⟨grown, before⟩ := shows.called turn
  have same : openAfter g.log = openAfter f.log := by
    rw [log, openAfter_append, grown]
    change (openAfter f.log ++ [_]).eraseP _ = _
    rw [List.eraseP_append_right]
    · simp [Event.who]
    · intro event inside
      simpa using shows.absent event inside
  have earlier : f.log ++ [.called who role c] <+: g.log := log ▸ List.prefix_append _ _
  refine ⟨?_, ?_, ?_, ?_, ?_⟩
  · rw [same, programs]
    exact shows.shown
  · rw [same, locks]
    exact shows.held
  · intro past early
    rw [log] at early
    obtain rfl | early := List.prefix_concat_iff.mp early
    · rw [← log]
      have now := shows.exclusive f.log List.prefix_rfl
      exact ⟨same ▸ now.distinct, same ▸ now.single⟩
    · exact before past early
  · rw [same, inFlight]
    exact shows.counted
  · obtain peak | peak := peak
    · obtain ⟨past, early, high⟩ := shows.peaked
      exact ⟨past, early.trans ((List.prefix_append _ _).trans earlier), peak.trans high⟩
    · refine ⟨_, earlier, ?_⟩
      rw [grown, List.length_append, ← shows.counted]
      exact peak

theorem OpenBut.lasting (shows : f.OpenBut (some who)) (turn : f.HasTurn who (lockOf role c))
    (inside : who < f.programs.length) {p : Progress α} (calling : p.open? who = some (.called who role c))
    (programs : g.programs = f.programs.set who p) (locks : g.lock = f.lock)
    (log : g.log = f.log ++ [.called who role c]) (inFlight : g.inFlight = f.inFlight + 1)
    (peak : g.peak = max f.peak (f.inFlight + 1)) : g.OpenBut none := by
  obtain ⟨grown, before⟩ := shows.called turn
  refine ⟨?_, ?_, log ▸ before, ?_, ?_⟩
  · intro event
    rw [log, grown, programs, List.mem_append, List.mem_singleton, shows.shown]
    constructor
    · rintro (⟨skipped, p', found, opened⟩ | rfl)
      · have differs : who ≠ event.who := fun same => skipped (congrArg some same.symm)
        refine ⟨Option.some_ne_none _, p', ?_, opened⟩
        rw [List.getElem?_set_ne differs]
        exact found
      · exact ⟨Option.some_ne_none _, p, List.getElem?_set_self inside, calling⟩
    · rintro ⟨-, p', found, opened⟩
      rcases found_set found with ⟨mine, rfl⟩ | ⟨differs, found⟩
      · rw [mine, calling] at opened
        exact .inr (Option.some.inj opened).symm
      · exact .inl ⟨fun same => differs (Option.some.inj same), p', found, opened⟩
  · intro event opened other under
    rw [log, grown, List.mem_append, List.mem_singleton] at opened
    rw [locks]
    obtain early | rfl := opened
    · exact shows.held event early other under
    · exact turn other under
  · rw [log, grown, List.length_append, ← shows.counted]
    exact inFlight
  · obtain old | new := max_choice f.peak (f.inFlight + 1)
    · obtain ⟨past, early, high⟩ := shows.peaked
      exact ⟨past, log ▸ early.trans (List.prefix_append _ _), peak.trans (old.trans high)⟩
    · refine ⟨g.log, List.prefix_rfl, ?_⟩
      rw [log, grown, List.length_append, ← shows.counted]
      exact peak.trans new

theorem OpenBut.settle (shows : f.OpenBut (some who)) {p : Progress α} (closed : p.open? who = none) :
    (f.withProgress who p).OpenBut none where
  shown := by
    intro event
    change event ∈ openAfter f.log ↔ _ ∧ ∃ p', (f.programs.set who p)[event.who]? = some p' ∧ _
    rw [shows.shown]
    constructor
    · rintro ⟨skipped, p', found, opened⟩
      have differs : who ≠ event.who := fun same => skipped (congrArg some same.symm)
      refine ⟨Option.some_ne_none _, p', ?_, opened⟩
      rw [List.getElem?_set_ne differs]
      exact found
    · rintro ⟨-, p', found, opened⟩
      rcases found_set found with ⟨mine, rfl⟩ | ⟨differs, found⟩
      · rw [mine, closed] at opened
        cases opened
      · exact ⟨fun same => differs (Option.some.inj same), p', found, opened⟩
  held := shows.held
  exclusive := shows.exclusive
  counted := shows.counted
  peaked := shows.peaked

theorem OpenBut.forget (shows : f.OpenBut none) {old : Progress α}
    (found : f.programs[who]? = some old) (closed : old.open? who = none) :
    f.OpenBut (some who) where
  shown := by
    intro event
    rw [shows.shown]
    constructor
    · rintro ⟨-, p, there, opened⟩
      refine ⟨fun same => ?_, p, there, opened⟩
      rw [Option.some.inj same] at there opened
      rw [← Option.some.inj (found.symm.trans there), closed] at opened
      cases opened
    · rintro ⟨-, p, there, opened⟩
      exact ⟨Option.some_ne_none _, p, there, opened⟩
  held := shows.held
  exclusive := shows.exclusive
  counted := shows.counted
  peaked := shows.peaked

theorem OpenBut.replied (shows : f.OpenBut none) {old : Progress α} {reply : c.Reply}
    (found : f.programs[who]? = some old) (calling : old.open? who = some (.called who role c)) :
    (f.closeCall.record (.answered who role c reply)).OpenBut (some who) := by
  have now := shows.exclusive f.log List.prefix_rfl
  have shrunk : openAfter (f.log ++ [.answered who role c reply]) =
      (openAfter f.log).eraseP (·.who = who) := openAfter_append f.log _
  have there : Event.called who role c ∈ openAfter f.log :=
    (shows.shown _).mpr ⟨Option.some_ne_none _, old, found, calling⟩
  refine ⟨?_, ?_, ?_, ?_, ?_⟩
  · intro event
    change event ∈ openAfter (f.log ++ _) ↔ some event.who ≠ some who ∧ ∃ p, f.programs[event.who]? = some p ∧ _
    rw [shrunk, mem_eraseP_who now.distinct, shows.shown]
    constructor
    · rintro ⟨⟨-, opened⟩, differs⟩
      exact ⟨fun same => differs (Option.some.inj same), opened⟩
    · rintro ⟨differs, opened⟩
      exact ⟨⟨Option.some_ne_none _, opened⟩, fun same => differs (congrArg some same)⟩
  · intro event opened
    change event ∈ openAfter (f.log ++ _) at opened
    rw [shrunk] at opened
    exact shows.held event (List.mem_of_mem_eraseP opened)
  · intro past early
    change past <+: f.log ++ [_] at early
    obtain rfl | early := List.prefix_concat_iff.mp early
    · constructor
      · rw [shrunk]
        exact (List.eraseP_sublist.map Event.who).nodup now.distinct
      · intro other
        rw [shrunk]
        exact (List.eraseP_sublist.countP_le).trans (now.single other)
    · exact shows.exclusive past early
  · change f.inFlight - 1 = (openAfter (f.log ++ _)).length
    rw [shrunk, List.length_eraseP_of_mem there (by simp [Event.who]), shows.counted]
  · obtain ⟨past, early, high⟩ := shows.peaked
    exact ⟨past, early.trans (List.prefix_append _ _), high⟩

theorem OpenBut.ticked (shows : f.OpenBut none) {old p : Progress α}
    (found : f.programs[who]? = some old) (same : p.open? who = old.open? who) :
    (f.withProgress who p).OpenBut none where
  shown := by
    intro event
    have inside : who < f.programs.length := (List.getElem?_eq_some_iff.mp found).1
    change event ∈ openAfter f.log ↔ _ ∧ ∃ p', (f.programs.set who p)[event.who]? = some p' ∧ _
    rw [shows.shown]
    by_cases mine : event.who = who
    · rw [mine, List.getElem?_set_self inside, found]
      simp [same]
    · rw [List.getElem?_set_ne (Ne.symm mine)]
  held := shows.held
  exclusive := shows.exclusive
  counted := shows.counted
  peaked := shows.peaked

variable {serve : Clients σ} {duration : Nat → Nat}

theorem Carried.openBut {phase : Phase} {calls : Nat}
    (carried : Carried serve duration who phase calls f g) (shows : f.OpenBut (some who))
    (turn : f.HasTurn who phase.held) (inside : who < f.programs.length) : g.OpenBut none := by
  induction carried with
  | finish calls a f => exact shows.settle rfl
  | queue role calls next f busy kept => exact (shows.ask role who).settle rfl
  | enter role calls f g free onward ih =>
    refine ih (shows.ask role who) ?_ ?_
    · intro _ same
      cases same
      rw [lock_withLock_self, Lock.ask_holder, free]
      rfl
    · rw [withLock_programs]
      exact inside
  | leave role calls f g onward ih =>
    refine ih (shows.handOver (turn role rfl)) (hasTurn_none _ _) ?_
    rw [withLock_programs]
    exact inside
  | refused role c calls f g fault clients served onward ih =>
    rw [Phase.held_atCall] at turn
    refine ih (shows.brief turn rfl rfl rfl rfl (.inl rfl)) ?_ inside
    rw [Phase.held_afterCall]
    exact turn
  | instant role c calls f g reply clients served short onward ih =>
    rw [Phase.held_atCall] at turn
    refine ih (shows.brief turn rfl rfl rfl rfl ?_) ?_ inside
    · exact max_choice f.peak (f.inFlight + 1)
    · rw [Phase.held_afterCall]
      exact turn
  | lasting role c calls f reply next clients served long kept =>
    rw [Phase.held_atCall] at turn
    exact shows.lasting turn inside rfl rfl rfl rfl rfl rfl

theorem poll_openBut {left : Nat → Nat} (sectioned : f.SectionedBy left) (shows : f.OpenBut none)
    (who : Nat) : (poll serve duration f who).OpenBut none := by
  have polled := poll_polled serve duration sectioned who
  generalize poll serve duration f who = g at polled
  cases polled with
  | idle stuck => exact shows
  | started next g found carried =>
    exact carried.openBut (shows.forget found rfl) (hasTurn_none _ _)
      (List.getElem?_eq_some_iff.mp found).1
  | entered role next g found turn carried =>
    refine carried.openBut (shows.forget found rfl) ?_ (List.getElem?_eq_some_iff.mp found).1
    intro _ same
    cases same
    exact turn
  | ticked polls role c reply next found more => exact shows.ticked found rfl
  | replied polls role c reply next g found last carried =>
    refine carried.openBut (shows.replied found rfl) ?_ (List.getElem?_eq_some_iff.mp found).1
    rw [Phase.held_afterCall]
    have there : Event.called who role c ∈ openAfter f.log :=
      (shows.shown _).mpr ⟨Option.some_ne_none _, _, found, rfl⟩
    exact shows.held _ there

end Floor

end ContractLaunch.Session
