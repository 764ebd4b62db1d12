import ContractLaunch.Proofs.Transcript
import ContractLaunch.Session.Interleaving
/-!
The log of programs that run side by side. Whatever the schedule, the part of the log that belongs to
one program is the log of a run of that program alone, up to where it has come.
-/
namespace ContractLaunch.Session

open Dialogue

def own (who : Nat) (log : List Event) : List Event := log.filter (·.who = who)

def eventsOf (who : Nat) : List (Exchange Act Act.Reply) → List Event
  | [] => []
  | ⟨.call role c, reply⟩ :: rest => .called who role c :: .answered who role c reply :: eventsOf who rest
  | ⟨.acquire _, _⟩ :: rest | ⟨.release _, _⟩ :: rest => eventsOf who rest

/-- A program has come from its start to its progress with these events. -/
inductive Tracked {α : Type} (who : Nat) (start : Program α) : Progress α → List Event → Prop
  | ready (made next) (reached : Reached start made next) :
      Tracked who start (.ready next) (eventsOf who made)
  | waiting (made role next) (reached : Reached start made next) :
      Tracked who start (.waiting role next) (eventsOf who made)
  | calling (made polls role c reply next) (reached : Reached start made (.ask (.call role c) next)) :
      Tracked who start (.calling polls role c reply next) (eventsOf who made ++ [.called who role c])
  | finished (made a) (reached : Reached start made (.done a)) :
      Tracked who start (.finished a) (eventsOf who made)

/-- A program has come to a point with the events that belong to it in a log. -/
def Arrived {α : Type} (who : Nat) (start next : Program α) (log : List Event) : Prop :=
  ∃ made, Reached start made next ∧ own who log = eventsOf who made

def Calling {α : Type} (who : Nat) (start : Program α) (role : Role) (c : ClientCall)
    (next : c.Reply → Program α) (log : List Event) : Prop :=
  ∃ made, Reached start made (.ask (.call role c) next) ∧
    own who log = eventsOf who made ++ [.called who role c]

variable {σ α : Type}

theorem eventsOf_append (who : Nat) (first second : List (Exchange Act Act.Reply)) :
    eventsOf who (first ++ second) = eventsOf who first ++ eventsOf who second := by
  induction first with
  | nil => rfl
  | cons x rest ih =>
    obtain ⟨_ | _ | ⟨role, c⟩, reply⟩ := x
    · exact ih
    · exact ih
    · change _ :: _ :: eventsOf who (rest ++ second) = _
      rw [ih]
      rfl

theorem own_append (who : Nat) (log : List Event) (event : Event) :
    own who (log ++ [event]) = own who log ++ if event.who = who then [event] else [] := by
  unfold own
  rw [List.filter_append]
  by_cases mine : event.who = who
  · simp [mine]
  · simp [mine]

theorem mem_own {who : Nat} {log : List Event} {event : Event} :
    event ∈ own who log ↔ event ∈ log ∧ event.who = who := by
  simp [own]

/-- What comes after an event among the events of its program comes after it in the log. -/
theorem own_split {who : Nat} {log early late : List Event} {event : Event}
    (split : own who log = early ++ event :: late) :
    ∃ before after, log = before ++ event :: after ∧ ∀ later ∈ late, later ∈ after := by
  obtain ⟨first, second, rfl, -, rest⟩ := List.filter_eq_append_iff.mp split
  obtain ⟨others, after, rfl, -, -, same⟩ := List.filter_eq_cons_iff.mp rest
  refine ⟨first ++ others, after, (List.append_assoc ..).symm, ?_⟩
  intro later inside
  rw [← same] at inside
  exact (List.mem_filter.mp inside).1

section Steps

variable {who : Nat} {start : Program α} {role : Role} {c : ClientCall} {log : List Event}

theorem Arrived.acquired {resume : Unit → Program α}
    (arrived : Arrived who start (.ask (.acquire role) resume) log) :
    Arrived who start (resume ()) log := by
  obtain ⟨made, reached, same⟩ := arrived
  refine ⟨_, reached.answer (), ?_⟩
  rw [same, eventsOf_append]
  exact (List.append_nil _).symm

theorem Arrived.released {resume : Unit → Program α}
    (arrived : Arrived who start (.ask (.release role) resume) log) :
    Arrived who start (resume ()) log := by
  obtain ⟨made, reached, same⟩ := arrived
  refine ⟨_, reached.answer (), ?_⟩
  rw [same, eventsOf_append]
  exact (List.append_nil _).symm

theorem Arrived.called {next : c.Reply → Program α}
    (arrived : Arrived who start (.ask (.call role c) next) log) :
    Calling who start role c next (log ++ [.called who role c]) := by
  obtain ⟨made, reached, same⟩ := arrived
  refine ⟨made, reached, ?_⟩
  rw [own_append, same]
  exact congrArg _ (if_pos rfl)

theorem Calling.answered {next : c.Reply → Program α}
    (calling : Calling who start role c next log) (reply : c.Reply) :
    Arrived who start (next reply) (log ++ [.answered who role c reply]) := by
  obtain ⟨made, reached, same⟩ := calling
  refine ⟨_, reached.answer reply, ?_⟩
  rw [own_append, same, eventsOf_append, List.append_assoc]
  exact congrArg (eventsOf who made ++ ·) (congrArg (_ :: ·) (if_pos rfl))

theorem Arrived.tracked_waiting {next : Program α} (arrived : Arrived who start next log) :
    Tracked who start (.waiting role next) (own who log) := by
  obtain ⟨made, reached, same⟩ := arrived
  rw [same]
  exact .waiting made role next reached

theorem Arrived.tracked_finished {a : α} (arrived : Arrived who start (.done a) log) :
    Tracked who start (.finished a) (own who log) := by
  obtain ⟨made, reached, same⟩ := arrived
  rw [same]
  exact .finished made a reached

theorem Calling.tracked {next : c.Reply → Program α} (calling : Calling who start role c next log)
    (polls : Nat) (reply : c.Reply) :
    Tracked who start (.calling polls role c reply next) (own who log) := by
  obtain ⟨made, reached, same⟩ := calling
  rw [same]
  exact .calling made polls role c reply next reached

end Steps

namespace Floor

structure TrackedBut (starts : List (Program α)) (f : Floor σ α) (skipped : Option Nat) : Prop where
  length : f.programs.length = starts.length
  known : ∀ event ∈ f.log, event.who < starts.length
  tracked : ∀ (who : Nat) start, starts[who]? = some start → some who ≠ skipped →
    ∃ p, f.programs[who]? = some p ∧ Tracked who start p (own who f.log)

variable {starts : List (Program α)} {f : Floor σ α} {who : Nat}

theorem start_tracked (clients : σ) : (start clients starts).TrackedBut starts none where
  length := List.length_map _
  known := by
    intro event inside
    cases inside
  tracked := by
    intro who start found _
    refine ⟨.ready start, ?_, .ready [] start (.start start)⟩
    change (starts.map Progress.ready)[who]? = _
    rw [List.getElem?_map, found, Option.map_some]

@[simp] theorem withLock_programs (role : Role) (lock : Lock) :
    (f.withLock role lock).programs = f.programs := by
  cases role <;> rfl

@[simp] theorem withLock_log (role : Role) (lock : Lock) : (f.withLock role lock).log = f.log := by
  cases role <;> rfl

theorem TrackedBut.congr {g : Floor σ α} {skipped : Option Nat} (tracked : f.TrackedBut starts skipped)
    (programs : g.programs = f.programs) (log : g.log = f.log) : g.TrackedBut starts skipped where
  length := programs ▸ tracked.length
  known := log ▸ tracked.known
  tracked := by
    rw [programs, log]
    exact tracked.tracked

theorem TrackedBut.openCall {skipped : Option Nat} (tracked : f.TrackedBut starts skipped) :
    f.openCall.TrackedBut starts skipped := tracked.congr rfl rfl

theorem TrackedBut.closeCall {skipped : Option Nat} (tracked : f.TrackedBut starts skipped) :
    f.closeCall.TrackedBut starts skipped := tracked.congr rfl rfl

theorem TrackedBut.forget (tracked : f.TrackedBut starts none) (who : Nat) :
    f.TrackedBut starts (some who) :=
  ⟨tracked.length, tracked.known, fun other start found _ => tracked.tracked other start found (Option.some_ne_none other)⟩

theorem TrackedBut.record (tracked : f.TrackedBut starts (some who)) (event : Event)
    (mine : event.who = who) (known : who < starts.length) :
    (f.record event).TrackedBut starts (some who) where
  length := tracked.length
  known := by
    intro other inside
    rcases List.mem_append.mp inside with early | last
    · exact tracked.known other early
    · rw [List.mem_singleton.mp last, mine]
      exact known
  tracked := by
    intro other start found skipped
    obtain ⟨p, progress, steps⟩ := tracked.tracked other start found skipped
    refine ⟨p, progress, ?_⟩
    have theirs : event.who ≠ other := by
      intro same
      subst same
      exact skipped (congrArg some mine)
    change Tracked other start p (own other (f.log ++ [event]))
    rw [own_append, if_neg theirs, List.append_nil]
    exact steps

theorem TrackedBut.settle (tracked : f.TrackedBut starts (some who)) {start : Program α}
    (found : starts[who]? = some start) {p : Progress α} (steps : Tracked who start p (own who f.log)) :
    (f.withProgress who p).TrackedBut starts none where
  length := (List.length_set ..).trans tracked.length
  known := tracked.known
  tracked := by
    intro other start' found' _
    change ∃ p', (f.programs.set who p)[other]? = some p' ∧ Tracked other start' p' (own other f.log)
    by_cases same : who = other
    · subst same
      obtain rfl := Option.some.inj (found.symm.trans found')
      refine ⟨p, ?_, steps⟩
      have inside : who < f.programs.length := by
        rw [tracked.length]
        exact (List.getElem?_eq_some_iff.mp found).1
      rw [List.getElem?_set_self inside]
    · rw [List.getElem?_set_ne same]
      exact tracked.tracked other start' found' fun equal => same (Option.some.inj equal).symm

theorem advance_tracked (serve : Clients σ) (duration : Nat → Nat) {start : Program α}
    (found : starts[who]? = some start) (next : Program α) (arrived : Arrived who start next f.log)
    (tracked : f.TrackedBut starts (some who)) :
    (advance serve duration who next f).TrackedBut starts none := by
  have known : who < starts.length := (List.getElem?_eq_some_iff.mp found).1
  induction next generalizing f with
  | done a => exact tracked.settle found arrived.tracked_finished
  | ask act resume ih =>
    cases act with
    | acquire role =>
      have kept := tracked.congr (withLock_programs role ((f.lock role).ask who))
        (withLock_log role ((f.lock role).ask who))
      have onward := arrived.acquired
      rw [← withLock_log role ((f.lock role).ask who)] at onward
      rw [advance]
      split
      · exact ih () onward kept
      · exact kept.settle found onward.tracked_waiting
    | release role =>
      have onward := arrived.released
      rw [← withLock_log role (f.lock role).handOver] at onward
      exact ih () onward (tracked.congr (withLock_programs role _) (withLock_log role _))
    | call role c =>
      rw [advance]
      obtain ⟨outcome, clients⟩ := serve f.clients role c
      have calling := arrived.called
      have served : TrackedBut starts { f with clients } (some who) := tracked.congr rfl rfl
      have opened := served.record (.called who role c) rfl known
      cases outcome with
      | refused fault => exact ih _ (calling.answered _) (opened.record _ rfl known)
      | opened reply =>
        dsimp only
        split
        · exact ih _ (calling.answered reply) (opened.openCall.closeCall.record _ rfl known)
        · exact opened.openCall.settle found (calling.tracked _ reply)

theorem poll_tracked (serve : Clients σ) (duration : Nat → Nat) (tracked : f.TrackedBut starts none)
    (who : Nat) : (poll serve duration f who).TrackedBut starts none := by
  unfold poll
  cases progress : f.programs[who]? with
  | none => exact tracked
  | some p =>
    have inside : who < starts.length := by
      rw [← tracked.length]
      exact (List.getElem?_eq_some_iff.mp progress).1
    have found : starts[who]? = some starts[who] := List.getElem?_eq_getElem inside
    obtain ⟨p', progress', steps⟩ := tracked.tracked who _ found (Option.some_ne_none who)
    obtain rfl := Option.some.inj (progress.symm.trans progress')
    generalize same : own who f.log = events at steps
    cases steps with
    | ready made next reached =>
      exact advance_tracked serve duration found next ⟨made, reached, same⟩ (tracked.forget who)
    | waiting made role next reached =>
      dsimp only
      split
      · exact advance_tracked serve duration found next ⟨made, reached, same⟩ (tracked.forget who)
      · exact tracked
    | calling made polls role c reply next reached =>
      have calling : Calling who starts[who] role c next f.log := ⟨made, reached, same⟩
      dsimp only
      split
      · exact advance_tracked serve duration found _ (calling.answered reply)
          ((tracked.forget who).closeCall.record _ rfl inside)
      · exact (tracked.forget who).settle found (calling.tracked _ reply)
    | finished made a reached => exact tracked

theorem follow_tracked (serve : Clients σ) (duration : Nat → Nat) (tracked : f.TrackedBut starts none)
    (schedule : List Nat) : (follow serve duration f schedule).TrackedBut starts none := by
  induction schedule generalizing f with
  | nil => exact tracked
  | cons who rest ih => exact ih (poll_tracked serve duration tracked who)

end Floor

end ContractLaunch.Session
