import ContractLaunch.Proofs.Session.Polls
/-!
The ledger of a run. Serving the calls of a log one after another, once each, gives the ledger: every
call with its program and with what the clients made of it. The clients are in the state in which this
leaves them, and a program's part of the log is its part of the ledger, but for an answer that it
still waits for.
-/
namespace ContractLaunch.Session

open Dialogue

/-- A call of a program, and what the clients made of it. -/
structure Entry where
  who : Nat
  role : Role
  call : ClientCall
  served : Served call

def Served.reply {c : ClientCall} : Served c → c.Reply
  | refused fault => .error fault
  | opened reply => reply

namespace Entry

def isMade (entry : Entry) : Bool :=
  match entry.served with
  | .refused _ => false
  | .opened _ => true

def events (entry : Entry) : List Event :=
  [.called entry.who entry.role entry.call,
    .answered entry.who entry.role entry.call entry.served.reply]

end Entry

variable {σ α : Type}

def enter (serve : Clients σ) (book : σ × List Entry) : Event → σ × List Entry
  | .called who role c =>
    let (served, clients) := serve book.1 role c
    (clients, book.2 ++ [⟨who, role, c, served⟩])
  | .answered .. => book

/-- The clients after the calls of a log, and the calls with what the clients made of them. -/
def ledger (serve : Clients σ) (clients : σ) (log : List Event) : σ × List Entry :=
  log.foldl (enter serve) (clients, [])

def entriesOf (who : Nat) (entries : List Entry) : List Entry := entries.filter (·.who = who)

def Progress.due {α : Type} (who : Nat) : Progress α → List Event
  | .calling _ role c reply _ => [.answered who role c reply]
  | .ready _ | .waiting .. | .finished _ => []

theorem ledger_append (serve : Clients σ) (clients : σ) (log : List Event) (event : Event) :
    ledger serve clients (log ++ [event]) = enter serve (ledger serve clients log) event := by
  unfold ledger
  rw [List.foldl_append]
  rfl

/-- Who hands which call to the clients. -/
def Event.handed? : Event → Option (Nat × Role × ClientCall)
  | .called who role c => some (who, role, c)
  | .answered .. => none

def Entry.handed (entry : Entry) : Nat × Role × ClientCall := (entry.who, entry.role, entry.call)

theorem ledger_handed (serve : Clients σ) (clients : σ) (log : List Event) :
    (ledger serve clients log).2.map Entry.handed = log.filterMap Event.handed? := by
  induction log using List.reverseRecOn with
  | nil => rfl
  | append_singleton log event ih =>
    rw [ledger_append, List.filterMap_append, ← ih]
    cases event with
    | called who role c =>
      unfold enter
      exact List.map_append
    | answered who role c reply => exact (List.append_nil _).symm

theorem called_of_mem_ledger {serve : Clients σ} {clients : σ} {log : List Event} {entry : Entry}
    (inside : entry ∈ (ledger serve clients log).2) :
    .called entry.who entry.role entry.call ∈ log := by
  have handed := List.mem_map_of_mem (f := Entry.handed) inside
  rw [ledger_handed] at handed
  obtain ⟨event, there, same⟩ := List.mem_filterMap.mp handed
  cases event with
  | called who role c =>
    cases same
    exact there
  | answered who role c reply => cases same

theorem entriesOf_append (who : Nat) (entries : List Entry) (entry : Entry) :
    entriesOf who (entries ++ [entry]) =
      entriesOf who entries ++ if entry.who = who then [entry] else [] := by
  unfold entriesOf
  rw [List.filter_append]
  by_cases mine : entry.who = who
  · simp [mine]
  · simp [mine]

namespace Floor

/-- The ledger agrees with a floor, where one program is being carried on or none. -/
structure Ledgered (serve : Clients σ) (first : σ) (f : Floor σ α) (skipped : Option Nat) : Prop where
  clients : (ledger serve first f.log).1 = f.clients
  made : f.made = (ledger serve first f.log).2.countP Entry.isMade
  shown : ∀ (who : Nat) p, f.programs[who]? = some p → some who ≠ skipped →
    own who f.log ++ p.due who = (entriesOf who (ledger serve first f.log).2).flatMap Entry.events
  carried : ∀ who, skipped = some who →
    own who f.log = (entriesOf who (ledger serve first f.log).2).flatMap Entry.events

variable {serve : Clients σ} {duration : Nat → Nat} {first : σ} {f g : Floor σ α} {who : Nat} {role : Role}
  {c : ClientCall}

theorem Ledgered.start (serve : Clients σ) (clients : σ) (starts : List (Program α)) :
    (start clients starts).Ledgered serve clients none where
  clients := rfl
  made := rfl
  shown := by
    intro who p found _
    change (starts.map Progress.ready)[who]? = some p at found
    rw [List.getElem?_map] at found
    obtain ⟨program, -, rfl⟩ := Option.map_eq_some_iff.mp found
    rfl
  carried := nofun

theorem Ledgered.congr {skipped : Option Nat} (ledgered : f.Ledgered serve first skipped)
    (programs : g.programs = f.programs) (log : g.log = f.log) (clients : g.clients = f.clients)
    (made : g.made = f.made) : g.Ledgered serve first skipped where
  clients := log ▸ clients ▸ ledgered.clients
  made := log ▸ made ▸ ledgered.made
  shown := log ▸ programs ▸ ledgered.shown
  carried := log ▸ ledgered.carried

theorem Ledgered.relock {skipped : Option Nat} (ledgered : f.Ledgered serve first skipped) (role : Role)
    (lock : Lock) : (f.withLock role lock).Ledgered serve first skipped :=
  ledgered.congr (withLock_programs role lock) (withLock_log role lock) (by cases role <;> rfl)
    (by cases role <;> rfl)

theorem Ledgered.settle (ledgered : f.Ledgered serve first (some who)) {p : Progress α}
    (quiet : p.due who = []) : (f.withProgress who p).Ledgered serve first none where
  clients := ledgered.clients
  made := ledgered.made
  shown := by
    intro other p' found _
    change own other f.log ++ _ = (entriesOf other (ledger serve first f.log).2).flatMap _
    rcases found_set found with ⟨rfl, rfl⟩ | ⟨differs, found⟩
    · rw [quiet, List.append_nil]
      exact ledgered.carried other rfl
    · exact ledgered.shown other p' found fun equal => differs (Option.some.inj equal)
  carried := nofun

theorem Ledgered.handed (ledgered : f.Ledgered serve first (some who)) {served : Served c} {clients : σ}
    (answer : serve f.clients role c = (served, clients)) :
    ledger serve first (f.log ++ [.called who role c]) =
      (clients, (ledger serve first f.log).2 ++ [⟨who, role, c, served⟩]) := by
  rw [ledger_append, enter, ledgered.clients, answer]

/-- What a call of one program adds to the log and to the ledger is nothing to the others. -/
theorem entriesOf_other {other : Nat} (differs : who ≠ other) (entries : List Entry)
    (served : Served c) : entriesOf other (entries ++ [⟨who, role, c, served⟩]) = entriesOf other entries := by
  rw [entriesOf_append, if_neg differs, List.append_nil]

theorem own_mine (who : Nat) {log : List Event} (event : Event) (mine : event.who = who) :
    own who (log ++ [event]) = own who log ++ [event] := by
  rw [own_append, if_pos mine]

theorem own_other {other : Nat} {log : List Event} (event : Event) (differs : event.who ≠ other) :
    own other (log ++ [event]) = own other log := by
  rw [own_append, if_neg differs, List.append_nil]

theorem Ledgered.brief (ledgered : f.Ledgered serve first (some who)) {served : Served c}
    (answer : serve f.clients role c = (served, g.clients)) (programs : g.programs = f.programs)
    (log : g.log = f.log ++ [.called who role c] ++ [.answered who role c served.reply])
    (made : g.made = f.made + if Entry.isMade ⟨who, role, c, served⟩ then 1 else 0) :
    g.Ledgered serve first (some who) := by
  have entered : ledger serve first g.log =
      (g.clients, (ledger serve first f.log).2 ++ [⟨who, role, c, served⟩]) := by
    rw [log, ledger_append, ledgered.handed answer]
    rfl
  refine ⟨?_, ?_, ?_, ?_⟩
  · rw [entered]
  · rw [entered, List.countP_append, List.countP_singleton, ← ledgered.made]
    exact made
  · intro other p found skipped
    have differs : who ≠ other := fun same => skipped (congrArg some same.symm)
    rw [programs] at found
    rw [entered, log, own_other (.answered who role c _) differs,
      own_other (.called who role c) differs, entriesOf_other differs]
    exact ledgered.shown other p found skipped
  · intro other same
    obtain rfl := Option.some.inj same
    rw [entered, log, own_mine who (.answered who role c _) rfl, own_mine who (.called who role c) rfl,
      ledgered.carried who rfl, entriesOf_append, if_pos rfl, List.flatMap_append, List.append_assoc]
    rfl

theorem Ledgered.lasting (ledgered : f.Ledgered serve first (some who)) {reply : c.Reply}
    (answer : serve f.clients role c = (.opened reply, g.clients)) {p : Progress α}
    (due : p.due who = [.answered who role c reply]) (programs : g.programs = f.programs.set who p)
    (log : g.log = f.log ++ [.called who role c]) (made : g.made = f.made + 1) :
    g.Ledgered serve first none := by
  have entered := ledgered.handed answer
  rw [← log] at entered
  refine ⟨?_, ?_, ?_, nofun⟩
  · rw [entered]
  · rw [entered, List.countP_append, List.countP_singleton, ← ledgered.made]
    exact made
  · intro other p' found _
    rw [programs] at found
    rw [entered, log]
    rcases found_set found with ⟨rfl, rfl⟩ | ⟨differs, found⟩
    · rw [due, own_mine other (.called other role c) rfl, ledgered.carried other rfl, entriesOf_append,
        if_pos rfl, List.flatMap_append, List.append_assoc]
      rfl
    · rw [own_other (.called who role c) differs.symm, entriesOf_other differs.symm]
      exact ledgered.shown other p' found fun equal => differs (Option.some.inj equal)

theorem Ledgered.forget (ledgered : f.Ledgered serve first none) {p : Progress α}
    (found : f.programs[who]? = some p) (quiet : p.due who = []) :
    f.Ledgered serve first (some who) where
  clients := ledgered.clients
  made := ledgered.made
  shown := fun other p there _ => ledgered.shown other p there (Option.some_ne_none other)
  carried := by
    intro other same
    obtain rfl := Option.some.inj same
    have shown := ledgered.shown who p found (Option.some_ne_none who)
    rwa [quiet, List.append_nil] at shown

theorem Ledgered.replied (ledgered : f.Ledgered serve first none) {p : Progress α}
    (found : f.programs[who]? = some p) {reply : c.Reply} (due : p.due who = [.answered who role c reply]) :
    (f.closeCall.record (.answered who role c reply)).Ledgered serve first (some who) := by
  have same : ledger serve first (f.log ++ [.answered who role c reply]) = ledger serve first f.log :=
    ledger_append serve first f.log _
  refine ⟨?_, ?_, ?_, ?_⟩
  · change (ledger serve first (f.log ++ _)).1 = f.clients
    rw [same]
    exact ledgered.clients
  · change f.made = (ledger serve first (f.log ++ _)).2.countP _
    rw [same]
    exact ledgered.made
  · intro other p' there skipped
    have differs : who ≠ other := fun equal => skipped (congrArg some equal.symm)
    change own other (f.log ++ _) ++ _ = (entriesOf other (ledger serve first (f.log ++ _)).2).flatMap _
    rw [same, own_other (.answered who role c reply) differs]
    exact ledgered.shown other p' there (Option.some_ne_none other)
  · intro other equal
    obtain rfl := Option.some.inj equal
    change own who (f.log ++ _) = (entriesOf who (ledger serve first (f.log ++ _)).2).flatMap _
    rw [same, own_mine who (.answered who role c reply) rfl,
      ← ledgered.shown who p found (Option.some_ne_none who), due]

theorem Ledgered.ticked (ledgered : f.Ledgered serve first none) {old p : Progress α}
    (found : f.programs[who]? = some old) (same : p.due who = old.due who) :
    (f.withProgress who p).Ledgered serve first none where
  clients := ledgered.clients
  made := ledgered.made
  shown := by
    intro other p' there _
    change own other f.log ++ _ = _
    rcases found_set there with ⟨rfl, rfl⟩ | ⟨-, there⟩
    · rw [same]
      exact ledgered.shown other old found (Option.some_ne_none other)
    · exact ledgered.shown other p' there (Option.some_ne_none other)
  carried := nofun

theorem Carried.ledgered {phase : Phase} {calls : Nat}
    (carried : Carried serve duration who phase calls f g)
    (ledgered : f.Ledgered serve first (some who)) : g.Ledgered serve first none := by
  induction carried with
  | finish calls a f => exact ledgered.settle rfl
  | queue role calls next f busy kept => exact (ledgered.relock role _).settle rfl
  | enter role calls f g free onward ih => exact ih (ledgered.relock role _)
  | leave role calls f g onward ih => exact ih (ledgered.relock role _)
  | refused role c calls f g fault clients served onward ih => exact ih (ledgered.brief served rfl rfl rfl)
  | instant role c calls f g reply clients served short onward ih =>
    exact ih (ledgered.brief served rfl rfl rfl)
  | lasting role c calls f reply next clients served long kept =>
    exact ledgered.lasting served rfl rfl rfl rfl

theorem poll_ledgered {left : Nat → Nat} (sectioned : f.SectionedBy left)
    (ledgered : f.Ledgered serve first none) (who : Nat) :
    (poll serve duration f who).Ledgered serve first none := by
  have polled := poll_polled serve duration sectioned who
  generalize poll serve duration f who = g at polled
  cases polled with
  | idle stuck => exact ledgered
  | started next g found carried => exact carried.ledgered (ledgered.forget found rfl)
  | entered role next g found turn carried => exact carried.ledgered (ledgered.forget found rfl)
  | ticked polls role c reply next found more => exact ledgered.ticked found rfl
  | replied polls role c reply next g found last carried =>
    exact carried.ledgered (ledgered.replied found rfl)

end Floor

end ContractLaunch.Session
