import ContractLaunch.Session.Basic
/-!
Programs of a session that run side by side. Each account has a lock that is handed over in the order
in which it was asked for; a client call is open from its first poll until the polls that it takes
are over. A schedule is any sequence of polls, and the round robin polls every program in order, over
and over.
-/
namespace ContractLaunch.Session

inductive Served (c : ClientCall) where
  /-- The client refuses at once; no call is made. -/
  | refused (fault : ClientFault)
  /-- The call is made, and this will be its reply. -/
  | opened (reply : c.Reply)

abbrev Clients (σ : Type) := σ → Role → (c : ClientCall) → Served c × σ

structure Lock where
  holder : Option Nat
  waiting : List Nat

def Lock.free : Lock := ⟨none, []⟩

def Lock.ask (lock : Lock) (who : Nat) : Lock :=
  if lock.holder.isNone then { lock with holder := some who }
  else { lock with waiting := lock.waiting ++ [who] }

/-- The lock after its holder gave it back: the first in the queue holds it. -/
def Lock.handOver (lock : Lock) : Lock := ⟨lock.waiting.head?, lock.waiting.tail⟩

inductive Progress (α : Type) where
  /-- It goes on when it is polled. -/
  | ready (next : Program α)
  /-- It goes on when it is polled and holds the lock. -/
  | waiting (role : Role) (next : Program α)
  /-- It goes on with the reply to its call, at the last of so many polls. -/
  | calling (polls : Nat) (role : Role) (call : ClientCall) (reply : call.Reply)
    (next : call.Reply → Program α)
  | finished (result : α)

def Progress.isFinished {α : Type} : Progress α → Bool
  | finished _ => true
  | _ => false

/-- What can be seen from outside of the calls of programs. -/
inductive Event where
  | called (who : Nat) (role : Role) (call : ClientCall)
  | answered (who : Nat) (role : Role) (call : ClientCall) (reply : call.Reply)

def Event.who : Event → Nat
  | called who .. => who
  | answered who .. => who

structure Floor (σ α : Type) where
  programs : List (Progress α)
  deployerLock : Lock
  testerLock : Lock
  clients : σ
  made : Nat
  inFlight : Nat
  peak : Nat
  /-- The calls of all programs and the replies to them, in the order of their occurrence. -/
  log : List Event

namespace Floor

variable {σ α : Type}

def start (clients : σ) (programs : List (Program α)) : Floor σ α where
  programs := programs.map .ready
  deployerLock := .free
  testerLock := .free
  clients
  made := 0
  inFlight := 0
  peak := 0
  log := []

def lock (f : Floor σ α) : Role → Lock
  | .deployer => f.deployerLock
  | .tester => f.testerLock

def withLock (f : Floor σ α) : Role → Lock → Floor σ α
  | .deployer, lock => { f with deployerLock := lock }
  | .tester, lock => { f with testerLock := lock }

def withProgress (f : Floor σ α) (who : Nat) (p : Progress α) : Floor σ α :=
  { f with programs := f.programs.set who p }

/-- Opens a call that takes more than the present poll. -/
def openCall (f : Floor σ α) : Floor σ α :=
  { f with made := f.made + 1, inFlight := f.inFlight + 1, peak := max f.peak (f.inFlight + 1) }

def closeCall (f : Floor σ α) : Floor σ α := { f with inFlight := f.inFlight - 1 }

def record (f : Floor σ α) (event : Event) : Floor σ α := { f with log := f.log ++ [event] }

/-- Carries a program on until it is finished or has to wait. The `n`-th call takes `duration n`
further polls. -/
def advance (serve : Clients σ) (duration : Nat → Nat) (who : Nat) :
    Program α → Floor σ α → Floor σ α
  | .done a, f => f.withProgress who (.finished a)
  | .ask (.acquire role) next, f =>
    let lock := f.lock role
    let f := f.withLock role (lock.ask who)
    if lock.holder.isNone then advance serve duration who (next ()) f
    else f.withProgress who (.waiting role (next ()))
  | .ask (.release role) next, f =>
    advance serve duration who (next ()) (f.withLock role (f.lock role).handOver)
  | .ask (.call role c) next, f =>
    let (served, clients) := serve f.clients role c
    let f := { f with clients }.record (.called who role c)
    match served with
    | .refused fault =>
      advance serve duration who (next (.error fault)) (f.record (.answered who role c (.error fault)))
    | .opened reply =>
      let polls := duration f.made
      let f := f.openCall
      if polls = 0 then
        advance serve duration who (next reply) (f.closeCall.record (.answered who role c reply))
      else f.withProgress who (.calling polls role c reply next)

def poll (serve : Clients σ) (duration : Nat → Nat) (f : Floor σ α) (who : Nat) : Floor σ α :=
  match f.programs[who]? with
  | some (.ready next) => advance serve duration who next f
  | some (.waiting role next) =>
    if (f.lock role).holder = some who then advance serve duration who next f else f
  | some (.calling polls role c reply next) =>
    if polls ≤ 1 then
      advance serve duration who (next reply) (f.closeCall.record (.answered who role c reply))
    else f.withProgress who (.calling (polls - 1) role c reply next)
  | some (.finished _) | none => f

def follow (serve : Clients σ) (duration : Nat → Nat) (f : Floor σ α) (schedule : List Nat) :
    Floor σ α :=
  schedule.foldl (poll serve duration) f

def round (serve : Clients σ) (duration : Nat → Nat) (f : Floor σ α) : Floor σ α :=
  follow serve duration f (List.range f.programs.length)

def isFinished (f : Floor σ α) : Bool := f.programs.all Progress.isFinished

def rounds (serve : Clients σ) (duration : Nat → Nat) : Nat → Floor σ α → Floor σ α
  | 0, f => f
  | n + 1, f => if f.isFinished then f else rounds serve duration n (f.round serve duration)

def results (f : Floor σ α) : List (Option α) :=
  f.programs.map fun
    | .finished a => some a
    | _ => none

end Floor

/-- The number of rounds after which programs that make at most `calls` calls in all are finished:
in every round at least one program starts, goes on with a call, or gets a lock. -/
def roundsNeeded (programs calls : Nat) (duration : Nat → Nat) : Nat :=
  (List.range calls).foldl (fun total n => total + (duration n + 2)) (programs + 1)

/-- Runs programs side by side in round robin; together they make at most `calls` calls. -/
def sideBySide {σ α : Type} (serve : Clients σ) (duration : Nat → Nat) (clients : σ)
    (programs : List (Program α)) (calls : Nat) : Floor σ α :=
  (Floor.start clients programs).rounds serve duration
    (roundsNeeded programs.length calls duration)

/-- Runs one program alone: its result and the state of the clients afterwards. With nobody else
there, locks are free whenever they are asked for. -/
def alone {σ α : Type} (serve : Clients σ) : Program α → σ → α × σ
  | .done a, clients => (a, clients)
  | .ask (.acquire _) next, clients => alone serve (next ()) clients
  | .ask (.release _) next, clients => alone serve (next ()) clients
  | .ask (.call role c) next, clients =>
    match serve clients role c with
    | (.refused fault, clients) => alone serve (next (.error fault)) clients
    | (.opened reply, clients) => alone serve (next reply) clients

end ContractLaunch.Session
