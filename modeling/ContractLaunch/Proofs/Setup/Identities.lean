import ContractLaunch.Proofs.Daemon.Confirmation
import ContractLaunch.Proofs.Setup.Secrecy
import ContractLaunch.Proofs.Setup.Signers
import ContractLaunch.Proofs.Text.Lines
import ContractLaunch.Proofs.Text.Search
import Mathlib
/-!
How a session is established, whatever the daemon answers. A few items have to be passed one after the
other; the first that fails is the fault, and with it the commands end. What is answered when an old key
is deleted is never among them.
-/
namespace ContractLaunch

open Dialogue NodeClient

namespace Configuration

def mnemonic? (c : Configuration) : Role → Option Mnemonic
  | .deployer => c.deployerMnemonic
  | .tester => c.testerMnemonic

def words (c : Configuration) (role : Role) : String := ((c.mnemonic? role).map (·.words)).getD ""

end Configuration

namespace Keyring

inductive Useless (command : String) : Outcome → ClientFault → Prop
  | failed (status : Nat) (output complaints : Bytes) :
      Useless command (.exited (status + 1) output complaints)
        (.signature (Outcome.failureText output complaints))
  | notText (output complaints : Bytes) (undecoded : Utf8.decode? output = none) :
      Useless command (.exited 0 output complaints) (.transport (CommandFault.notText command).message)
  | notStarted (reason : String) :
      Useless command (.notStarted reason) (.transport (CommandFault.notStarted command reason).message)

/-- What the daemon answers when keys are added and addresses shown. -/
structure Answers where
  addition : Role → Outcome
  showing : Role → Outcome

/-- The number of the answer to the first command for the key of an account, which deletes the old one. -/
def deletion : Role → Nat
  | .deployer => 0
  | .tester => 3

/-- What a daemon that gives these answers one after the other says of keys, deletions left out. -/
def Answers.ofStream (answers : Nat → Outcome) : Answers where
  addition role := answers (deletion role + 1)
  showing role := answers (deletion role + 2)

/-- An address is what the daemon shows without the blanks around it, if it has the prefix. -/
structure Shows (addressPrefix shown address : String) : Prop where
  trims : Text.Trims shown.toList address.toList
  prefixed : addressPrefix.toList ++ ['1'] <+: address.toList

variable {d : Daemon} {role : Role} {answers : Nat → Outcome} {past : List CommandExchange} {n : Nat}
  {command words addressPrefix shown address text : String} {answer : Outcome} {cause other : ClientFault}
  {account : Account}

theorem Useless.unread (useless : Useless command answer cause) :
    ∃ failure, answer.read command = .error failure ∧ fault failure = cause := by
  cases useless with
  | failed status output complaints => exact ⟨.failed command (status + 1) _, by simp [Outcome.read], rfl⟩
  | notText output complaints undecoded => exact ⟨.notText command, by simp [Outcome.read, undecoded], rfl⟩
  | notStarted reason => exact ⟨.notStarted command reason, rfl, rfl⟩

theorem Useless.unique (useless : Useless command answer cause) (also : Useless command answer other) :
    cause = other := by
  obtain ⟨failure, unread, rfl⟩ := useless.unread
  obtain ⟨failure', unread', rfl⟩ := also.unread
  rw [Except.error.inj (unread.symm.trans unread')]

theorem Useless.unprinted (useless : Useless command answer cause) : answer.printed? ≠ some text := by
  obtain ⟨failure, unread, -⟩ := useless.unread
  intro printed
  have read : answer.read command = .ok text := Outcome.read_ok_iff.mpr printed
  cases unread.symm.trans read

end Keyring

inductive SessionItem where
  | mnemonic (role : Role)
  | addition (role : Role)
  | showing (role : Role)
  | address (role : Role)
  | price

namespace SessionItem

open Keyring

def ofKey (role : Role) : List SessionItem := [.addition role, .showing role, .address role]

def ofAccount (role : Role) : List SessionItem := .mnemonic role :: ofKey role

def inOrder : List SessionItem := ofAccount .deployer ++ (ofAccount .tester ++ [.price])

def commands (d : Daemon) (c : Configuration) : SessionItem → List Invocation
  | .addition role => [deleteCommand d role, addCommand d role (c.words role)]
  | .showing role => [showCommand d role]
  | _ => []

/-- When an item fails, and what the fault is then, for a daemon that gives these answers. -/
inductive Fails (d : Daemon) (c : Configuration) (answers : Answers) :
    SessionItem → DeployFault → Prop
  | mnemonic (role : Role) (unknown : c.mnemonic? role = none) :
      Fails d c answers (.mnemonic role)
        (.config (role.name ++ " mnemonic missing: set " ++ Mnemonic.variableOf role))
  | addition (role : Role) (cause : ClientFault)
      (useless : Useless (addCommand d role (c.words role)).description
        ((addCommand d role (c.words role)).outcome (answers.addition role)) cause) :
      Fails d c answers (.addition role) (.identity role cause)
  | showing (role : Role) (cause : ClientFault)
      (useless : Useless (showCommand d role).description
        ((showCommand d role).outcome (answers.showing role)) cause) :
      Fails d c answers (.showing role) (.identity role cause)
  | address (role : Role) (shown address : String)
      (printed : ((showCommand d role).outcome (answers.showing role)).printed? = some shown)
      (trims : Text.Trims shown.toList address.toList)
      (foreign : ¬ c.settings.addressPrefix.toList ++ ['1'] <+: address.toList) :
      Fails d c answers (.address role) (.identity role (.signature ("derived address " ++
        CommandFault.quote address ++ " does not use prefix " ++
        CommandFault.quote c.settings.addressPrefix)))
  | price (cause : FeeFault)
      (unparsed : GasPrice.parse (Text.trimmed c.settings.gasPrice ++ c.settings.nativeDenom) =
        .error cause) :
      Fails d c answers .price (.config ("gas_price: " ++ cause.message))

def Passes (d : Daemon) (c : Configuration) (answers : Answers) (item : SessionItem) : Prop :=
  ∀ fault, ¬ item.Fails d c answers fault

/-- The key of an account can be had, and this is the account. -/
structure Keyed (d : Daemon) (c : Configuration) (answers : Answers) (role : Role)
    (account : Account) : Prop where
  added : ∃ text, ((addCommand d role (c.words role)).outcome (answers.addition role)).printed? =
    some text
  shown : ∃ shown,
    ((showCommand d role).outcome (answers.showing role)).printed? = some shown ∧
      Shows c.settings.addressPrefix shown account.address
  role_eq : account.role = role
  key_eq : account.key = ⟨"cwdeploy-" ++ role.name⟩

/-- All that a session takes is there, and this is the session. -/
structure Founded (d : Daemon) (c : Configuration) (answers : Answers) (s : Session) : Prop where
  known : ∀ role, c.mnemonic? role ≠ none
  keyed : ∀ role, Keyed d c answers role (s.account role)
  made : ∃ price,
    GasPrice.parse (Text.trimmed c.settings.gasPrice ++ c.settings.nativeDenom) = .ok price ∧
      s = { Session.start s.deployer s.tester price with
        nativeDenom := c.settings.nativeDenom
        label := c.settings.label }

/-- The items that are tried, up to the first that fails, and its fault. -/
inductive Stops (d : Daemon) (c : Configuration) (answers : Answers) :
    (items tried : List SessionItem) → DeployFault → Prop
  | here (item : SessionItem) (rest : List SessionItem) (fault : DeployFault)
      (fails : item.Fails d c answers fault) : Stops d c answers (item :: rest) [item] fault
  | later (item : SessionItem) (rest tried : List SessionItem) (fault : DeployFault)
      (passes : item.Passes d c answers) (onward : Stops d c answers rest tried fault) :
      Stops d c answers (item :: rest) (item :: tried) fault

variable {d : Daemon} {c : Configuration} {answers : Answers} {item : SessionItem}
  {items before after tried tried' : List SessionItem} {fault fault' : DeployFault} {role : Role}
  {account account' : Account}

theorem Fails.unique (fails : item.Fails d c answers fault) (also : item.Fails d c answers fault') :
    fault = fault' := by
  cases fails with
  | mnemonic => cases also; rfl
  | addition role cause useless =>
    cases also with
    | addition _ _ useless' => rw [useless.unique useless']
  | showing role cause useless =>
    cases also with
    | showing _ _ useless' => rw [useless.unique useless']
  | address role shown address printed trims =>
    cases also with
    | address _ _ _ printed' trims' =>
      obtain rfl := Option.some.inj (printed.symm.trans printed')
      rw [← Text.trimmed_eq_iff.mpr trims, ← Text.trimmed_eq_iff.mpr trims']
  | price cause unparsed =>
    cases also with
    | price _ unparsed' => rw [Except.error.inj (unparsed.symm.trans unparsed')]

theorem Stops.unique (stops : Stops d c answers items tried fault)
    (also : Stops d c answers items tried' fault') : tried = tried' ∧ fault = fault' := by
  induction stops generalizing tried' with
  | here item rest fault fails =>
    cases also with
    | here _ _ _ fails' => exact ⟨rfl, fails.unique fails'⟩
    | later _ _ _ _ passes => exact absurd fails (passes _)
  | later item rest tried fault passes onward ih =>
    cases also with
    | here _ _ _ fails => exact absurd fails (passes _)
    | later _ _ _ _ _ onward' =>
      obtain ⟨rfl, rfl⟩ := ih onward'
      exact ⟨rfl, rfl⟩

theorem Stops.append (stops : Stops d c answers items tried fault) (after : List SessionItem) :
    Stops d c answers (items ++ after) tried fault := by
  induction stops with
  | here item rest fault fails => exact .here item _ fault fails
  | later item rest tried fault passes onward ih => exact .later item _ tried fault passes ih

theorem Stops.prepend (passes : ∀ item ∈ before, item.Passes d c answers)
    (stops : Stops d c answers items tried fault) :
    Stops d c answers (before ++ items) (before ++ tried) fault := by
  induction before with
  | nil => exact stops
  | cons item before ih =>
    obtain ⟨first, others⟩ := List.forall_mem_cons.mp passes
    exact .later item _ _ fault first (ih others)

theorem Stops.not_passes (stops : Stops d c answers items tried fault) :
    ¬ ∀ item ∈ items, item.Passes d c answers := by
  intro passes
  induction stops with
  | here item rest fault fails => exact (List.forall_mem_cons.mp passes).1 _ fails
  | later item rest tried fault _ onward ih => exact ih (List.forall_mem_cons.mp passes).2

section Passes

variable {text shown address' : String}

theorem passes_mnemonic (known : c.mnemonic? role ≠ none) : (mnemonic role).Passes d c answers := by
  intro fault fails
  cases fails with
  | mnemonic _ unknown => exact known unknown

theorem passes_addition
    (printed : ((addCommand d role (c.words role)).outcome (answers.addition role)).printed? = some text) :
    (addition role).Passes d c answers := by
  intro fault fails
  cases fails with
  | addition _ cause useless => exact useless.unprinted printed

theorem passes_showing
    (printed : ((showCommand d role).outcome (answers.showing role)).printed? = some shown) :
    (showing role).Passes d c answers := by
  intro fault fails
  cases fails with
  | showing _ cause useless => exact useless.unprinted printed

theorem passes_address
    (printed : ((showCommand d role).outcome (answers.showing role)).printed? = some shown)
    (shows : Shows c.settings.addressPrefix shown address') : (address role).Passes d c answers := by
  intro fault fails
  cases fails with
  | address _ _ _ printed' trims foreign =>
    obtain rfl := Option.some.inj (printed.symm.trans printed')
    rw [← Text.trimmed_eq_iff.mpr trims, Text.trimmed_eq_iff.mpr shows.trims] at foreign
    exact foreign shows.prefixed

theorem passes_price {parsed : GasPrice}
    (ok : GasPrice.parse (Text.trimmed c.settings.gasPrice ++ c.settings.nativeDenom) = .ok parsed) :
    price.Passes d c answers := by
  intro fault fails
  cases fails with
  | price _ unparsed => cases ok.symm.trans unparsed

theorem Keyed.passes (keyed : Keyed d c answers role account) :
    ∀ item ∈ ofKey role, item.Passes d c answers := by
  obtain ⟨text, added⟩ := keyed.added
  obtain ⟨shown, printed, shows⟩ := keyed.shown
  unfold ofKey
  rw [List.forall_mem_cons, List.forall_mem_cons, List.forall_mem_singleton]
  exact ⟨passes_addition added, passes_showing printed, passes_address printed shows⟩

end Passes

theorem Keyed.unique (keyed : Keyed d c answers role account) (also : Keyed d c answers role account') :
    account = account' := by
  obtain ⟨shown, printed, shows⟩ := keyed.shown
  obtain ⟨shown', printed', shows'⟩ := also.shown
  obtain rfl := Option.some.inj (printed.symm.trans printed')
  cases account
  cases account'
  rw [Account.mk.injEq]
  exact ⟨keyed.role_eq.trans also.role_eq.symm,
    (Text.trimmed_eq_iff.mpr shows.trims).symm.trans (Text.trimmed_eq_iff.mpr shows'.trims),
    keyed.key_eq.trans also.key_eq.symm⟩

theorem Founded.passes {s : Session} (founded : Founded d c answers s) :
    ∀ item ∈ inOrder, item.Passes d c answers := by
  have account (role : Role) : ∀ item ∈ ofAccount role, item.Passes d c answers :=
    List.forall_mem_cons.mpr ⟨passes_mnemonic (founded.known role), (founded.keyed role).passes⟩
  obtain ⟨parsed, ok, -⟩ := founded.made
  unfold inOrder
  rw [List.forall_mem_append, List.forall_mem_append, List.forall_mem_singleton]
  exact ⟨account .deployer, account .tester, passes_price ok⟩

theorem Founded.unique {s s' : Session} (founded : Founded d c answers s)
    (also : Founded d c answers s') : s = s' := by
  have deployer : s.deployer = s'.deployer := (founded.keyed .deployer).unique (also.keyed .deployer)
  have tester : s.tester = s'.tester := (founded.keyed .tester).unique (also.keyed .tester)
  obtain ⟨price, parsed, made⟩ := founded.made
  obtain ⟨price', parsed', made'⟩ := also.made
  rw [made, made', deployer, tester, Except.ok.inj (parsed.symm.trans parsed')]

/-- The commands that reach the daemon when items are tried. -/
def issued (d : Daemon) (c : Configuration) (items : List SessionItem) : List Invocation :=
  Invocation.started (items.flatMap (commands d c))

theorem issued_append (before after : List SessionItem) :
    issued d c (before ++ after) = issued d c before ++ issued d c after := by
  rw [issued, List.flatMap_append, Invocation.started, List.filter_append]
  rfl

theorem hasNul_of_mem_commands (c : Configuration) (item : SessionItem) {i : Invocation}
    (member : i ∈ item.commands d c) : i.hasNul = isBlocked d := by
  cases item with
  | addition role =>
    rcases List.mem_pair.mp member with rfl | rfl
    · exact hasNul_command (by cases role <;> decide)
    · exact hasNul_command (by cases role <;> decide)
  | showing role =>
    rw [List.mem_singleton.mp member]
    exact hasNul_command (by cases role <;> decide)
  | mnemonic | address | price => cases member

theorem issued_of_clean (clean : isBlocked d = false) (items : List SessionItem) :
    issued d c items = items.flatMap (commands d c) := by
  refine List.filter_eq_self.mpr fun i member => ?_
  obtain ⟨item, -, asked⟩ := List.mem_flatMap.mp member
  rw [hasNul_of_mem_commands c item asked, clean]
  rfl

/-- What comes of trying items, and the commands for it: a result that is right if all of them pass,
or else the fault of the first that fails. -/
inductive Settles {α : Type} (d : Daemon) (c : Configuration) (answers : Answers)
    (items : List SessionItem) (right : α → Prop) : Except DeployFault α → List Invocation → Prop
  | passed (a : α) (passes : ∀ item ∈ items, item.Passes d c answers) (good : right a) :
      Settles d c answers items right (.ok a) (issued d c items)
  | stopped (tried : List SessionItem) (fault : DeployFault)
      (stops : Stops d c answers items tried fault) :
      Settles d c answers items right (.error fault) (issued d c tried)

theorem Settles.good {α : Type} {right : α → Prop} {a : α} {made : List Invocation}
    (settles : Settles d c answers items right (.ok a) made) : right a := by
  cases settles with
  | passed _ _ good => exact good

theorem Settles.stops {α : Type} {right : α → Prop} {made : List Invocation}
    (settles : Settles d c answers items right (.error fault) made) :
    ∃ tried, Stops d c answers items tried fault := by
  cases settles with
  | stopped tried _ stops => exact ⟨tried, stops⟩

theorem Settles.unique {α : Type} {right : α → Prop} {result result' : Except DeployFault α}
    {made made' : List Invocation} (single : ∀ a b, right a → right b → a = b)
    (settles : Settles d c answers items right result made)
    (also : Settles d c answers items right result' made') : result = result' ∧ made = made' := by
  cases settles with
  | passed a passes good =>
    cases also with
    | passed b _ good' => exact ⟨congrArg _ (single a b good good'), rfl⟩
    | stopped _ _ stops => exact absurd passes stops.not_passes
  | stopped tried fault stops =>
    cases also with
    | passed _ passes _ => exact absurd passes stops.not_passes
    | stopped _ _ stops' =>
      obtain ⟨rfl, rfl⟩ := stops.unique stops'
      exact ⟨rfl, rfl⟩

theorem Settles.prepend {α : Type} {right : α → Prop} {result : Except DeployFault α} {made : List Invocation}
    (passes : ∀ item ∈ before, item.Passes d c answers)
    (settles : Settles d c answers items right result made) :
    Settles d c answers (before ++ items) right result (issued d c before ++ made) := by
  cases settles with
  | passed a others good =>
    rw [← issued_append]
    exact .passed a (List.forall_mem_append.mpr ⟨passes, others⟩) good
  | stopped tried fault stops =>
    rw [← issued_append]
    exact .stopped _ fault (stops.prepend passes)

section Tries

variable {ε α β : Type} {stream : Nat → Outcome} {g : ε → DeployFault} {p : Commands (Except ε α)}
  {next : α → ExceptT ε (Dialogue Invocation fun _ => Outcome) β} {right : α → Prop} {right' : β → Prop}
  {n : Nat} {past : List CommandExchange} {i : Invocation}

/-- When a program has come to the answer with this number, it goes on to try the items. No answer
counts for a daemon that no command can reach. -/
def Tries (d : Daemon) (c : Configuration) (stream : Nat → Outcome) (n : Nat) (g : ε → DeployFault)
    (p : Commands (Except ε α)) (items : List SessionItem) (right : α → Prop) : Prop :=
  ∀ past, (isBlocked d = false → past.length = n) → ∃ result made,
    p.run (scripted stream) past = (result, past ++ made) ∧
      Settles d c (.ofStream stream) items right (result.mapError g) (made.map (·.1))

theorem Tries.bind (first : Tries d c stream n g p before right)
    (onward : ∀ a, right a →
      Tries d c stream (n + (before.flatMap (commands d c)).length) g (next a).run after right') :
    Tries d c stream n g (p >>= ExceptT.bindCont next) (before ++ after) right' := by
  intro past counted
  obtain ⟨result, made, ran, settles⟩ := first past counted
  rw [run_bind, ran]
  cases result with
  | error e =>
    refine ⟨.error e, made, rfl, ?_⟩
    generalize commanded : made.map (·.1) = commands at settles
    cases settles with
    | stopped tried _ stops => exact .stopped tried _ (stops.append after)
  | ok a =>
    generalize commanded : made.map (·.1) = commands at settles
    cases settles with
    | passed _ passes good =>
      have counted' : isBlocked d = false →
          (past ++ made).length = n + (before.flatMap (SessionItem.commands d c)).length := by
        intro clean
        rw [List.length_append, counted clean, ← issued_of_clean clean, ← commanded, List.length_map]
      obtain ⟨result, more, ran, settles⟩ := onward a good (past ++ made) counted'
      refine ⟨result, made ++ more, ?_, ?_⟩
      · rw [← List.append_assoc]
        exact ran
      · rw [List.map_append, commanded]
        exact settles.prepend passes

theorem Tries.mono {finer : α → Prop} (tries : Tries d c stream n g p items right)
    (refines : ∀ a, right a → finer a) : Tries d c stream n g p items finer := by
  intro past counted
  obtain ⟨result, made, ran, settles⟩ := tries past counted
  refine ⟨result, made, ran, ?_⟩
  generalize result.mapError g = outcome at settles ⊢
  generalize made.map (·.1) = commands at settles ⊢
  cases settles with
  | passed a passes good => exact .passed a passes (refines a good)
  | stopped tried fault stops => exact .stopped tried fault stops

theorem Tries.mapError {f : ε → DeployFault} (tries : Tries d c stream n f p items right) :
    Tries d c stream n id (p >>= fun result => pure (result.mapError f)) items right := by
  intro past counted
  obtain ⟨result, made, ran, settles⟩ := tries past counted
  refine ⟨result.mapError f, made, by rw [run_bind, ran, run_pure], ?_⟩
  cases result with
  | error e => exact settles
  | ok a => exact settles

end Tries

section Establish

variable {d : DaemonSetup} {stream : Nat → Outcome} {n : Nat} {α β : Type} {right : α → Prop}
  {right' : β → Prop}

abbrev Attempts (d : DaemonSetup) (c : Configuration) (stream : Nat → Outcome) (n : Nat)
    (part : Session.Establishing α) (items : List SessionItem) (right : α → Prop) : Prop :=
  Tries d.daemon c stream n id (part.run.expand d.settleIdentity) items right

theorem Attempts.bind {part : Session.Establishing α} {next : α → Session.Establishing β}
    (first : Attempts d c stream n part before right)
    (onward : ∀ a, right a →
      Attempts d c stream (n + (before.flatMap (commands d.daemon c)).length) (next a) after right') :
    Attempts d c stream n (part >>= next) (before ++ after) right' := by
  have expanded : (part >>= next).run.expand d.settleIdentity =
      part.run.expand d.settleIdentity >>= ExceptT.bindCont fun a =>
        ExceptT.mk ((next a).run.expand d.settleIdentity) := by
    change (part.run >>= ExceptT.bindCont next).expand d.settleIdentity = _
    rw [expand_bind]
    refine congrArg _ (funext fun result => ?_)
    cases result <;> rfl
  unfold Attempts
  rw [expanded]
  exact Tries.bind first onward

end Establish

end SessionItem

namespace DaemonSetup

open SessionItem Keyring

end DaemonSetup

end ContractLaunch
