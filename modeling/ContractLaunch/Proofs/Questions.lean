import ContractLaunch.Proofs.Transcript
/-!
The questions of dialogues. What a dialogue may ask, and how often, is read off its tree: it then
holds of every transcript, whatever the answers.
-/
namespace ContractLaunch.Dialogue

variable {Q : Type} {R : Q → Type} {α β : Type}

/-- Whatever the answers, the dialogue asks only questions of a kind. -/
inductive Every (asked : Q → Prop) : Dialogue Q R α → Prop
  | done (a : α) : Every asked (.done a)
  | ask (q : Q) (resume : R q → Dialogue Q R α) (here : asked q)
      (later : ∀ r, Every asked (resume r)) : Every asked (.ask q resume)

/-- Whatever the answers, the dialogue asks at most so many questions. -/
inductive Within : Nat → Dialogue Q R α → Prop
  | done (bound : Nat) (a : α) : Within bound (.done a)
  | ask (bound : Nat) (q : Q) (resume : R q → Dialogue Q R α) (later : ∀ r, Within bound (resume r)) :
      Within (bound + 1) (.ask q resume)

variable {asked : Q → Prop}

theorem every_question {q : Q} (here : asked q) : Every asked (question q : Dialogue Q R (R q)) :=
  .ask q _ here fun r => .done r

theorem Every.mono {other : Q → Prop} {d : Dialogue Q R α} (every : Every asked d)
    (weaker : ∀ q, asked q → other q) : Every other d := by
  induction every with
  | done a => exact .done a
  | ask q resume here later ih => exact .ask q resume (weaker q here) ih

theorem Every.and {other : Q → Prop} {d : Dialogue Q R α} (first : Every asked d)
    (second : Every other d) : Every (fun q => asked q ∧ other q) d := by
  induction first with
  | done a => exact .done a
  | ask q resume here later ih =>
    cases second with
    | ask _ _ there following => exact .ask q resume ⟨here, there⟩ fun r => ih r (following r)

theorem Every.bind {d : Dialogue Q R α} {next : α → Dialogue Q R β} (first : Every asked d)
    (rest : ∀ a, Every asked (next a)) : Every asked (d >>= next) := by
  rw [bind_eq]
  induction first with
  | done a => exact rest a
  | ask q resume here later ih => exact .ask q _ here ih

theorem Every.run_bind {ε : Type} {d : ExceptT ε (Dialogue Q R) α}
    {next : α → ExceptT ε (Dialogue Q R) β} (first : Every asked d.run)
    (rest : ∀ a, Every asked (next a).run) : Every asked (d >>= next).run := by
  rw [ExceptT.run_bind]
  refine first.bind fun result => ?_
  cases result with
  | error fault => exact .done _
  | ok a => exact rest a

theorem Every.expand {Q' : Type} {R' : Q' → Type} {settled : Q' → Prop}
    {settle : (q : Q) → Dialogue Q' R' (R q)} {d : Dialogue Q R α} (every : Every asked d)
    (each : ∀ q, asked q → Every settled (settle q)) : Every settled (d.expand settle) := by
  induction every with
  | done a => exact .done a
  | ask q resume here later ih => exact (each q here).bind ih

theorem Every.transcript {d : Dialogue Q R α} {made : List (Exchange Q R)} {a : α}
    (every : Every asked d) (ran : Transcript d made a) : ∀ x ∈ made, asked x.1 := by
  induction ran with
  | done a => exact nofun
  | ask q resume r rest a resumed ih =>
    cases every with
    | ask _ _ here later => exact List.forall_mem_cons.mpr ⟨here, ih (later r)⟩

theorem Every.reached {d next : Dialogue Q R α} {made : List (Exchange Q R)}
    (every : Every asked d) (reached : Reached d made next) :
    (∀ x ∈ made, asked x.1) ∧ Every asked next := by
  induction reached with
  | start d => exact ⟨nofun, every⟩
  | ask q resume r rest d later ih =>
    cases every with
    | ask _ _ here following =>
      obtain ⟨before, after⟩ := ih (following r)
      exact ⟨List.forall_mem_cons.mpr ⟨here, before⟩, after⟩

end ContractLaunch.Dialogue
