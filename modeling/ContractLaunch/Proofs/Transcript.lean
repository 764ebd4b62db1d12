import ContractLaunch.Dialogue
/-!
Transcripts of dialogues. A transcript lists the questions that a dialogue has asked and the answers
that it got, whoever gave them. Every run leaves one, and nothing but the transcript decides the
result.
-/
namespace ContractLaunch.Dialogue

variable {Q : Type} {R : Q → Type} {α β ε : Type}

/-- Given the answers in the list, the dialogue asks exactly the questions in it, in their order, and
ends with the result. -/
inductive Transcript : Dialogue Q R α → List (Exchange Q R) → α → Prop
  | done (a : α) : Transcript (.done a) [] a
  | ask (q : Q) (resume : R q → Dialogue Q R α) (r : R q) (rest : List (Exchange Q R)) (a : α)
      (resumed : Transcript (resume r) rest a) : Transcript (.ask q resume) (⟨q, r⟩ :: rest) a

theorem bind_eq (d : Dialogue Q R α) (next : α → Dialogue Q R β) : (d >>= next) = d.bind next := rfl

@[simp] theorem transcript_done {a b : α} {made : List (Exchange Q R)} :
    Transcript (.done a) made b ↔ made = [] ∧ b = a := by
  constructor
  · intro given
    cases given
    exact ⟨rfl, rfl⟩
  · intro given
    obtain ⟨rfl, rfl⟩ := given
    exact .done _

@[simp] theorem transcript_pure {a b : α} {made : List (Exchange Q R)} :
    Transcript (pure a : Dialogue Q R α) made b ↔ made = [] ∧ b = a := transcript_done

theorem transcript_ask {q : Q} {resume : R q → Dialogue Q R α} {made : List (Exchange Q R)} {a : α} :
    Transcript (.ask q resume) made a ↔
      ∃ r rest, made = ⟨q, r⟩ :: rest ∧ Transcript (resume r) rest a := by
  constructor
  · intro given
    cases given
    exact ⟨_, _, rfl, ‹_›⟩
  · intro given
    obtain ⟨r, rest, rfl, resumed⟩ := given
    exact .ask q resume r rest a resumed

@[simp] theorem transcript_question {q : Q} {r : R q} {made : List (Exchange Q R)} :
    Transcript (question q) made r ↔ made = [⟨q, r⟩] := by
  simp only [question, transcript_ask, transcript_done]
  constructor
  · intro given
    obtain ⟨answer, rest, rfl, rfl, rfl⟩ := given
    rfl
  · intro same
    subst same
    exact ⟨r, [], rfl, rfl, rfl⟩

theorem transcript_bind {d : Dialogue Q R α} {next : α → Dialogue Q R β}
    {made : List (Exchange Q R)} {b : β} :
    Transcript (d >>= next) made b ↔
      ∃ first a rest, made = first ++ rest ∧ Transcript d first a ∧ Transcript (next a) rest b := by
  rw [bind_eq]
  induction d generalizing made with
  | done a =>
    constructor
    · exact fun right => ⟨[], a, made, rfl, .done a, right⟩
    · intro given
      obtain ⟨_, _, rest, rfl, ⟨⟩, right⟩ := given
      exact right
  | ask q resume ih =>
    simp only [bind, transcript_ask, ih]
    constructor
    · intro given
      obtain ⟨r, _, rfl, first, a, rest, rfl, left, right⟩ := given
      exact ⟨⟨q, r⟩ :: first, a, rest, rfl, ⟨r, first, rfl, left⟩, right⟩
    · intro given
      obtain ⟨_, a, rest, rfl, ⟨r, first, rfl, left⟩, right⟩ := given
      exact ⟨r, first ++ rest, rfl, first, a, rest, rfl, left, right⟩

theorem transcript_map {d : Dialogue Q R α} {f : α → β} {made : List (Exchange Q R)} {b : β} :
    Transcript (f <$> d) made b ↔ ∃ a, b = f a ∧ Transcript d made a := by
  change Transcript (d >>= fun a => pure (f a)) made b ↔ _
  simp only [transcript_bind, transcript_pure]
  constructor
  · intro given
    obtain ⟨first, a, _, rfl, left, rfl, rfl⟩ := given
    exact ⟨a, rfl, by simpa using left⟩
  · intro given
    obtain ⟨a, rfl, left⟩ := given
    exact ⟨made, a, [], by simp, left, rfl, rfl⟩

theorem run_pure (respond : Respondent Q R) (a : α) (past : List (Exchange Q R)) :
    (pure a : Dialogue Q R α).run respond past = (a, past) := rfl

theorem run_question (respond : Respondent Q R) (q : Q) (past : List (Exchange Q R)) :
    (question q).run respond past = (respond past q, past ++ [⟨q, respond past q⟩]) := rfl

theorem run_bind (respond : Respondent Q R) (d : Dialogue Q R α) (next : α → Dialogue Q R β)
    (past : List (Exchange Q R)) :
    (d >>= next).run respond past =
      (next (d.run respond past).1).run respond (d.run respond past).2 := by
  rw [bind_eq]
  induction d generalizing past with
  | done a => rfl
  | ask q resume ih => exact ih (respond past q) _

theorem run_transcript (respond : Respondent Q R) (d : Dialogue Q R α)
    (past : List (Exchange Q R)) :
    ∃ made, (d.run respond past).2 = past ++ made ∧ Transcript d made (d.run respond past).1 := by
  induction d generalizing past with
  | done a => exact ⟨[], by simp [run], .done a⟩
  | ask q resume ih =>
    obtain ⟨made, grown, resumed⟩ := ih (respond past q) (past ++ [⟨q, respond past q⟩])
    exact ⟨⟨q, respond past q⟩ :: made, by simp [run, grown], .ask q resume _ made _ resumed⟩

theorem transcript_of_run (respond : Respondent Q R) (d : Dialogue Q R α) :
    Transcript d (d.run respond []).2 (d.run respond []).1 := by
  obtain ⟨made, grown, ended⟩ := run_transcript respond d []
  rw [grown]
  exact ended

/-- Two lists of exchanges give the same answer wherever both ask the same question. -/
def AnsweredAlike (made other : List (Exchange Q R)) : Prop :=
  ∀ (i : Nat) (x y : Exchange Q R), made[i]? = some x → other[i]? = some y → x.1 = y.1 → x = y

theorem AnsweredAlike.refl (made : List (Exchange Q R)) : AnsweredAlike made made := by
  intro i x y here there _
  exact Option.some.inj (here.symm.trans there)

theorem AnsweredAlike.tail {x y : Exchange Q R} {made other : List (Exchange Q R)}
    (alike : AnsweredAlike (x :: made) (y :: other)) : AnsweredAlike made other :=
  fun i => alike (i + 1)

/-- A dialogue that is answered alike goes on alike, so it asks the same and ends the same. -/
theorem Transcript.alike {d : Dialogue Q R α} {made other : List (Exchange Q R)} {a b : α}
    (first : Transcript d made a) (second : Transcript d other b) (alike : AnsweredAlike made other) :
    made = other ∧ a = b := by
  induction first generalizing other with
  | done a =>
    obtain ⟨rfl, rfl⟩ := transcript_done.mp second
    exact ⟨rfl, rfl⟩
  | ask q resume r rest a resumed ih =>
    obtain ⟨r', rest', rfl, onward⟩ := transcript_ask.mp second
    have same : (⟨q, r⟩ : Exchange Q R) = ⟨q, r'⟩ := alike 0 _ _ rfl rfl rfl
    cases same
    obtain ⟨rfl, rfl⟩ := ih onward alike.tail
    exact ⟨rfl, rfl⟩

theorem transcript_unique {d : Dialogue Q R α} {made : List (Exchange Q R)} {a b : α}
    (first : Transcript d made a) (second : Transcript d made b) : a = b :=
  (first.alike second (.refl made)).2

theorem mem_run_steady (answer : (q : Q) → R q) (d : Dialogue Q R α) (past : List (Exchange Q R))
    (steady : ∀ x ∈ past, x.2 = answer x.1) :
    ∀ x ∈ (d.run (fun _ q => answer q) past).2, x.2 = answer x.1 := by
  induction d generalizing past with
  | done a => exact steady
  | ask q resume ih =>
    refine ih (answer q) _ ?_
    intro x inside
    rcases List.mem_append.mp inside with early | last
    · exact steady x early
    · rw [List.mem_singleton.mp last]

theorem answeredAlike_of_steady {answer : (q : Q) → R q} {made other : List (Exchange Q R)}
    (first : ∀ x ∈ made, x.2 = answer x.1) (second : ∀ x ∈ other, x.2 = answer x.1) :
    AnsweredAlike made other := by
  intro i x y here there same
  obtain ⟨q, r⟩ := x
  obtain ⟨q', r'⟩ := y
  obtain rfl : q = q' := same
  have answered : r = answer q := first _ (List.mem_of_getElem? here)
  have answered' : r' = answer q := second _ (List.mem_of_getElem? there)
  rw [answered, answered']

/-- A dialogue comes to another one by exchanges. -/
inductive Reached : Dialogue Q R α → List (Exchange Q R) → Dialogue Q R α → Prop
  | start (d : Dialogue Q R α) : Reached d [] d
  | ask (q : Q) (resume : R q → Dialogue Q R α) (r : R q) (rest : List (Exchange Q R))
      (d : Dialogue Q R α) (later : Reached (resume r) rest d) :
      Reached (.ask q resume) (⟨q, r⟩ :: rest) d

theorem Reached.answer {d : Dialogue Q R α} {q : Q} {resume : R q → Dialogue Q R α}
    {made : List (Exchange Q R)} (reached : Reached d made (.ask q resume)) (r : R q) :
    Reached d (made ++ [⟨q, r⟩]) (resume r) := by
  generalize asking : Dialogue.ask q resume = next at reached
  induction reached with
  | start =>
    subst asking
    exact .ask q resume r [] _ (.start _)
  | ask first resume' r' rest _ later ih => exact .ask first resume' r' _ _ (ih asking)

theorem reached_done {a : α} {made : List (Exchange Q R)} {d : Dialogue Q R α} :
    Reached (.done a) made d ↔ made = [] ∧ d = .done a := by
  constructor
  · intro given
    cases given
    exact ⟨rfl, rfl⟩
  · intro given
    obtain ⟨rfl, rfl⟩ := given
    exact .start _

theorem reached_ask {q : Q} {resume : R q → Dialogue Q R α} {made : List (Exchange Q R)}
    {d : Dialogue Q R α} :
    Reached (.ask q resume) made d ↔
      (made = [] ∧ d = .ask q resume) ∨
        ∃ r rest, made = ⟨q, r⟩ :: rest ∧ Reached (resume r) rest d := by
  constructor
  · intro given
    obtain _ | ⟨_, _, r, rest, _, later⟩ := given
    · exact .inl ⟨rfl, rfl⟩
    · exact .inr ⟨r, rest, rfl, later⟩
  · intro given
    obtain ⟨rfl, rfl⟩ | ⟨r, rest, rfl, later⟩ := given
    · exact .start _
    · exact .ask q resume r rest d later

theorem Reached.transcript {d : Dialogue Q R α} {made : List (Exchange Q R)} {a : α}
    (reached : Reached d made (.done a)) : Transcript d made a := by
  generalize ended : Dialogue.done a = next at reached
  induction reached with
  | start => exact ended ▸ .done a
  | ask q resume r rest _ later ih => exact .ask q resume r rest a (ih ended)

section Expand

variable {Q' : Type} {R' : Q' → Type} (settle : (q : Q) → Dialogue Q' R' (R q))

theorem expand_bind (d : Dialogue Q R α) (next : α → Dialogue Q R β) :
    (d >>= next).expand settle = d.expand settle >>= fun a => (next a).expand settle := by
  simp only [bind_eq]
  induction d with
  | done a => rfl
  | ask q resume ih => simp [bind, expand, ih, bind_assoc]

@[simp] theorem expand_question (q : Q) : (question q).expand settle = settle q := by
  simp [question, expand]

variable {settle} {made : List (Exchange Q' R')}

/-- A program with faults goes on only after a part that ended well. -/
theorem transcript_expand_bind {d : ExceptT ε (Dialogue Q R) α}
    {next : α → ExceptT ε (Dialogue Q R) β} {b : Except ε β} :
    Transcript ((d >>= next).run.expand settle) made b ↔
      (∃ e, b = .error e ∧ Transcript (d.run.expand settle) made (.error e)) ∨
        ∃ first a rest, made = first ++ rest ∧ Transcript (d.run.expand settle) first (.ok a) ∧
          Transcript ((next a).run.expand settle) rest b := by
  rw [ExceptT.run_bind, expand_bind, transcript_bind]
  constructor
  · intro given
    obtain ⟨first, _ | a, rest, rfl, left, right⟩ := given
    · obtain ⟨rfl, rfl⟩ := transcript_done.mp right
      exact .inl ⟨_, rfl, by simpa using left⟩
    · exact .inr ⟨first, a, rest, rfl, left, right⟩
  · intro given
    obtain ⟨e, rfl, left⟩ | ⟨first, a, rest, rfl, left, right⟩ := given
    · exact ⟨made, .error e, [], by simp, left, transcript_done.mpr ⟨rfl, rfl⟩⟩
    · exact ⟨first, .ok a, rest, rfl, left, right⟩

theorem transcript_expand_lift {value b : Except ε α} :
    Transcript ((liftM value : ExceptT ε (Dialogue Q R) α).run.expand settle) made b ↔
      made = [] ∧ b = value := transcript_done

theorem transcript_expand_pure {a : α} {b : Except ε α} :
    Transcript ((pure a : ExceptT ε (Dialogue Q R) α).run.expand settle) made b ↔
      made = [] ∧ b = .ok a := transcript_done

theorem transcript_expand_reply {γ : Type} {q : Q} {reading : R q → Except ε γ} {b : Except ε γ} :
    Transcript ((question q >>= fun reply => pure (reading reply)).expand settle) made b ↔
      ∃ reply, b = reading reply ∧ Transcript (settle q) made reply := by
  rw [expand_bind, expand_question]
  exact transcript_map

end Expand

end ContractLaunch.Dialogue
