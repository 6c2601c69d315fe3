import Mathlib.Tactic.Common

/-! Programs that know nothing about who answers them. A program asks and goes on by
the answer, until it ends with a result or with an error; an answer may depend on
everything that was asked before. What holds at the end whatever the answers is put
together from what holds at the ends of the parts. -/

/-- A program that asks. -/
inductive Dialogue (ε Query : Type) (Answer : Query → Type) (α : Type) where
  | done (result : α)
  | fail (error : ε)
  | ask (query : Query) (next : Answer query → Dialogue ε Query Answer α)

namespace Dialogue

variable {ε Query : Type} {Answer : Query → Type} {α β : Type}

/-- The questions asked so far, with their answers. -/
abbrev Trace (Answer : Query → Type) := List (Sigma Answer)

/-- Whoever answers, with everything that was asked before in view. -/
abbrev Respondent (Answer : Query → Type) := Trace Answer → (query : Query) → Answer query

/-- A program and what it goes on with. -/
def bind : Dialogue ε Query Answer α → (α → Dialogue ε Query Answer β) →
    Dialogue ε Query Answer β
  | done result, continuation => continuation result
  | fail error, _ => fail error
  | ask query next, continuation => ask query fun answer => (next answer).bind continuation

instance : Monad (Dialogue ε Query Answer) where
  pure := done
  bind := bind

/-- An error as a result. -/
def attempt : Dialogue ε Query Answer α → Dialogue ε Query Answer (Except ε α)
  | done result => done (.ok result)
  | fail error => done (.error error)
  | ask query next => ask query fun answer => (next answer).attempt

def ofExcept : Except ε α → Dialogue ε Query Answer α
  | .ok result => done result
  | .error error => fail error

/-- `catch`. -/
def catching (program : Dialogue ε Query Answer α) (handler : ε → Dialogue ε Query Answer α) :
    Dialogue ε Query Answer α :=
  program.attempt.bind fun
    | .ok result => done result
    | .error error => handler error

/-- `finally`: an error on the way out replaces the one before. -/
def finishing (program : Dialogue ε Query Answer α) (cleanup : Dialogue ε Query Answer Unit) :
    Dialogue ε Query Answer α :=
  program.attempt.bind fun result => cleanup.bind fun _ => ofExcept result

/-- A program as a part of one that asks more questions, with more errors. -/
def embed {ε' Query' : Type} {Answer' : Query' → Type} (error : ε → ε') (question : Query → Query')
    (answer : (query : Query) → Answer' (question query) → Answer query) :
    Dialogue ε Query Answer α → Dialogue ε' Query' Answer' α
  | done result => done result
  | fail e => fail (error e)
  | ask query next => ask (question query) fun given =>
      (next (answer query given)).embed error question answer

/-- The end of a program. -/
def run (respondent : Respondent Answer) :
    Dialogue ε Query Answer α → Trace Answer → Trace Answer × Except ε α
  | done result, past => (past, .ok result)
  | fail error, past => (past, .error error)
  | ask query next, past =>
      (next (respondent past query)).run respondent (past ++ [⟨query, respondent past query⟩])

/-- The condition holds at the end, whatever the answers. -/
def Always (post : Trace Answer → Except ε α → Prop) :
    Trace Answer → Dialogue ε Query Answer α → Prop
  | past, done result => post past (.ok result)
  | past, fail error => post past (.error error)
  | past, ask query next => ∀ answer, Always post (past ++ [⟨query, answer⟩]) (next answer)

/-- Every question is of one kind. -/
def Asks (kind : Query → Prop) : Dialogue ε Query Answer α → Prop
  | done _ => True
  | fail _ => True
  | ask query next => kind query ∧ ∀ answer, (next answer).Asks kind

section Always

variable {post other : Trace Answer → Except ε α → Prop} {past : Trace Answer}
  {program : Dialogue ε Query Answer α}

/-- What holds whatever the answers holds whoever answers. -/
theorem Always.run (h : Always post past program) (respondent : Respondent Answer) :
    post (program.run respondent past).1 (program.run respondent past).2 := by
  induction program generalizing past with
  | done result => exact h
  | fail error => exact h
  | ask query next ih => exact ih _ (h _)

theorem Always.mono (h : Always post past program)
    (hImplies : ∀ after result, post after result → other after result) :
    Always other past program := by
  induction program generalizing past with
  | done result => exact hImplies _ _ h
  | fail error => exact hImplies _ _ h
  | ask query next ih => exact fun answer => ih answer (h answer)

theorem Always.and (h : Always post past program) (hOther : Always other past program) :
    Always (fun after result => post after result ∧ other after result) past program := by
  induction program generalizing past with
  | done result => exact ⟨h, hOther⟩
  | fail error => exact ⟨h, hOther⟩
  | ask query next ih => exact fun answer => ih answer (h answer) (hOther answer)

theorem Always.all {ι : Type} {posts : ι → Trace Answer → Except ε α → Prop}
    (h : ∀ i, Always (posts i) past program) :
    Always (fun after result => ∀ i, posts i after result) past program := by
  induction program generalizing past with
  | done result => exact h
  | fail error => exact h
  | ask query next ih => exact fun answer => ih answer fun i => h i answer

/-- The trace only grows. -/
theorem Always.extends (past : Trace Answer) (program : Dialogue ε Query Answer α) :
    Always (fun after _ => past <+: after) past program := by
  induction program generalizing past with
  | done result => exact List.prefix_refl past
  | fail error => exact List.prefix_refl past
  | ask query next ih =>
      intro answer
      apply (ih answer _).mono
      intro after _ hAfter
      exact (List.prefix_append past _).trans hAfter

end Always

section Rules

variable {past : Trace Answer}

/-- An error ends the whole; a result is gone on with. -/
theorem Always.bind {program : Dialogue ε Query Answer α} {next : α → Dialogue ε Query Answer β}
    {post : Trace Answer → Except ε β → Prop} {middle : Trace Answer → Except ε α → Prop}
    (h : Always middle past program)
    (hDone : ∀ after result, middle after (.ok result) → Always post after (next result))
    (hFail : ∀ after error, middle after (.error error) → post after (.error error)) :
    Always post past (program.bind next) := by
  induction program generalizing past with
  | done result => exact hDone past result h
  | fail error => exact hFail past error h
  | ask query following ih => exact fun answer => ih answer (h answer)

/-- A result is kept; an error is handled. -/
theorem Always.catching {program : Dialogue ε Query Answer α}
    {handler : ε → Dialogue ε Query Answer α}
    {post middle : Trace Answer → Except ε α → Prop} (h : Always middle past program)
    (hDone : ∀ after result, middle after (.ok result) → post after (.ok result))
    (hFail : ∀ after error, middle after (.error error) → Always post after (handler error)) :
    Always post past (program.catching handler) := by
  induction program generalizing past with
  | done result => exact hDone past result h
  | fail error => exact hFail past error h
  | ask query next ih => exact fun answer => ih answer (h answer)

/-- Both are gone on with. -/
theorem Always.attempt {program : Dialogue ε Query Answer α}
    {next : Except ε α → Dialogue ε Query Answer β} {post : Trace Answer → Except ε β → Prop}
    {middle : Trace Answer → Except ε α → Prop} (h : Always middle past program)
    (hNext : ∀ after result, middle after result → Always post after (next result)) :
    Always post past (program.attempt.bind next) := by
  induction program generalizing past with
  | done result => exact hNext past _ h
  | fail error => exact hNext past _ h
  | ask query following ih => exact fun answer => ih answer (h answer)

end Rules

section Asks

variable {kind : Query → Prop}

theorem Asks.ofExcept (result : Except ε α) :
    (Dialogue.ofExcept result : Dialogue ε Query Answer α).Asks kind := by
  cases result with
  | ok result => exact trivial
  | error error => exact trivial

theorem Asks.bind {program : Dialogue ε Query Answer α} {next : α → Dialogue ε Query Answer β}
    (h : program.Asks kind) (hNext : ∀ result, (next result).Asks kind) :
    (program.bind next).Asks kind := by
  induction program with
  | done result => exact hNext result
  | fail error => exact trivial
  | ask query following ih => exact ⟨h.1, fun answer => ih answer (h.2 answer)⟩

theorem Asks.attempt {program : Dialogue ε Query Answer α} (h : program.Asks kind) :
    program.attempt.Asks kind := by
  induction program with
  | done result => exact trivial
  | fail error => exact trivial
  | ask query next ih => exact ⟨h.1, fun answer => ih answer (h.2 answer)⟩

theorem Asks.catching {program : Dialogue ε Query Answer α} {handler : ε → Dialogue ε Query Answer α}
    (h : program.Asks kind) (hHandler : ∀ error, (handler error).Asks kind) :
    (program.catching handler).Asks kind := by
  apply h.attempt.bind
  intro result
  cases result with
  | ok result => exact trivial
  | error error => exact hHandler error

theorem Asks.finishing {program : Dialogue ε Query Answer α} {cleanup : Dialogue ε Query Answer Unit}
    (h : program.Asks kind) (hCleanup : cleanup.Asks kind) : (program.finishing cleanup).Asks kind := by
  apply h.attempt.bind
  intro result
  exact hCleanup.bind fun _ => Asks.ofExcept result

theorem Asks.all (program : Dialogue ε Query Answer α) : program.Asks fun _ => True := by
  induction program with
  | done result => exact trivial
  | fail error => exact trivial
  | ask query next ih => exact ⟨trivial, ih⟩

/-- A program adds its own questions to the trace, and no others. -/
theorem Asks.always {program : Dialogue ε Query Answer α} (h : program.Asks kind) (past : Trace Answer) :
    Always (fun after _ => ∃ more, after = past ++ more ∧ ∀ event ∈ more, kind event.1)
      past program := by
  induction program generalizing past with
  | done result => exact ⟨[], by simp, by simp⟩
  | fail error => exact ⟨[], by simp, by simp⟩
  | ask query next ih =>
      intro answer
      apply (ih answer (h.2 answer) _).mono
      rintro after result ⟨more, rfl, hMore⟩
      refine ⟨⟨query, answer⟩ :: more, by simp, ?_⟩
      intro event hEvent
      rcases List.mem_cons.mp hEvent with rfl | hRest
      · exact h.1
      · exact hMore event hRest

end Asks

section Embed

variable {ε' Query' : Type} {Answer' : Query' → Type} {error : ε → ε'} {question : Query → Query'}
  {answer : (query : Query) → Answer' (question query) → Answer query} {program : Dialogue ε Query Answer α}

/-- An embedded program does what it does on its own: the trace shows its questions, by way
of a view that knows them, and it ends as it ends. -/
theorem Always.embed {past : Trace Answer} {post : Trace Answer → Except ε α → Prop}
    (h : Always post past program) (view : Sigma Answer' → Option (Sigma Answer))
    (hView : ∀ query given, view ⟨question query, given⟩ = some ⟨query, answer query given⟩)
    {outer : Trace Answer'} (hOuter : outer.filterMap view = past) :
    Always (fun after result => ∃ end', post (after.filterMap view) end' ∧ result = end'.mapError error)
      outer (program.embed error question answer) := by
  induction program generalizing past outer with
  | done result =>
      rw [← hOuter] at h
      exact ⟨.ok result, h, rfl⟩
  | fail e =>
      rw [← hOuter] at h
      exact ⟨.error e, h, rfl⟩
  | ask query next ih =>
      intro given
      apply ih _ (h (answer query given))
      rw [List.filterMap_append, hOuter]
      simp [hView]

/-- Its questions are its own. -/
theorem Asks.embed {kind : Query → Prop} {kind' : Query' → Prop} (h : program.Asks kind)
    (hKind : ∀ query, kind query → kind' (question query)) :
    (program.embed error question answer).Asks kind' := by
  induction program with
  | done result => exact trivial
  | fail e => exact trivial
  | ask query next ih => exact ⟨hKind query h.1, fun given => ih _ (h.2 _)⟩

end Embed

end Dialogue
