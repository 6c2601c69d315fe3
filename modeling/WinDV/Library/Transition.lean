import Mathlib.Data.List.Basic
import Mathlib.Tactic.Common

/-! Machines with a partial step function and their finite runs. An action
names the thread that moves and everything the environment decides in that
move, so a list of actions is one interleaving. A run keeps a log of the steps
it took; conditions on a run are conditions on the entries of its log. -/
namespace Transition

universe u v w

variable {State : Type u} {Action : Type v}

/-- The run from `start` that took exactly the logged steps. An entry holds
the state before the step and the action taken in it. -/
inductive Runs (step : State → Action → Option State) (start : State) :
    List (State × Action) → State → Prop where
  | zero : Runs step start [] start
  | succ {log : List (State × Action)} {middle finish : State} {action : Action}
      (prior : Runs step start log middle) (last : step middle action = some finish) :
      Runs step start (log ++ [(middle, action)]) finish

variable {step : State → Action → Option State}

/-- A state some interleaving leads to. -/
def Reachable (step : State → Action → Option State) (start finish : State) : Prop :=
  ∃ log, Runs step start log finish

/-- Concatenate two runs; their logs are appended. -/
theorem Runs.trans {start middle finish : State} {first second : List (State × Action)}
    (left : Runs step start first middle) (right : Runs step middle second finish) :
    Runs step start (first ++ second) finish := by
  induction right with
  | zero => simpa using left
  | succ prior last ih =>
      rw [← List.append_assoc]
      exact Runs.succ ih last

theorem Runs.single {start finish : State} {action : Action}
    (h : step start action = some finish) : Runs step start [(start, action)] finish :=
  Runs.succ Runs.zero h

/-- Put one step in front of a run. -/
theorem Runs.cons {start middle finish : State} {action : Action} {log : List (State × Action)}
    (first : step start action = some middle) (rest : Runs step middle log finish) :
    Runs step start ((start, action) :: log) finish :=
  (Runs.single first).trans rest

theorem Runs.nil {start finish : State} (run : Runs step start [] finish) : finish = start := by
  generalize hLog : ([] : List (State × Action)) = log at run
  cases run with
  | zero => rfl
  | succ prior last => simp at hLog

/-- Take the first step off a run. -/
theorem Runs.uncons {start finish : State} {entry : State × Action} {rest : List (State × Action)}
    (run : Runs step start (entry :: rest) finish) :
    entry.1 = start ∧ ∃ next, step start entry.2 = some next ∧ Runs step next rest finish := by
  generalize hLog : entry :: rest = log at run
  induction run generalizing rest with
  | zero => cases hLog
  | @succ log middle finish action prior last ih =>
      cases log with
      | nil =>
          obtain ⟨rfl, rfl⟩ := List.cons.inj hLog
          obtain rfl := prior.nil
          exact ⟨rfl, finish, last, Runs.zero⟩
      | cons head tail =>
          obtain ⟨rfl, rfl⟩ := List.cons.inj hLog
          obtain ⟨hStart, next, hNext, hRest⟩ := ih rfl
          exact ⟨hStart, next, hNext, hRest.succ last⟩

/-- A run passes through a state wherever its log is cut. -/
theorem Runs.unappend {start finish : State} {first second : List (State × Action)}
    (run : Runs step start (first ++ second) finish) :
    ∃ middle, Runs step start first middle ∧ Runs step middle second finish := by
  induction first generalizing start with
  | nil => exact ⟨start, Runs.zero, run⟩
  | cons entry rest ih =>
      obtain ⟨rfl, next, hNext, hRest⟩ := run.uncons
      obtain ⟨middle, hFirst, hSecond⟩ := ih hRest
      exact ⟨middle, hFirst.cons hNext, hSecond⟩

theorem Reachable.refl (start : State) : Reachable step start start := ⟨[], Runs.zero⟩

theorem Reachable.succ {start middle finish : State} {action : Action}
    (h : Reachable step start middle) (last : step middle action = some finish) :
    Reachable step start finish := by
  obtain ⟨log, run⟩ := h
  exact ⟨_, run.succ last⟩

/-- A run passes through the state in front of every logged step, and the
step it took there was enabled. -/
theorem Runs.split {start finish : State} {log : List (State × Action)}
    (run : Runs step start log finish) {entry : State × Action} (h : entry ∈ log) :
    ∃ before after next, log = before ++ entry :: after ∧ Runs step start before entry.1 ∧
      step entry.1 entry.2 = some next ∧ Runs step next after finish := by
  obtain ⟨before, after, rfl⟩ := List.append_of_mem h
  obtain ⟨middle, hBefore, hRest⟩ := run.unappend
  obtain ⟨rfl, next, hNext, hAfter⟩ := hRest.uncons
  exact ⟨before, after, next, rfl, hBefore, hNext, hAfter⟩

/-- The invariant rule for runs whose steps all meet a condition. The
condition may depend on the state the step is taken in. -/
theorem Runs.invariant_of {start finish : State} {log : List (State × Action)}
    (run : Runs step start log finish) (meets : State × Action → Prop) (inv : State → Prop)
    (hStart : inv start)
    (hStep : ∀ s a t, inv s → meets (s, a) → step s a = some t → inv t)
    (hMeets : ∀ entry ∈ log, meets entry) : inv finish := by
  induction run with
  | zero => exact hStart
  | @succ log middle finish action prior last ih =>
      have hMiddle := ih fun entry hEntry => hMeets entry (List.mem_append_left _ hEntry)
      exact hStep _ _ _ hMiddle (hMeets _ (by simp)) last

/-- When a step leads to a good state exactly if it meets a condition, a run
visits good states only exactly if all its steps meet the condition. -/
theorem Runs.always_iff {start finish : State} {log : List (State × Action)}
    (run : Runs step start log finish) (inv good : State → Prop) (meets : State × Action → Prop)
    (hStart : inv start) (hKeep : ∀ s a t, inv s → step s a = some t → inv t)
    (hGood : good start)
    (hStep : ∀ s a t, inv s → good s → step s a = some t → (good t ↔ meets (s, a))) :
    ((∀ entry ∈ log, good entry.1) ∧ good finish) ↔ ∀ entry ∈ log, meets entry := by
  induction run with
  | zero => simp [hGood]
  | @succ log middle finish action prior last ih =>
      have hMiddle : inv middle :=
        prior.invariant_of (fun _ => True) inv hStart (fun s a t hs _ h => hKeep s a t hs h)
          (fun _ _ => trivial)
      constructor
      · rintro ⟨hLog, hFinish⟩ entry hEntry
        have hGoodMiddle := hLog (middle, action) (by simp)
        rcases List.mem_append.mp hEntry with hEntry | hEntry
        · exact ih.mp ⟨fun e he => hLog e (List.mem_append_left _ he), hGoodMiddle⟩ entry hEntry
        · obtain rfl := List.mem_singleton.mp hEntry
          exact (hStep _ _ _ hMiddle hGoodMiddle last).mp hFinish
      · intro hMeets
        obtain ⟨hLog, hGoodMiddle⟩ :=
          ih.mpr fun e he => hMeets e (List.mem_append_left _ he)
        refine ⟨fun entry hEntry => ?_, ?_⟩
        · rcases List.mem_append.mp hEntry with hEntry | hEntry
          · exact hLog entry hEntry
          · rw [List.mem_singleton.mp hEntry]
            exact hGoodMiddle
        · exact (hStep _ _ _ hMiddle hGoodMiddle last).mpr (hMeets _ (by simp))

/-- When a step keeps a good state good exactly if it meets a condition, and
never mends a bad one, a run ends well exactly if all its steps meet it. -/
theorem Runs.good_iff {start finish : State} {log : List (State × Action)}
    (run : Runs step start log finish) (inv good : State → Prop) (meets : State × Action → Prop)
    (hStart : inv start) (hKeep : ∀ s a t, inv s → step s a = some t → inv t) (hGood : good start)
    (hStep : ∀ s a t, inv s → step s a = some t → (good t ↔ good s ∧ meets (s, a))) :
    good finish ↔ ∀ entry ∈ log, meets entry := by
  induction run with
  | zero => simp [hGood]
  | @succ log middle finish action prior last ih =>
      have hMiddle : inv middle :=
        prior.invariant_of (fun _ => True) inv hStart (fun s a t hs _ h => hKeep s a t hs h)
          (fun _ _ => trivial)
      rw [hStep _ _ _ hMiddle last, ih, List.forall_mem_append, List.forall_mem_singleton]

/-- An entry of the first kind is in the log, and none of the second kind after it. -/
def Since (occurs ends : State × Action → Prop) (log : List (State × Action)) : Prop :=
  ∃ before entry after, log = before ++ entry :: after ∧ occurs entry ∧ ∀ later ∈ after, ¬ ends later

theorem since_nil {occurs ends : State × Action → Prop} : ¬ Since occurs ends [] := by
  rintro ⟨before, entry, after, hLog, -⟩
  simp at hLog

/-- Whether something has happened since is decided step by step. -/
theorem since_append {occurs ends : State × Action → Prop} {log : List (State × Action)}
    {entry : State × Action} :
    Since occurs ends (log ++ [entry]) ↔ occurs entry ∨ Since occurs ends log ∧ ¬ ends entry := by
  constructor
  · rintro ⟨before, first, after, hLog, hOccurs, hAfter⟩
    rcases after.eq_nil_or_concat' with rfl | ⟨rest, last, rfl⟩
    · obtain ⟨-, hFirst⟩ := List.append_inj' hLog rfl
      obtain rfl := List.singleton_inj.mp hFirst
      exact Or.inl hOccurs
    · rw [← List.cons_append, ← List.append_assoc] at hLog
      obtain ⟨rfl, hLast⟩ := List.append_inj' hLog rfl
      obtain rfl := List.singleton_inj.mp hLast
      rw [List.forall_mem_append, List.forall_mem_singleton] at hAfter
      exact Or.inr ⟨⟨before, first, rest, rfl, hOccurs, hAfter.1⟩, hAfter.2⟩
  · rintro (hOccurs | ⟨⟨before, first, after, rfl, hOccurs, hAfter⟩, hLast⟩)
    · exact ⟨log, entry, [], rfl, hOccurs, by simp⟩
    · refine ⟨before, first, after ++ [entry], by simp, hOccurs, ?_⟩
      rw [List.forall_mem_append, List.forall_mem_singleton]
      exact ⟨hAfter, hLast⟩

theorem Since.of_mem {occurs ends : State × Action → Prop} {log : List (State × Action)}
    {entry : State × Action} (hEntry : entry ∈ log) (hOccurs : occurs entry)
    (hNever : ∀ later ∈ log, ¬ ends later) : Since occurs ends log := by
  obtain ⟨before, after, rfl⟩ := List.append_of_mem hEntry
  refine ⟨before, entry, after, rfl, hOccurs, fun later hLater => hNever later ?_⟩
  exact List.mem_append_right _ (List.mem_cons_of_mem _ hLater)

theorem Since.exists_entry {occurs ends : State × Action → Prop} {log : List (State × Action)}
    (h : Since occurs ends log) : ∃ entry ∈ log, occurs entry := by
  obtain ⟨before, entry, after, rfl, hOccurs, -⟩ := h
  exact ⟨entry, by simp, hOccurs⟩

/-- The invariant rule for an invariant that depends on what the run has done
since it last did something else. -/
theorem Runs.invariant_since {start finish : State} {log : List (State × Action)}
    (run : Runs step start log finish) (occurs ends : State × Action → Prop)
    (inv : Prop → State → Prop) (hStart : inv False start)
    (hStep : ∀ since s a t, inv since s → step s a = some t →
      inv (occurs (s, a) ∨ since ∧ ¬ ends (s, a)) t) :
    inv (Since occurs ends log) finish := by
  induction run with
  | zero =>
      rw [eq_false since_nil]
      exact hStart
  | succ prior last ih =>
      rw [propext since_append]
      exact hStep _ _ _ _ ih last

/-- What the entries give, one after the other, from the last one on that ends
what was given before it. -/
def givenSince {Given : Type w} (gives : State × Action → List Given) (ends : State × Action → Bool)
    (log : List (State × Action)) : List Given :=
  log.foldl (fun given entry => (if ends entry then [] else given) ++ gives entry) []

/-- The invariant rule for an invariant that depends on what the run has given
since. -/
theorem Runs.invariant_given {Given : Type w} {start finish : State} {log : List (State × Action)}
    (run : Runs step start log finish) (gives : State × Action → List Given)
    (ends : State × Action → Bool) (inv : List Given → State → Prop) (hStart : inv [] start)
    (hStep : ∀ given s a t, inv given s → step s a = some t →
      inv ((if ends (s, a) then [] else given) ++ gives (s, a)) t) :
    inv (givenSince gives ends log) finish := by
  induction run with
  | zero => exact hStart
  | succ prior last ih =>
      rw [givenSince, List.foldl_append]
      exact hStep _ _ _ _ ih last

theorem givenSince_eq_nil {Given : Type w} {gives : State × Action → List Given}
    {ends : State × Action → Bool} {log : List (State × Action)} (h : ∀ entry ∈ log, gives entry = []) :
    givenSince gives ends log = [] := by
  induction log with
  | nil => rfl
  | cons entry rest ih =>
      rw [List.forall_mem_cons] at h
      rw [givenSince, List.foldl_cons, h.1, List.append_nil, ite_self]
      exact ih h.2

/-- The invariant rule over every interleaving. -/
theorem Runs.invariant {start finish : State} {log : List (State × Action)}
    (run : Runs step start log finish) (inv : State → Prop) (hStart : inv start)
    (hStep : ∀ s a t, inv s → step s a = some t → inv t) : inv finish :=
  run.invariant_of (fun _ => True) inv hStart (fun s a t hs _ h => hStep s a t hs h)
    (fun _ _ => trivial)

theorem Reachable.invariant {start finish : State} (h : Reachable step start finish)
    (inv : State → Prop) (hStart : inv start)
    (hStep : ∀ s a t, inv s → step s a = some t → inv t) : inv finish := by
  obtain ⟨log, run⟩ := h
  exact run.invariant inv hStart hStep

/-- Execute a schedule and log its steps. This is the computable side of `Runs`. -/
def exec (step : State → Action → Option State) :
    State → List Action → Option (List (State × Action) × State)
  | start, [] => some ([], start)
  | start, action :: rest =>
      (step start action).bind fun next =>
        (exec step next rest).map fun result => ((start, action) :: result.1, result.2)

theorem exec_run {start : State} {actions : List Action} {result : List (State × Action) × State}
    (h : exec step start actions = some result) : Runs step start result.1 result.2 := by
  induction actions generalizing start result with
  | nil =>
      obtain rfl : ([], start) = result := by simpa [exec] using h
      exact Runs.zero
  | cons action rest ih =>
      obtain ⟨next, hNext, hRest⟩ := Option.bind_eq_some_iff.mp h
      obtain ⟨tail, hTail, rfl⟩ := Option.map_eq_some_iff.mp hRest
      exact (ih hTail).cons hNext

/-- The log of an execution holds the actions of the schedule. -/
theorem exec_actions {start : State} {actions : List Action} {result : List (State × Action) × State}
    (h : exec step start actions = some result) : result.1.map Prod.snd = actions := by
  induction actions generalizing start result with
  | nil =>
      obtain rfl : ([], start) = result := by simpa [exec] using h
      rfl
  | cons action rest ih =>
      obtain ⟨next, _, hRest⟩ := Option.bind_eq_some_iff.mp h
      obtain ⟨tail, hTail, rfl⟩ := Option.map_eq_some_iff.mp hRest
      rw [List.map_cons, ih hTail]

variable (step) in
/-- A schedule whose execution passes a test witnesses a run that does. -/
theorem exec_witness (start : State) (actions : List Action)
    (test : List (State × Action) → State → Bool)
    (h : (exec step start actions).any (fun result => test result.1 result.2) = true) :
    ∃ log finish, Runs step start log finish ∧ test log finish = true := by
  cases he : exec step start actions with
  | none => simp [he] at h
  | some result => exact ⟨result.1, result.2, exec_run he, by simpa [he] using h⟩

variable (step) in
/-- Two schedules, one after the other, with a test on both executions. -/
theorem exec_witness_both (start : State) (first second : List Action)
    (test : List (State × Action) → State → List (State × Action) → State → Bool)
    (h : (exec step start first).any (fun result =>
      (exec step result.2 second).any fun last => test result.1 result.2 last.1 last.2) = true) :
    ∃ log middle log' finish, Runs step start log middle ∧ Runs step middle log' finish ∧
      log'.map Prod.snd = second ∧ test log middle log' finish = true := by
  obtain ⟨log, middle, run, hSecond⟩ := exec_witness step start first
    (fun log s => (exec step s second).any fun last => test log s last.1 last.2) h
  cases he : exec step middle second with
  | none => simp [he] at hSecond
  | some result =>
      exact ⟨log, middle, result.1, result.2, run, exec_run he, exec_actions he,
        by simpa [he] using hSecond⟩

variable (step) in
/-- The same, with a test on where each ends and on the steps of the second. -/
theorem exec_witness_then (start : State) (first second : List Action)
    (test : State → List (State × Action) → State → Bool)
    (h : (exec step start first).any (fun result =>
      (exec step result.2 second).any fun last => test result.2 last.1 last.2) = true) :
    ∃ log middle log' finish, Runs step start log middle ∧ Runs step middle log' finish ∧
      log'.map Prod.snd = second ∧ test middle log' finish = true :=
  exec_witness_both step start first second (fun _ => test) h

/-- Forward simulation. Each step of the concrete machine is matched by an
abstract move with the same observation, from related states to related
states. The abstract side is a relation, so it may allow more. -/
structure Simulation {Abstract : Type w} {Observation : Type w}
    (step : State → Action → Option State) (observe : State → Action → Observation)
    (move : Abstract → Observation → Abstract → Prop) (related : State → Abstract → Prop) :
    Prop where
  matched : ∀ {s a t b}, related s b → step s a = some t →
    ∃ c, move b (observe s a) c ∧ related t c

/-- Finite sequences of abstract moves with their observations. -/
inductive Moves {Abstract : Type w} {Observation : Type w}
    (move : Abstract → Observation → Abstract → Prop) (start : Abstract) :
    List Observation → Abstract → Prop where
  | zero : Moves move start [] start
  | succ {trace : List Observation} {middle finish : Abstract} {seen : Observation}
      (prior : Moves move start trace middle) (last : move middle seen finish) :
      Moves move start (trace ++ [seen]) finish

/-- What a concrete run shows is something the abstract machine can show. -/
theorem Simulation.run {Abstract Observation : Type w} {observe : State → Action → Observation}
    {move : Abstract → Observation → Abstract → Prop} {related : State → Abstract → Prop}
    (sim : Simulation step observe move related) {start finish : State}
    {log : List (State × Action)} (run : Runs step start log finish) {abstract : Abstract}
    (hStart : related start abstract) :
    ∃ final, Moves move abstract (log.map fun entry => observe entry.1 entry.2) final ∧
      related finish final := by
  induction run with
  | zero => exact ⟨abstract, Moves.zero, hStart⟩
  | @succ log middle finish action prior last ih =>
      obtain ⟨between, hMoves, hRelated⟩ := ih
      obtain ⟨final, hMove, hFinal⟩ := sim.matched hRelated last
      exact ⟨final, by simpa using hMoves.succ hMove, hFinal⟩

end Transition
