import WinDV.Engine.SystemMoves
import WinDV.Native.EngineApi
import WinDV.Native.EngineWakeInvariant

/-! How the calls of `windv_engine` stand with its thread and its engine, and that the thread
and its callers keep it so. -/
namespace WinDV

namespace WakingThread

variable {s t : WakingThread}

/-- What a step of a call leaves alone. -/
structure CallFrame (s : WakingThread) (call : Nat) (t : WakingThread) : Prop where
  invoked : t.invoked = s.invoked
  run : t.thread.run = s.thread.run
  ran : t.thread.ran = s.thread.ran
  others : ∀ other, other ≠ call → t.thread.calls other = s.thread.calls other
  goes : settled (s.thread.calls call) = false
  direct : s.thread.calls call ≠ .runDirectly → t.direct = s.direct

theorem CallMove.frame {call : Nat} (h : CallMove s call t) : CallFrame s call t := by
  cases h with
  | decided before | created before | accepted before | refused before | pushed before | woke before
  | served before =>
      constructor
      · rfl
      · rfl
      · rfl
      · exact fun other hOther => EngineThread.setCall_other _ _ hOther
      · rw [before]
        rfl
      · exact fun _ => rfl
  | ranDirectly before =>
      constructor
      · rfl
      · rfl
      · rfl
      · exact fun other hOther => EngineThread.setCall_other _ _ hOther
      · rw [before]
        rfl
      · exact fun hNot => absurd before hNot

/-- An `Invoke` that returns has waited for its task. -/
theorem CallMove.returned_ran {call : Nat} (h : CallMove s call t) (hPlace : s.Place call)
    (hQueued : s.thread.calls call ≠ .runDirectly) (hInvoked : call ∈ s.invoked)
    (hReturned : t.thread.calls call = .returned) : call ∈ s.thread.ran := by
  have hSelf : ∀ (thread : EngineThread) pc, (thread.setCall call pc).calls call = pc :=
    fun thread pc => EngineThread.setCall_self thread call pc
  cases h with
  | decided before after | created before after =>
      rcases after with rfl | rfl <;> simp [hSelf] at hReturned
  | ranDirectly before => exact absurd before hQueued
  | accepted before | pushed before =>
      simp [hSelf] at hReturned
  | refused before stop =>
      have hSettled := hPlace.stopped stop
      simp [before, settled] at hSettled
  | @woke invoked before =>
      have hOf := hPlace.invoked hInvoked
      rw [before] at hOf
      cases invoked with
      | false => cases hOf
      | true => simp [hSelf, PostPc.afterPost] at hReturned
  | served before ran => exact ran

/-- As long as the thread goes on and the event is created, no call runs its task itself. -/
theorem callStep_queued {call : Nat} (h : s.callStep call false = some t) (hPlace : s.Place call) :
    t.thread.calls call ≠ .runDirectly := by
  obtain ⟨thread, hThread, rfl⟩ := Option.map_eq_some_iff.mp h
  have hPc : thread.calls call ≠ .runDirectly := by
    unfold EngineThread.callStep at hThread
    cases hCall : s.thread.calls call with
    | notCalled | returned => simp [hCall] at hThread
    | checkInvoke =>
        simp only [hCall, Option.some.injEq] at hThread
        subst hThread
        rw [EngineThread.setCall_self]
        split_ifs with hStop
        · have hSettled := hPlace.stopped hStop
          simp [hCall, settled] at hSettled
        · simp
    | awaiting =>
        simp only [hCall] at hThread
        split_ifs at hThread
        cases hThread
        rw [EngineThread.setCall_self]
        simp
    | createEvent | runDirectly | pushing =>
        simp only [hCall, Option.some.injEq] at hThread
        subst hThread
        rw [EngineThread.setCall_self]
        simp
    | settingWake invoked =>
        simp only [hCall, Option.some.injEq] at hThread
        subst hThread
        rw [EngineThread.setCall_self]
        cases invoked <;> simp [PostPc.afterPost]
    | checkPost invoked =>
        simp only [hCall, Option.some.injEq] at hThread
        subst hThread
        rw [EngineThread.setCall_self]
        cases invoked <;> split_ifs <;> simp [PostPc.afterPost]
  cases s.thread.calls call <;> exact hPc

end WakingThread

namespace Config

variable {env : Environment} {ans : Answer} {c c' : Config} {request : Request}

/-- A step of a call goes on with the call or ends it. -/
theorem callStep_call {pc : CallPc} (h : callStep env ans c request pc = .next c') :
    (∃ next, c'.call = .busy request next) ∨ ∃ result, c'.call = .exited request result := by
  have hGoto : ∀ (d : Config) next, c' = d.goto request next → ∃ next, c'.call = .busy request next :=
    fun d next hNext => ⟨next, by rw [hNext]; rfl⟩
  have hExit : ∀ (d : Config) result, c' = d.exit request result →
      ∃ result, c'.call = .exited request result :=
    fun d result hEnd => ⟨result, by rw [hEnd]; rfl⟩
  cases pc with
  | destroy pc =>
      cases pc <;> simp only [callStep, destroyStep] at h <;> (repeat' split at h) <;> cases h <;>
        first | exact Or.inl (hGoto _ _ rfl) | exact Or.inr (hExit _ _ rfl)
  | build pc =>
      cases pc <;> simp only [callStep, buildStep, attempt] at h <;> (repeat' split at h) <;>
        first
        | (cases command_next h; exact Or.inl (hGoto _ _ rfl))
        | (cases Outcome.next.inj (Outcome.require_next.mp h).2; exact Or.inl (hGoto _ _ rfl))
        | (cases Outcome.next.inj (Outcome.require_next.mp h).2; exact Or.inr (hExit _ _ rfl))
        | (cases h; exact Or.inl (hGoto _ _ rfl))
        | (cases h; exact Or.inr (hExit _ _ rfl))
  | start pc =>
      cases pc <;> simp only [callStep, startStep] at h <;> (repeat' split at h) <;>
        first
        | (cases command_next h; exact Or.inr (hExit _ _ rfl))
        | (cases h; exact Or.inl (hGoto _ _ rfl))
        | (cases h; exact Or.inr (hExit _ _ rfl))
  | control pc =>
      cases pc <;> simp only [callStep, controlStep] at h <;> (repeat' split at h) <;>
        first
        | (cases command_next h; exact Or.inr (hExit _ _ rfl))
        | (cases h; exact Or.inl (hGoto _ _ rfl))
        | (cases h; exact Or.inr (hExit _ _ rfl))

/-- What a step of the controlling thread does to its call. -/
theorem control_call (h : c.step env (.control ans) = some c') :
    ∃ request pc, c.call = .busy request pc ∧
      ((∃ next, c'.call = .busy request next) ∨ ∃ result, c'.call = .exited request result) := by
  cases step_move h with
  | control busy step => exact ⟨_, _, busy, callStep_call step⟩

/-- An engine that is in no call can begin one. -/
theorem begins (hFree : ∀ other pc, c.call ≠ .busy other pc) (request : Request) :
    (c.step env (.begin request)).isSome = true := by
  simp only [step, outcome]
  cases hCall : c.call with
  | busy other pc => exact absurd hCall (hFree other pc)
  | ready | exited => rfl

/-- The other threads leave the call alone. -/
theorem beside_call {action : WinDV.Action} (h : c.step env action = some c')
    (hBeside : EngineApi.controls action = false) : c'.call = c.call := by
  cases step_move h with
  | begin | control => cases hBeside
  | capture | record | deliver | callback | tick | setOptions | takeError => rfl

end Config

namespace EngineApi

open Transition

variable {env : Environment} {request : Nat → Request} {s t : EngineApi}

theorem begun_append (first second : List (Config × WinDV.Action)) :
    begun (first ++ second) = begun first ++ begun second := List.filterMap_append ..

theorem ended_append (first second : List (Config × WinDV.Action)) :
    ended env (first ++ second) = ended env first ++ ended env second := List.filterMap_append ..

/-- The call the engine is at. -/
def current (s : EngineApi) : Option Nat :=
  match s.engine.call with
  | .busy _ _ => s.task
  | _ => none

theorem current_busy {other : Request} {pc : CallPc} (h : s.engine.call = .busy other pc) : s.current = s.task := by
  rw [current, h]

theorem current_congr (hCall : t.engine.call = s.engine.call) (hTask : t.task = s.task) :
    t.current = s.current := by
  rw [current, current, hCall, hTask]

/-- How far a call has come. -/
inductive Phase where
  | absent
  | waiting
  | executing
  | done (result : Result)
  | returned (result : Result)

/-- What has been seen of it by then. -/
def Phase.events (call : Nat) : Phase → List (Linear.Event Nat Result)
  | absent => []
  | waiting => [.invoked call]
  | executing => [.invoked call, .began call]
  | done result => [.invoked call, .began call, .finished call result]
  | returned result => Linear.course call result

def phase (s : EngineApi) (call : Nat) : Phase :=
  if call ∉ s.waking.invoked then .absent
  else
    match s.results call with
    | some result => if s.waking.thread.calls call = .returned then .returned result else .done result
    | none => if s.current = some call then .executing else .waiting

/-- The engine's side of a history: a run in which it has done those calls. -/
structure Serial (env : Environment) (request : Nat → Request) (s : EngineApi) (done : List (Nat × Result))
    (log : List (Config × WinDV.Action)) : Prop where
  serves : Linear.Serves done s.current s.events
  run : Runs (Config.step env) {} log s.engine
  begun : begun log = done.map (fun entry => request entry.1) ++ s.current.toList.map request
  ended : ended env log = done.map fun entry => (request entry.1, entry.2)

/-- What holds of the calls as long as the destructor is left alone and `CreateEventW` succeeds. -/
structure Linked (env : Environment) (request : Nat → Request) (s : EngineApi) : Prop where
  sound : s.waking.Sound
  queued : ∀ call, s.waking.thread.calls call ≠ .runDirectly
  direct : s.waking.direct = []
  executes : s.executing = true → ∃ task, s.task = some task ∧
    ((∃ pc, s.engine.call = .busy (request task) pc) ∧ s.results task = none ∨
      ∃ result, s.engine.call = .exited (request task) result ∧ s.results task = some result)
  rests : s.executing = false → s.current = none ∧ ∀ other pc, s.engine.call ≠ .busy other pc
  known : ∀ call, (s.results call).isSome = true →
    call ∈ s.waking.invoked ∧ (call ∈ s.waking.thread.ran ∨ s.executing = true ∧ s.task = some call)
  ran : ∀ call ∈ s.waking.thread.ran, call ∈ s.waking.invoked → (s.results call).isSome = true
  shown : ∀ call, Linear.of call s.events = (s.phase call).events call
  serial : ∃ done log, Serial env request s done log

/-- The destructor is left alone, and `CreateEventW` succeeds. -/
def Proper (entry : EngineApi × Action) : Prop :=
  match entry.2 with
  | .thread action =>
      WakingThread.Exclusive (entry.1.waking, action) ∧ ∀ call, action ≠ .call call true
  | _ => True

section Steps

theorem task_iff {call : Nat} :
    s.task = some call ↔ s.waking.thread.run = .runTask call ∧ call ∈ s.waking.invoked := by
  unfold task
  cases hRun : s.waking.thread.run with
  | runTask other =>
      show (if other ∈ s.waking.invoked then some other else none) = some call ↔ _
      split_ifs with hInvoked
      · constructor
        · intro hSame
          cases hSame
          exact ⟨rfl, hInvoked⟩
        · rintro ⟨hSame, -⟩
          cases hSame
          rfl
      · constructor
        · intro hNone
          cases hNone
        · rintro ⟨hSame, hIn⟩
          cases hSame
          exact absurd hIn hInvoked
  | _ => simp

/-- The task on the thread has been pushed, and it has not been run before. -/
theorem Linked.task_fresh {call : Nat} (h : s.Linked env request) (hTask : s.task = some call) :
    call ∈ s.waking.thread.pushed ∧ call ∉ s.waking.thread.ran := by
  have hRun := (task_iff.mp hTask).1
  have hOrder := h.sound.queued.order
  have hNodup := h.sound.queued.nodup
  rw [hOrder, hRun] at hNodup
  rw [hOrder, hRun]
  refine ⟨by simp [EngineThread.inHand], fun hRan => ?_⟩
  have hFront := (List.nodup_append.mp hNodup).1
  exact (List.nodup_append.mp hFront).2.2 call hRan call (by simp [EngineThread.inHand]) rfl

/-- Its caller waits. -/
theorem Linked.task_waits {call : Nat} (h : s.Linked env request) (hTask : s.task = some call) :
    s.waking.thread.calls call ≠ .returned := by
  intro hReturned
  rcases (h.sound.placed.each call).served (task_iff.mp hTask).2 hReturned with hRan | hDirect
  · exact (h.task_fresh hTask).2 hRan
  · rw [h.direct] at hDirect
    cases hDirect

/-- A new event brings its call on. -/
theorem shown_concat {event : Linear.Event Nat Result}
    (h : ∀ call, Linear.of call s.events = (s.phase call).events call) (hEvents : t.events = s.events ++ [event])
    (hOthers : ∀ call, call ≠ event.op → t.phase call = s.phase call)
    (hOwn : (t.phase event.op).events event.op = (s.phase event.op).events event.op ++ [event]) (call : Nat) :
    Linear.of call t.events = (t.phase call).events call := by
  rw [hEvents, Linear.of_concat]
  split_ifs with hOp
  · rw [← hOp, hOwn, h]
  · rw [hOthers call (Ne.symm hOp), h]

/-- A call that has not moved. -/
theorem phase_same {call : Nat} (hInvoked : call ∈ t.waking.invoked ↔ call ∈ s.waking.invoked)
    (hResults : t.results call = s.results call)
    (hCalls : call ∈ s.waking.invoked →
      (t.waking.thread.calls call = .returned ↔ s.waking.thread.calls call = .returned))
    (hCurrent : t.current = some call ↔ s.current = some call) : t.phase call = s.phase call := by
  unfold phase
  by_cases hIn : call ∈ s.waking.invoked
  · rw [if_neg (not_not.mpr hIn), if_neg (not_not.mpr (hInvoked.mpr hIn)), hResults]
    simp only [hCalls hIn, hCurrent]
  · rw [if_pos hIn, if_pos (mt hInvoked.mp hIn)]

/-- The engine moves and stays at the same call. -/
theorem phase_stays {engine : Config} (hStays : current { s with engine } = s.current) (call : Nat) :
    phase { s with engine } call = s.phase call := by
  apply phase_same
  · exact Iff.rfl
  · rfl
  · exact fun _ => Iff.rfl
  · rw [hStays]

theorem current_none (h : ∀ other pc, s.engine.call ≠ .busy other pc) : s.current = none := by
  unfold current
  cases hCall : s.engine.call with
  | busy other pc => exact absurd hCall (h other pc)
  | ready | exited => rfl

/-- What is known of a step of the thread that is no step of a task. -/
structure Passes (s : EngineApi) (waking : WakingThread) : Prop where
  queued : ∀ call, waking.thread.calls call ≠ .runDirectly
  direct : waking.direct = []
  task : ∀ call, s.task = some call → waking.thread.run = .runTask call
  invoked : ∀ call ∈ s.waking.invoked, call ∈ waking.invoked
  kept : ∀ call ∈ s.waking.thread.ran, call ∈ waking.thread.ran
  ran : ∀ call ∈ waking.thread.ran, call ∈ waking.invoked →
    call ∈ s.waking.thread.ran ∧ call ∈ s.waking.invoked

/-- Such a step leaves the engine where it is. -/
theorem Linked.current_same {waking : WakingThread} {events : List (Linear.Event Nat Result)}
    (h : s.Linked env request) (hPasses : s.Passes waking) : current { s with waking, events } = s.current := by
  by_cases hExecuting : s.executing = true
  · obtain ⟨call, hTask, -⟩ := h.executes hExecuting
    have hSame : task { s with waking, events } = s.task := by
      rw [hTask]
      exact task_iff.mpr ⟨hPasses.task call hTask, hPasses.invoked call (task_iff.mp hTask).2⟩
    unfold current
    rw [hSame]
  · have hFree := (h.rests (Bool.not_eq_true _ ▸ hExecuting)).2
    rw [current_none hFree]
    exact current_none hFree

theorem Linked.thread {waking : WakingThread} {new : List (Linear.Event Nat Result)} (h : s.Linked env request)
    (hSound : waking.Sound) (hPasses : s.Passes waking)
    (hServes : ∀ done current, Linear.Serves done current s.events →
      Linear.Serves done current (s.events ++ new))
    (hShown : ∀ call, Linear.of call (s.events ++ new) =
      (phase { s with waking, events := s.events ++ new } call).events call) :
    Linked env request { s with waking, events := s.events ++ new } := by
  have hCurrent : current { s with waking, events := s.events ++ new } = s.current := h.current_same hPasses
  have hTask : ∀ call, s.task = some call → task { s with waking, events := s.events ++ new } = some call :=
    fun call hTask => task_iff.mpr ⟨hPasses.task call hTask, hPasses.invoked call (task_iff.mp hTask).2⟩
  constructor
  · exact hSound
  · exact hPasses.queued
  · exact hPasses.direct
  · intro hExecuting
    obtain ⟨call, hOn, hState⟩ := h.executes hExecuting
    exact ⟨call, hTask call hOn, hState⟩
  · intro hExecuting
    obtain ⟨hNone, hFree⟩ := h.rests hExecuting
    exact ⟨hCurrent.trans hNone, hFree⟩
  · intro call hKnown
    obtain ⟨hInvoked, hRan | ⟨hExecuting, hOn⟩⟩ := h.known call hKnown
    · exact ⟨hPasses.invoked call hInvoked, Or.inl (hPasses.kept call hRan)⟩
    · exact ⟨hPasses.invoked call hInvoked, Or.inr ⟨hExecuting, hTask call hOn⟩⟩
  · intro call hRan hInvoked
    obtain ⟨hOld, hBefore⟩ := hPasses.ran call hRan hInvoked
    exact h.ran call hOld hBefore
  · exact hShown
  · obtain ⟨done, log, hSerial⟩ := h.serial
    refine ⟨done, log, ?_, hSerial.run, ?_, hSerial.ended⟩
    · rw [hCurrent]
      exact hServes done _ hSerial.serves
    · rw [hCurrent]
      exact hSerial.begun

/-- Such a step of which nothing is seen. -/
theorem Linked.silent {waking : WakingThread} (h : s.Linked env request) (hSound : waking.Sound)
    (hPasses : s.Passes waking) (hInvoked : waking.invoked = s.waking.invoked)
    (hCalls : ∀ call ∈ s.waking.invoked,
      (waking.thread.calls call = .returned ↔ s.waking.thread.calls call = .returned)) :
    Linked env request { s with waking, events := s.events ++ [] } := by
  apply h.thread hSound hPasses
  · intro done current hServes
    rwa [List.append_nil]
  · intro call
    have hSame : phase { s with waking, events := s.events ++ [] } call = s.phase call := by
      apply phase_same
      · show call ∈ waking.invoked ↔ call ∈ s.waking.invoked
        rw [hInvoked]
      · rfl
      · exact hCalls call
      · rw [h.current_same hPasses]
    rw [hSame, List.append_nil]
    exact h.shown call

/-- The thread goes on and the calls stay as they are. -/
theorem Passes.same {waking : WakingThread} (h : s.Linked env request)
    (hCalls : waking.thread.calls = s.waking.thread.calls) (hDirect : waking.direct = s.waking.direct)
    (hInvoked : waking.invoked = s.waking.invoked) (hRan : waking.thread.ran = s.waking.thread.ran)
    (hTask : ∀ call, s.task = some call → waking.thread.run = .runTask call) : s.Passes waking := by
  constructor
  · rw [hCalls]
    exact h.queued
  · rw [hDirect]
    exact h.direct
  · exact hTask
  · rw [hInvoked]
    exact fun _ hCall => hCall
  · rw [hRan]
    exact fun _ hCall => hCall
  · rw [hRan, hInvoked]
    exact fun _ hOld hCall => ⟨hOld, hCall⟩

/-- `Run` takes a step that ends no `Call`. -/
theorem Linked.runMove {waking : WakingThread} (h : s.Linked env request) (hMove : s.waking.RunMove waking)
    (hNone : s.task = none) : s.Passes waking := by
  have hNo : ∀ call, s.task = some call → waking.thread.run = .runTask call := by
    intro call hTask
    rw [hNone] at hTask
    cases hTask
  cases hMove with
  | foundNone | foundTask | leaves | stays | ticked | notYet | woken => exact .same h rfl rfl rfl rfl hNo
  | @ran task pc =>
      refine ⟨h.queued, h.direct, hNo, fun _ hCall => hCall, fun _ hCall => List.mem_append_left _ hCall, ?_⟩
      intro call hRan hInvoked
      rcases List.mem_append.mp hRan with hOld | hNew
      · exact ⟨hOld, hInvoked⟩
      · obtain rfl := List.mem_singleton.mp hNew
        rw [task_iff.mpr ⟨pc, hInvoked⟩] at hNone
        cases hNone

/-- A call takes a step. -/
theorem Linked.callMove {call : Nat} {waking : WakingThread} (h : s.Linked env request)
    (hMove : s.waking.CallMove call waking) (hQueued : waking.thread.calls call ≠ .runDirectly) :
    s.Passes waking := by
  have hFrame := hMove.frame
  constructor
  · intro other
    by_cases hOther : other = call
    · rw [hOther]
      exact hQueued
    · rw [hFrame.others other hOther]
      exact h.queued other
  · rw [hFrame.direct (h.queued call)]
    exact h.direct
  · intro other hTask
    rw [hFrame.run]
    exact (task_iff.mp hTask).1
  · rw [hFrame.invoked]
    exact fun _ hCall => hCall
  · rw [hFrame.ran]
    exact fun _ hCall => hCall
  · rw [hFrame.ran, hFrame.invoked]
    exact fun _ hOld hCall => ⟨hOld, hCall⟩

/-- An `Invoke` returns what its task has left. -/
theorem Linked.returns {call : Nat} {waking : WakingThread} (h : s.Linked env request) (hSound : waking.Sound)
    (hMove : s.waking.CallMove call waking) (hPasses : s.Passes waking) (hInvoked : call ∈ s.waking.invoked)
    (hReturned : waking.thread.calls call = .returned) :
    Linked env request
      { s with waking, events := s.events ++ [.returned call ((s.results call).getD .ok)] } := by
  have hFrame := hMove.frame
  have hRan := hMove.returned_ran (h.sound.placed.each call) (h.queued call) hInvoked hReturned
  obtain ⟨result, hResult⟩ := Option.isSome_iff_exists.mp (h.ran call hRan hInvoked)
  have hBefore : s.waking.thread.calls call ≠ .returned := by
    intro hSame
    have hGoes := hFrame.goes
    rw [hSame] at hGoes
    cases hGoes
  have hIn : call ∈ waking.invoked := hPasses.invoked call hInvoked
  apply h.thread hSound hPasses
  · exact fun done current hServes => hServes.returned call _
  · rw [hResult]
    apply shown_concat (t := { s with waking, events := s.events ++ [.returned call result] }) h.shown rfl
    · intro other hOther
      apply phase_same
      · show other ∈ waking.invoked ↔ other ∈ s.waking.invoked
        rw [hFrame.invoked]
      · rfl
      · intro _
        show waking.thread.calls other = .returned ↔ s.waking.thread.calls other = .returned
        rw [hFrame.others other hOther]
      · rw [h.current_same hPasses]
    · simp [phase, Linear.Event.op, hIn, hInvoked, hResult, hReturned, hBefore, Phase.events, Linear.course]

/-- A call is made. -/
theorem Linked.invokes {call : Nat} (h : s.Linked env request)
    (hFresh : s.waking.thread.calls call = .notCalled) {waking : WakingThread}
    (hWaking : waking = { s.waking with
      thread := s.waking.thread.setCall call .checkInvoke
      begun := s.waking.begun ++ [call]
      invoked := s.waking.invoked ++ [call] }) (hSound : waking.Sound) :
    Linked env request { s with waking, events := s.events ++ [.invoked call] } := by
  have hNew : call ∉ s.waking.invoked := by
    intro hCall
    have hOf := (h.sound.placed.each call).invoked hCall
    rw [hFresh] at hOf
    cases hOf
  have hUnseen : s.results call = none := by
    apply Option.not_isSome_iff_eq_none.mp
    exact fun hKnown => hNew (h.known call hKnown).1
  have hNotRan : call ∉ s.waking.thread.ran := by
    intro hRan
    have hPushed : call ∈ s.waking.thread.pushed := by
      rw [h.sound.queued.order]
      exact List.mem_append_left _ (List.mem_append_left _ hRan)
    have hHas := h.sound.queued.calls call hPushed
    simp [hFresh, EngineThread.hasPushed] at hHas
  have hOthers : ∀ other, other ≠ call → waking.thread.calls other = s.waking.thread.calls other := by
    intro other hOther
    rw [hWaking]
    exact EngineThread.setCall_other _ _ hOther
  have hPasses : s.Passes waking := by
    constructor
    · intro other
      by_cases hOther : other = call
      · rw [hOther, hWaking]
        show (s.waking.thread.setCall call .checkInvoke).calls call ≠ _
        rw [EngineThread.setCall_self]
        simp
      · rw [hOthers other hOther]
        exact h.queued other
    · rw [hWaking]
      exact h.direct
    · intro other hTask
      rw [hWaking]
      exact (task_iff.mp hTask).1
    · rw [hWaking]
      exact fun _ hCall => List.mem_append_left _ hCall
    · rw [hWaking]
      exact fun _ hCall => hCall
    · rw [hWaking]
      intro other hRan hInvoked
      refine ⟨hRan, (List.mem_append.mp hInvoked).resolve_right fun hIs => hNotRan ?_⟩
      rw [← List.mem_singleton.mp hIs]
      exact hRan
  have hNotCurrent : s.current ≠ some call := by
    intro hCurrent
    unfold current at hCurrent
    cases hCall : s.engine.call with
    | busy other pc =>
        rw [hCall] at hCurrent
        exact hNew (task_iff.mp hCurrent).2
    | ready | exited =>
        rw [hCall] at hCurrent
        cases hCurrent
  apply h.thread hSound hPasses
  · exact fun done current hServes => hServes.invoked call
  · apply shown_concat (t := { s with waking, events := s.events ++ [.invoked call] }) h.shown rfl
    · intro other hOther
      apply phase_same
      · show other ∈ waking.invoked ↔ other ∈ s.waking.invoked
        rw [hWaking]
        have hNot : other ≠ call := hOther
        simp [hNot]
      · rfl
      · intro _
        show waking.thread.calls other = .returned ↔ s.waking.thread.calls other = .returned
        rw [hOthers other hOther]
      · rw [h.current_same hPasses]
    · have hIn : call ∈ waking.invoked := by
        rw [hWaking]
        simp
      have hStays : current { s with waking, events := s.events ++ [.invoked call] } ≠ some call := by
        rw [h.current_same hPasses]
        exact hNotCurrent
      simp [phase, Linear.Event.op, hIn, hNew, hUnseen, hStays, Phase.events]

/-- A step of the thread that is no step of a task. -/
theorem Linked.threadStep {action : WakingThread.Action} {waking : WakingThread} (h : s.Linked env request)
    (hProper : Proper (s, .thread action)) (hAllowed : s.allowed request action = true)
    (hStep : s.waking.step action = some waking) :
    Linked env request { s with waking, events := s.events ++ s.seen waking action } := by
  have hSound : waking.Sound := h.sound.step hProper.1 hStep
  have hTask : ∀ call, s.task = some call → s.waking.thread.run = .runTask call :=
    fun call hOn => (task_iff.mp hOn).1
  cases WakingThread.step_move hStep with
  | @post call fresh =>
      have hNot : call ∉ s.waking.invoked := by
        intro hCall
        have hOf := (h.sound.placed.each call).invoked hCall
        rw [fresh] at hOf
        cases hOf
      apply h.silent hSound
      · refine ⟨fun other => ?_, h.direct, hTask, fun _ hCall => hCall, fun _ hCall => hCall,
          fun _ hOld hCall => ⟨hOld, hCall⟩⟩
        by_cases hOther : other = call
        · rw [hOther, EngineThread.setCall_self]
          simp
        · rw [EngineThread.setCall_other _ _ hOther]
          exact h.queued other
      · rfl
      · intro other hInvoked
        have hOther : other ≠ call := fun hSame => hNot (hSame ▸ hInvoked)
        rw [EngineThread.setCall_other _ _ hOther]
  | invoke fresh => exact h.invokes fresh rfl hSound
  | destroy | input | advance | wakes | joins =>
      exact h.silent hSound (.same h rfl rfl rfl rfl hTask) rfl fun _ _ => Iff.rfl
  | timeout pc =>
      apply h.silent hSound (.same h rfl rfl rfl rfl _) rfl fun _ _ => Iff.rfl
      intro call hOn
      cases pc.symm.trans (hTask call hOn)
  | run move =>
      have hNone : s.task = none := Option.isNone_iff_eq_none.mp hAllowed
      have hPasses := h.runMove move hNone
      apply h.silent hSound hPasses
      · cases move <;> rfl
      · cases move <;> exact fun _ _ => Iff.rfl
  | @call _ call eventFailed move =>
      have hCreated : eventFailed = false := by
        cases eventFailed with
        | false => rfl
        | true => exact absurd rfl (hProper.2 call)
      subst hCreated
      have hPasses := h.callMove move (WakingThread.callStep_queued hStep (h.sound.placed.each call))
      by_cases hReturns : call ∈ s.waking.invoked ∧ waking.thread.calls call = .returned
      · rw [show s.seen waking (.call call false) = _ from if_pos hReturns]
        exact h.returns hSound move hPasses hReturns.1 hReturns.2
      · rw [show s.seen waking (.call call false) = _ from if_neg hReturns]
        apply h.silent hSound hPasses move.frame.invoked
        intro other hInvoked
        by_cases hOther : other = call
        · subst hOther
          have hBefore : s.waking.thread.calls other ≠ .returned := by
            intro hSame
            have hGoes := move.frame.goes
            rw [hSame] at hGoes
            cases hGoes
          exact iff_of_false (fun hAfter => hReturns ⟨hInvoked, hAfter⟩) hBefore
        · rw [move.frame.others other hOther]

end Steps

end EngineApi

end WinDV
