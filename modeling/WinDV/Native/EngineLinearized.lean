import WinDV.Native.EngineLinked

/-! The calls of `windv_engine` come to the engine as those of one thread, each at one point
between its call and its return. -/
namespace WinDV

namespace EngineApi

open Transition

variable {env : Environment} {request : Nat → Request} {s t : EngineApi}

section Steps

/-- The task calls its method, and the engine is free for it. -/
theorem Linked.begins {call : Nat} {engine : Config} (h : s.Linked env request) (hTask : s.task = some call)
    (hExecuting : s.executing = false) (hStep : s.engine.step env (.begin (request call)) = some engine) :
    Linked env request { s with engine, executing := true, events := s.events ++ [.began call] } := by
  have hBusy : engine.call = .busy (request call) (request call).entry := by
    cases Config.step_move hStep with
    | begin free => rfl
  obtain ⟨hInvoked, hFresh⟩ := (task_iff.mp hTask).2, (h.task_fresh hTask).2
  have hUnseen : s.results call = none := by
    apply Option.not_isSome_iff_eq_none.mp
    intro hKnown
    rcases (h.known call hKnown).2 with hRan | ⟨hOld, -⟩
    · exact hFresh hRan
    · rw [hExecuting] at hOld
      cases hOld
  have hNone := (h.rests hExecuting).1
  have hCurrent : current { s with engine, executing := true, events := s.events ++ [.began call] } = some call :=
    (current_busy hBusy).trans hTask
  constructor
  · exact h.sound
  · exact h.queued
  · exact h.direct
  · exact fun _ => ⟨call, hTask, Or.inl ⟨⟨_, hBusy⟩, hUnseen⟩⟩
  · exact fun hNot => by cases hNot
  · intro other hKnown
    obtain ⟨hIn, hRan | ⟨hOld, -⟩⟩ := h.known other hKnown
    · exact ⟨hIn, Or.inl hRan⟩
    · rw [hExecuting] at hOld
      cases hOld
  · exact h.ran
  · apply shown_concat (t := { s with engine, executing := true, events := s.events ++ [.began call] }) h.shown rfl
    · intro other hOther
      apply phase_same
      · exact Iff.rfl
      · rfl
      · exact fun _ => Iff.rfl
      · have hNot : call ≠ other := Ne.symm hOther
        rw [hCurrent, hNone]
        simp [hNot]
    · simp [phase, Linear.Event.op, hInvoked, hUnseen, hCurrent, hNone, Phase.events]
  · obtain ⟨done, log, hSerial⟩ := h.serial
    have hServes := hSerial.serves
    have hBegun := hSerial.begun
    rw [hNone] at hServes hBegun
    refine ⟨done, log ++ [(s.engine, .begin (request call))], ?_, hSerial.run.succ hStep, ?_, ?_⟩
    · rw [hCurrent]
      exact hServes.began call
    · rw [hCurrent, begun_append, hBegun]
      show (_ ++ []) ++ [request call] = _ ++ [request call]
      rw [List.append_nil]
    · rw [ended_append]
      show ended env log ++ [] = _
      rw [List.append_nil]
      exact hSerial.ended

/-- The task is inside its method. -/
theorem Linked.inside {call : Nat} {pc : CallPc} {other : Request} (h : s.Linked env request)
    (hTask : s.task = some call) (hExecuting : s.executing = true) (hBusy : s.engine.call = .busy other pc) :
    other = request call ∧ s.results call = none ∧ s.current = some call := by
  have hCurrent : s.current = some call := by
    unfold current
    rw [hBusy]
    exact hTask
  obtain ⟨running, hOn, hState⟩ := h.executes hExecuting
  obtain rfl : running = call := Option.some.inj (hOn.symm.trans hTask)
  rcases hState with ⟨⟨at_, hCall⟩, hNone⟩ | ⟨result, hCall, -⟩
  · obtain ⟨hSame, -⟩ := Call.busy.inj (hBusy.symm.trans hCall)
    exact ⟨hSame, hNone, hCurrent⟩
  · cases hBusy.symm.trans hCall

/-- The method goes on. -/
theorem Linked.goesOn {ans : Answer} {call : Nat} {engine : Config} {pc : CallPc} (h : s.Linked env request)
    (hTask : s.task = some call) (hExecuting : s.executing = true) (hCurrent : s.current = some call)
    (hUnseen : s.results call = none) (hStep : s.engine.step env (.control ans) = some engine)
    (hBusy : engine.call = .busy (request call) pc) : Linked env request { s with engine } := by
  have hStays : current { s with engine } = s.current := by
    rw [hCurrent]
    exact (current_busy hBusy).trans hTask
  constructor
  · exact h.sound
  · exact h.queued
  · exact h.direct
  · exact fun _ => ⟨call, hTask, Or.inl ⟨⟨pc, hBusy⟩, hUnseen⟩⟩
  · intro hNot
    cases hExecuting.symm.trans hNot
  · exact h.known
  · exact h.ran
  · intro other
    rw [phase_stays hStays]
    exact h.shown other
  · obtain ⟨done, log, hSerial⟩ := h.serial
    refine ⟨done, log ++ [(s.engine, .control ans)], ?_, hSerial.run.succ hStep, ?_, ?_⟩
    · rw [hStays]
      exact hSerial.serves
    · rw [hStays, begun_append]
      show EngineApi.begun log ++ [] = _
      rw [List.append_nil]
      exact hSerial.begun
    · have hNone : ended env [(s.engine, .control ans)] = [] := by
        simp [ended, hStep, hBusy]
      rw [ended_append, hNone, List.append_nil]
      exact hSerial.ended

/-- The method is over. -/
theorem Linked.ends {ans : Answer} {call : Nat} {engine : Config} {result : Result} (h : s.Linked env request)
    (hTask : s.task = some call) (hExecuting : s.executing = true) (hCurrent : s.current = some call)
    (hUnseen : s.results call = none) (hStep : s.engine.step env (.control ans) = some engine)
    (hExited : engine.call = .exited (request call) result) :
    Linked env request { s with
      engine, results := Function.update s.results call (some result)
      events := s.events ++ [.finished call result] } := by
  have hInvoked := (task_iff.mp hTask).2
  have hSelf : Function.update s.results call (some result) call = some result := Function.update_self ..
  have hOther : ∀ other, other ≠ call →
      Function.update s.results call (some result) other = s.results other :=
    fun other hNot => Function.update_of_ne hNot ..
  have hNone : current { s with
      engine, results := Function.update s.results call (some result)
      events := s.events ++ [.finished call result] } = none := by
    apply current_none
    intro other pc hBusy
    cases hExited.symm.trans hBusy
  constructor
  · exact h.sound
  · exact h.queued
  · exact h.direct
  · exact fun _ => ⟨call, hTask, Or.inr ⟨result, hExited, hSelf⟩⟩
  · intro hNot
    cases hExecuting.symm.trans hNot
  · intro other hKnown
    by_cases hSame : other = call
    · rw [hSame]
      exact ⟨hInvoked, Or.inr ⟨hExecuting, hTask⟩⟩
    · apply h.known other
      rw [← hOther other hSame]
      exact hKnown
  · intro other hRan hIn
    show (Function.update s.results call (some result) other).isSome = true
    by_cases hSame : other = call
    · rw [hSame, hSelf]
      rfl
    · rw [hOther other hSame]
      exact h.ran other hRan hIn
  · apply shown_concat (t := { s with
      engine, results := Function.update s.results call (some result)
      events := s.events ++ [.finished call result] }) h.shown rfl
    · intro other hDiffers
      have hNot : call ≠ other := Ne.symm hDiffers
      apply phase_same
      · exact Iff.rfl
      · exact hOther other hDiffers
      · exact fun _ => Iff.rfl
      · rw [hNone, hCurrent]
        simp [hNot]
    · have hWaits := h.task_waits hTask
      simp [phase, Linear.Event.op, hInvoked, hUnseen, hCurrent, hWaits, Phase.events]
  · obtain ⟨done, log, hSerial⟩ := h.serial
    have hServes := hSerial.serves
    have hBegun := hSerial.begun
    rw [hCurrent] at hServes hBegun
    refine ⟨done ++ [(call, result)], log ++ [(s.engine, .control ans)], ?_, hSerial.run.succ hStep, ?_, ?_⟩
    · rw [hNone]
      exact hServes.finished result
    · rw [hNone, begun_append]
      show EngineApi.begun log ++ [] = _
      rw [hBegun]
      simp
    · have hOne : ended env [(s.engine, .control ans)] = [(request call, result)] := by
        simp [ended, hStep, hExited]
      rw [ended_append, hOne, hSerial.ended, List.map_append]
      rfl

/-- The task ends behind its method. -/
theorem Linked.finishes {waking : WakingThread} (h : s.Linked env request) (hExecuting : s.executing = true)
    (hFree : ∀ other pc, s.engine.call ≠ .busy other pc) (hStep : s.waking.step .run = some waking) :
    Linked env request { s with waking, executing := false } := by
  obtain ⟨call, hTask, hState⟩ := h.executes hExecuting
  have hResult : ∃ result, s.results call = some result := by
    rcases hState with ⟨⟨pc, hBusy⟩, -⟩ | ⟨result, -, hResult⟩
    · exact absurd hBusy (hFree _ pc)
    · exact ⟨result, hResult⟩
  have hSound : waking.Sound := h.sound.step (WakingThread.own_exclusive rfl) hStep
  have hNone : current { s with waking, executing := false } = none := current_none hFree
  cases WakingThread.step_move hStep with
  | run move =>
  cases move with
  | @ran task pc =>
      obtain rfl : task = call := by
        have hSame := pc.symm.trans (task_iff.mp hTask).1
        exact (RunPc.runTask.inj hSame)
      constructor
      · exact hSound
      · exact h.queued
      · exact h.direct
      · exact fun hNot => by cases hNot
      · exact fun _ => ⟨hNone, hFree⟩
      · intro other hKnown
        obtain ⟨hIn, hRan | ⟨-, hOn⟩⟩ := h.known other hKnown
        · exact ⟨hIn, Or.inl (List.mem_append_left _ hRan)⟩
        · obtain rfl : task = other := Option.some.inj (hTask.symm.trans hOn)
          exact ⟨hIn, Or.inl (by simp)⟩
      · intro other hRan hIn
        rcases List.mem_append.mp hRan with hOld | hNew
        · exact h.ran other hOld hIn
        · obtain ⟨result, hResult⟩ := hResult
          rw [List.mem_singleton.mp hNew]
          exact Option.isSome_iff_exists.mpr ⟨result, hResult⟩
      · intro other
        have hSame : phase { s with
            waking := { s.waking with
              thread := { s.waking.thread with ran := s.waking.thread.ran ++ [task], run := .takeTask }
              input := false }
            executing := false } other = s.phase other := by
          apply phase_same
          · exact Iff.rfl
          · rfl
          · exact fun _ => Iff.rfl
          · rw [hNone, current_none hFree]
        rw [hSame]
        exact h.shown other
      · obtain ⟨done, log, hSerial⟩ := h.serial
        have hServes := hSerial.serves
        have hBegun := hSerial.begun
        rw [current_none hFree] at hServes hBegun
        refine ⟨done, log, ?_, hSerial.run, ?_, hSerial.ended⟩
        · rw [hNone]
          exact hServes
        · rw [hNone]
          exact hBegun
  | foundNone pc | foundTask pc | leaves pc | stays pc | ticked pc | notYet pc | woken pc =>
      cases pc.symm.trans (task_iff.mp hTask).1

/-- The engine goes on beside its calls. -/
theorem Linked.beside {action : WinDV.Action} {engine : Config} (h : s.Linked env request)
    (hBeside : controls action = false) (hStep : s.engine.step env action = some engine) :
    Linked env request { s with engine } := by
  have hCall := Config.beside_call hStep hBeside
  have hStays : current { s with engine } = s.current := current_congr hCall rfl
  constructor
  · exact h.sound
  · exact h.queued
  · exact h.direct
  · show s.executing = true → ∃ call, s.task = some call ∧
      ((∃ pc, engine.call = _) ∧ _ ∨ ∃ result, engine.call = _ ∧ _)
    rw [hCall]
    exact h.executes
  · show s.executing = false → current { s with engine } = none ∧ ∀ other pc, engine.call ≠ .busy other pc
    rw [hCall, hStays]
    exact h.rests
  · exact h.known
  · exact h.ran
  · intro other
    rw [phase_stays hStays]
    exact h.shown other
  · obtain ⟨done, log, hSerial⟩ := h.serial
    refine ⟨done, log ++ [(s.engine, action)], ?_, hSerial.run.succ hStep, ?_, ?_⟩
    · rw [hStays]
      exact hSerial.serves
    · have hNone : EngineApi.begun [(s.engine, action)] = [] := by
        cases action with
        | begin | control => cases hBeside
        | _ => rfl
      rw [hStays, begun_append, hNone, List.append_nil]
      exact hSerial.begun
    · have hNone : ended env [(s.engine, action)] = [] := by
        cases action with
        | begin | control => cases hBeside
        | _ => rfl
      rw [ended_append, hNone, List.append_nil]
      exact hSerial.ended

theorem Linked.step {action : Action} (h : s.Linked env request) (hProper : Proper (s, action))
    (hStep : s.step env request action = some t) : t.Linked env request := by
  cases action with
  | thread action =>
      simp only [EngineApi.step] at hStep
      split_ifs at hStep with hAllowed
      obtain ⟨waking, hWaking, rfl⟩ := Option.map_eq_some_iff.mp hStep
      exact h.threadStep hProper hAllowed hWaking
  | begin =>
      simp only [EngineApi.step] at hStep
      cases hTask : s.task with
      | none => simp [hTask] at hStep
      | some call =>
          simp only [hTask] at hStep
          split_ifs at hStep with hExecuting
          obtain ⟨engine, hEngine, rfl⟩ := Option.map_eq_some_iff.mp hStep
          exact h.begins hTask (Bool.not_eq_true _ ▸ hExecuting) hEngine
  | control ans =>
      simp only [EngineApi.step] at hStep
      cases hTask : s.task with
      | none => simp [hTask] at hStep
      | some call =>
          simp only [hTask] at hStep
          split_ifs at hStep with hExecuting
          obtain ⟨engine, hEngine, rfl⟩ := Option.map_eq_some_iff.mp hStep
          obtain ⟨other, pc, hBusy, hNext⟩ := Config.control_call hEngine
          obtain ⟨rfl, hUnseen, hCurrent⟩ := h.inside hTask hExecuting hBusy
          rcases hNext with ⟨next, hNext⟩ | ⟨result, hExited⟩
          · rw [controlled, hNext]
            exact h.goesOn hTask hExecuting hCurrent hUnseen hEngine hNext
          · rw [controlled, hExited]
            exact h.ends hTask hExecuting hCurrent hUnseen hEngine hExited
  | finish =>
      simp only [EngineApi.step] at hStep
      cases hCall : s.engine.call with
      | ready | busy => simp [hCall] at hStep
      | exited other result =>
          simp only [hCall] at hStep
          split_ifs at hStep with hExecuting
          obtain ⟨waking, hWaking, rfl⟩ := Option.map_eq_some_iff.mp hStep
          exact h.finishes hExecuting (by simp [hCall]) hWaking
  | beside action =>
      simp only [EngineApi.step] at hStep
      split_ifs at hStep with hControls
      obtain ⟨engine, hEngine, rfl⟩ := Option.map_eq_some_iff.mp hStep
      exact h.beside (Bool.not_eq_true _ ▸ hControls) hEngine

end Steps

/-- What is seen of each call fits its course. -/
theorem Linked.inOrder (h : s.Linked env request) : Linear.InOrder s.events := by
  intro call
  rw [h.shown call]
  cases s.phase call with
  | absent | waiting | executing => exact ⟨.ok, by simp [Phase.events, Linear.course]⟩
  | done result | returned result => exact ⟨result, by simp [Phase.events, Linear.course]⟩

theorem linked_start (clock : Nat) : (start clock).Linked env request := by
  constructor
  · exact ⟨EngineThread.queued_initial, WakingThread.awake_start, WakingThread.timed_start,
      WakingThread.placed_start⟩
  · intro call
    exact PostPc.noConfusion
  · rfl
  · exact fun hNot => by cases hNot
  · exact fun _ => ⟨rfl, fun _ _ hNot => by cases hNot⟩
  · exact fun _ hNot => by cases hNot
  · exact fun _ hNot => by cases hNot
  · exact fun _ => rfl
  · exact ⟨[], [], .start, .zero, rfl, rfl⟩

/-- To its callers the engine is one that does their calls one after another. -/
structure Linearized (env : Environment) (request : Nat → Request) (s : EngineApi) (done : List (Nat × Result))
    (log : List (Config × WinDV.Action)) : Prop where
  /-- Each call is made, is begun, is over and returns with its result, in this order. -/
  order : Linear.InOrder s.events
  /-- The engine has done these calls, and no others, one at a time, with these results. -/
  serial : Serial env request s done log
  /-- What a call returns is what it was done with. -/
  returns : ∀ call result, .returned call result ∈ s.events → (call, result) ∈ done
  /-- A call that has returned before another is made has been done before it. -/
  time : ∀ first middle last call result other,
    s.events = (first ++ .returned call result :: middle) ++ .invoked other :: last →
      ∃ earlier, earlier <+: done ∧ (call, result) ∈ earlier ∧ ∀ given, (other, given) ∉ earlier
  /-- A task that is to begin its method does not find the engine inside another. -/
  free : ∀ call, s.task = some call → s.executing = false → (s.step env request .begin).isSome = true

/-- As long as the destructor is left alone and `CreateEventW` succeeds, the calls of any
number of threads come to the engine as a run in which one follows the other. -/
theorem engine_api_linearizable {clock : Nat} {log : List (EngineApi × Action)}
    (run : Runs (step env request) (start clock) log s) (hProper : ∀ entry ∈ log, Proper entry) :
    ∃ done engineLog, Linearized env request s done engineLog := by
  have hLinked : s.Linked env request := by
    apply run.invariant_of Proper (Linked env request) (linked_start clock) _ hProper
    exact fun s a t h hEntry hStep => h.step hEntry hStep
  obtain ⟨done, engineLog, hSerial⟩ := hLinked.serial
  refine ⟨done, engineLog, hLinked.inOrder, hSerial, ?_, ?_, ?_⟩
  · intro call result hReturned
    obtain ⟨first, second, hEvents⟩ := List.append_of_mem hReturned
    have hOrder := hLinked.inOrder
    rw [hEvents] at hOrder
    rw [(hSerial.serves.mem_done call result).1, hEvents]
    exact List.mem_append_left _ hOrder.finished_before
  · intro first middle last call result other hEvents
    have hServes := hSerial.serves
    have hOrder := hLinked.inOrder
    rw [hEvents] at hServes hOrder
    exact hServes.respects_time hOrder
  · intro call hTask hExecuting
    have hFree := (hLinked.rests hExecuting).2
    have hBegins : (s.engine.step env (.begin (request call))).isSome = true :=
      Config.begins hFree (request call)
    simp [step, hTask, hExecuting, hBegins]

/-- An action that neither begins the destructor nor fails to create an event. -/
def Action.plain : Action → Bool
  | .thread .destroy | .thread (.call _ true) => false
  | _ => true

/-- Two threads call at the same time; the one whose task is pushed second is done second. -/
theorem engine_api_linearizable_two :
    ∃ log s done engineLog,
      Runs (step .plain fun call => if call = 0 then .stopCapturing else .startRecording) (start 0) log s ∧
        .returned 1 .ok ∈ s.events ∧
        Linearized .plain (fun call => if call = 0 then .stopCapturing else .startRecording) s done
          engineLog := by
  obtain ⟨log, s, run, hTest⟩ := exec_witness
    (step .plain fun call => if call = 0 then .stopCapturing else .startRecording) (start 0)
    ([.thread (.invoke 0), .thread (.invoke 1)] ++ List.replicate 5 (.thread (.call 1 false)) ++
      List.replicate 5 (.thread (.call 0 false)) ++
      [.thread .run, .begin, .control {}, .control {}, .finish, .thread .run, .begin, .control {}, .finish,
        .thread (.call 0 false), .thread (.call 1 false)])
    (fun log s => s.events.contains (.returned 1 .ok) && log.all fun entry =>
      !entry.1.waking.thread.stopRequested && entry.2.plain) (by decide)
  simp only [Bool.and_eq_true, List.all_eq_true, Bool.not_eq_true'] at hTest
  obtain ⟨hReturned, hLog⟩ := hTest
  have hProper : ∀ entry ∈ log, Proper entry := by
    rintro ⟨before, action⟩ hEntry
    obtain ⟨hRunning, hAction⟩ := hLog _ hEntry
    cases action with
    | thread action =>
        cases action with
        | destroy => cases hAction
        | post | invoke => exact ⟨hRunning, by simp⟩
        | call call eventFailed =>
            cases eventFailed with
            | false => exact ⟨trivial, by simp⟩
            | true => cases hAction
        | _ => exact ⟨trivial, by simp⟩
    | _ => trivial
  obtain ⟨done, engineLog, hLinearized⟩ := engine_api_linearizable run hProper
  exact ⟨log, s, done, engineLog, run, by simpa using hReturned, hLinearized⟩

end EngineApi

end WinDV
