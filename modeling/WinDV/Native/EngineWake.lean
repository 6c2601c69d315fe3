import WinDV.Native.AcceptedWork

/-! What `EngineThread` sleeps on: the auto-reset event that `Post` and the
destructor set, the input in the thread's message queue and the timeout that
leads to the next `m_tick`. Each step is one of `EngineThread` or leaves it, so here too the
wait of an `Invoke` does not fail, and nobody calls from the thread itself. -/
namespace WinDV

def kTickIntervalMs : Nat := 200

/-- The thread with its event, whether there is input for it, `GetTickCount64`
and the variables of `Run`. The rest is what has happened: when `m_tick` was
called, the calls made, those of `Invoke`, and the tasks that `Invoke` ran itself. -/
structure WakingThread where
  thread : EngineThread := {}
  wake : Bool := false
  input : Bool := false
  clock : Nat
  now : Nat
  nextTick : Nat
  ticks : List Nat := []
  begun : List Nat := []
  invoked : List Nat := []
  direct : List Nat := []

namespace WakingThread

open Transition

/-- Before any call. -/
def start (clock : Nat) : WakingThread := { clock, now := clock, nextTick := clock }

/-- What others decide (a call is made, the destructor begins, input arrives, time
passes, the wait of `Run` times out), and how calls, `Run` and the destructor go on. -/
inductive Action where
  | post (call : Nat)
  | invoke (call : Nat)
  | destroy
  | input
  | advance (elapsed : Nat)
  | timeout
  | call (call : Nat) (eventFailed : Bool)
  | run
  | destructor
  deriving DecidableEq, Repr

/-- The steps of those that have begun. -/
def Action.own : Action → Bool
  | .call _ _ | .run | .destructor => true
  | _ => false

/-- `Post` and `Invoke`. A caller with a message queue handles sent messages while
it waits; a `Post` of such a handler is a call of its own. -/
def callStep (s : WakingThread) (call : Nat) (eventFailed : Bool) : Option WakingThread :=
  (s.thread.callStep call eventFailed).map fun thread =>
    match s.thread.calls call with
    | .settingWake _ => { s with thread, wake := true }
    | .runDirectly => { s with thread, direct := s.direct ++ [call] }
    | _ => { s with thread }

/-- `Run`. Messages are dispatched behind each task and in front of the look at the
clock. What ends the wait is the event, which it resets, or input. -/
def runStep (s : WakingThread) : Option WakingThread :=
  match s.thread.run with
  | .runTask _ => s.thread.runStep.map fun thread => { s with thread, input := false }
  | .tick =>
      s.thread.runStep.map fun thread =>
        if s.nextTick ≤ s.clock then
          { s with
            thread, input := false, now := s.clock, ticks := s.ticks ++ [s.clock],
            nextTick := s.clock + kTickIntervalMs }
        else { s with thread, input := false, now := s.clock }
  | .wait =>
      if s.wake || s.input then s.thread.runStep.map fun thread => { s with thread, wake := false } else none
  | .takeTask | .checkStop | .returned => s.thread.runStep.map fun thread => { s with thread }

/-- `~EngineThread` behind its `request_stop`. -/
def destructorStep (s : WakingThread) : Option WakingThread :=
  match s.thread.destructor with
  | .requestStop => none
  | .setWake => s.thread.destructorStep.map fun thread => { s with thread, wake := true }
  | .join | .joined => s.thread.destructorStep.map fun thread => { s with thread }

/-- The step function. -/
def step (s : WakingThread) : Action → Option WakingThread
  | .post call =>
      (s.thread.step (.callPost call)).map fun thread => { s with thread, begun := s.begun ++ [call] }
  | .invoke call =>
      (s.thread.step (.callInvoke call)).map fun thread =>
        { s with thread, begun := s.begun ++ [call], invoked := s.invoked ++ [call] }
  | .destroy =>
      if s.thread.destructor = .requestStop then
        s.thread.destructorStep.map fun thread => { s with thread }
      else none
  | .input => some { s with input := true }
  | .advance elapsed => some { s with clock := s.clock + elapsed }
  | .timeout =>
      if s.thread.run = .wait then s.thread.runStep.map fun thread => { s with thread } else none
  | .call call eventFailed => s.callStep call eventFailed
  | .run => s.runStep
  | .destructor => s.destructorStep

section Steps

variable {s t : WakingThread}

/-- A call moves on. -/
inductive CallMove (s : WakingThread) (call : Nat) : WakingThread → Prop where
  | decided {pc : PostPc} (before : s.thread.calls call = .checkInvoke)
      (after : pc = .createEvent ∨ pc = .runDirectly) : CallMove s call { s with thread := s.thread.setCall call pc }
  | created {pc : PostPc} (before : s.thread.calls call = .createEvent)
      (after : pc = .checkPost true ∨ pc = .runDirectly) :
      CallMove s call { s with thread := s.thread.setCall call pc }
  | ranDirectly (before : s.thread.calls call = .runDirectly) :
      CallMove s call { s with thread := s.thread.setCall call .returned, direct := s.direct ++ [call] }
  | accepted {invoked : Bool} (before : s.thread.calls call = .checkPost invoked)
      (stop : s.thread.stopRequested = false) :
      CallMove s call { s with thread := s.thread.setCall call (.pushing invoked) }
  | refused {invoked : Bool} (before : s.thread.calls call = .checkPost invoked)
      (stop : s.thread.stopRequested = true) :
      CallMove s call { s with thread := s.thread.setCall call (.afterPost invoked) }
  | pushed {invoked : Bool} (before : s.thread.calls call = .pushing invoked) :
      CallMove s call { s with
        thread := { s.thread with
          tasks := s.thread.tasks ++ [call],
          pushed := s.thread.pushed ++ [call] }.setCall call (.settingWake invoked) }
  | woke {invoked : Bool} (before : s.thread.calls call = .settingWake invoked) :
      CallMove s call { s with thread := s.thread.setCall call (.afterPost invoked), wake := true }
  | served (before : s.thread.calls call = .awaiting) (ran : call ∈ s.thread.ran) :
      CallMove s call { s with thread := s.thread.setCall call .returned }

theorem callStep_move {call : Nat} {eventFailed : Bool} (h : s.callStep call eventFailed = some t) :
    CallMove s call t := by
  obtain ⟨thread, hThread, rfl⟩ := Option.map_eq_some_iff.mp h
  unfold EngineThread.callStep at hThread
  cases hPc : s.thread.calls call with
  | notCalled | returned => simp [hPc] at hThread
  | checkInvoke =>
      simp only [hPc, Option.some.injEq] at hThread
      subst hThread
      apply CallMove.decided hPc
      split_ifs
      · exact Or.inr rfl
      · exact Or.inl rfl
  | createEvent =>
      simp only [hPc, Option.some.injEq] at hThread
      subst hThread
      apply CallMove.created hPc
      split_ifs
      · exact Or.inr rfl
      · exact Or.inl rfl
  | runDirectly =>
      simp only [hPc, Option.some.injEq] at hThread
      subst hThread
      exact .ranDirectly hPc
  | checkPost invoked =>
      simp only [hPc, Option.some.injEq] at hThread
      subst hThread
      split_ifs with hStop
      · exact .refused hPc hStop
      · exact .accepted hPc (Bool.not_eq_true _ ▸ hStop)
  | pushing invoked =>
      simp only [hPc, Option.some.injEq] at hThread
      subst hThread
      exact .pushed hPc
  | settingWake invoked =>
      simp only [hPc, Option.some.injEq] at hThread
      subst hThread
      exact .woke hPc
  | awaiting =>
      simp only [hPc] at hThread
      split_ifs at hThread with hRan
      cases hThread
      exact .served hPc hRan

/-- `Run` goes on. -/
inductive RunMove (s : WakingThread) : WakingThread → Prop where
  | foundNone (pc : s.thread.run = .takeTask) (tasks : s.thread.tasks = []) :
      RunMove s { s with thread := { s.thread with run := .checkStop } }
  | foundTask {task : Nat} {rest : List Nat} (pc : s.thread.run = .takeTask)
      (tasks : s.thread.tasks = task :: rest) :
      RunMove s { s with thread := { s.thread with tasks := rest, run := .runTask task } }
  | ran {task : Nat} (pc : s.thread.run = .runTask task) :
      RunMove s { s with
        thread := { s.thread with ran := s.thread.ran ++ [task], run := .takeTask }, input := false }
  | leaves (pc : s.thread.run = .checkStop) (stop : s.thread.stopRequested = true) :
      RunMove s { s with thread := { s.thread with run := .returned } }
  | stays (pc : s.thread.run = .checkStop) (stop : s.thread.stopRequested = false) :
      RunMove s { s with thread := { s.thread with run := .tick } }
  | ticked (pc : s.thread.run = .tick) (due : s.nextTick ≤ s.clock) :
      RunMove s { s with
        thread := { s.thread with run := .wait }, input := false, now := s.clock,
        ticks := s.ticks ++ [s.clock], nextTick := s.clock + kTickIntervalMs }
  | notYet (pc : s.thread.run = .tick) (early : s.clock < s.nextTick) :
      RunMove s { s with thread := { s.thread with run := .wait }, input := false, now := s.clock }
  | woken (pc : s.thread.run = .wait) (reason : s.wake = true ∨ s.input = true) :
      RunMove s { s with thread := { s.thread with run := .takeTask }, wake := false }

theorem runStep_move (h : s.runStep = some t) : RunMove s t := by
  unfold runStep EngineThread.runStep at h
  cases hPc : s.thread.run with
  | takeTask =>
      simp only [hPc] at h
      split at h
      · rename_i hTasks
        cases h
        exact .foundNone hPc hTasks
      · rename_i task rest hTasks
        cases h
        exact .foundTask hPc hTasks
  | runTask task =>
      simp only [hPc] at h
      cases h
      exact .ran hPc
  | checkStop =>
      simp only [hPc] at h
      cases h
      split_ifs with hStop
      · exact .leaves hPc hStop
      · exact .stays hPc (Bool.not_eq_true _ ▸ hStop)
  | tick =>
      simp only [hPc] at h
      cases h
      split_ifs with hDue
      · exact .ticked hPc hDue
      · exact .notYet hPc (Nat.lt_of_not_le hDue)
  | wait =>
      simp only [hPc] at h
      split_ifs at h with hReason
      cases h
      exact .woken hPc (by simpa using hReason)
  | returned => simp [hPc] at h

/-- A step of the whole. -/
inductive Move (s : WakingThread) : Action → WakingThread → Prop where
  | post {call : Nat} (fresh : s.thread.calls call = .notCalled) :
      Move s (.post call) { s with
        thread := s.thread.setCall call (.checkPost false), begun := s.begun ++ [call] }
  | invoke {call : Nat} (fresh : s.thread.calls call = .notCalled) :
      Move s (.invoke call) { s with
        thread := s.thread.setCall call .checkInvoke, begun := s.begun ++ [call],
        invoked := s.invoked ++ [call] }
  | destroy {due : List Nat} (pc : s.thread.destructor = .requestStop) :
      Move s .destroy { s with
        thread := { s.thread with stopRequested := true, destructor := .setWake, due } }
  | input : Move s .input { s with input := true }
  | advance {elapsed : Nat} : Move s (.advance elapsed) { s with clock := s.clock + elapsed }
  | timeout (pc : s.thread.run = .wait) :
      Move s .timeout { s with thread := { s.thread with run := .takeTask } }
  | call {next : WakingThread} {call : Nat} {eventFailed : Bool} (move : CallMove s call next) :
      Move s (.call call eventFailed) next
  | run {next : WakingThread} (move : RunMove s next) : Move s .run next
  | wakes (pc : s.thread.destructor = .setWake) :
      Move s .destructor { s with thread := { s.thread with destructor := .join }, wake := true }
  | joins (pc : s.thread.destructor = .join) :
      Move s .destructor { s with thread := { s.thread with destructor := .joined } }

theorem step_move {action : Action} (h : s.step action = some t) : Move s action t := by
  cases action with
  | post call =>
      simp only [step, EngineThread.step] at h
      split_ifs at h with hFresh
      · cases h
        exact .post hFresh
      · cases h
  | invoke call =>
      simp only [step, EngineThread.step] at h
      split_ifs at h with hFresh
      · cases h
        exact .invoke hFresh
      · cases h
  | destroy =>
      simp only [step] at h
      split_ifs at h with hPc
      simp only [EngineThread.destructorStep, hPc] at h
      cases h
      exact .destroy hPc
  | input =>
      cases h
      exact .input
  | advance elapsed =>
      cases h
      exact .advance
  | timeout =>
      simp only [step] at h
      split_ifs at h with hPc
      simp only [EngineThread.runStep, hPc] at h
      cases h
      exact .timeout hPc
  | call call eventFailed => exact .call (callStep_move h)
  | run => exact .run (runStep_move h)
  | destructor =>
      simp only [step, destructorStep, EngineThread.destructorStep] at h
      cases hPc : s.thread.destructor with
      | requestStop => simp [hPc] at h
      | joined => simp [hPc] at h
      | setWake =>
          simp only [hPc] at h
          cases h
          exact .wakes hPc
      | join =>
          simp only [hPc] at h
          split_ifs at h
          · cases h
            exact .joins hPc
          · cases h

/-- The thread itself makes a step of its own, or none. -/
theorem step_thread {action : Action} (h : s.step action = some t) :
    t.thread = s.thread ∨ ∃ other, s.thread.step other = some t.thread := by
  cases action with
  | post call =>
      obtain ⟨thread, hThread, rfl⟩ := Option.map_eq_some_iff.mp h
      exact Or.inr ⟨_, hThread⟩
  | invoke call =>
      obtain ⟨thread, hThread, rfl⟩ := Option.map_eq_some_iff.mp h
      exact Or.inr ⟨_, hThread⟩
  | destroy =>
      simp only [step] at h
      split_ifs at h
      obtain ⟨thread, hThread, rfl⟩ := Option.map_eq_some_iff.mp h
      exact Or.inr ⟨.destructor, hThread⟩
  | input =>
      cases h
      exact Or.inl rfl
  | advance elapsed =>
      cases h
      exact Or.inl rfl
  | timeout =>
      simp only [step] at h
      split_ifs at h
      obtain ⟨thread, hThread, rfl⟩ := Option.map_eq_some_iff.mp h
      exact Or.inr ⟨.run, hThread⟩
  | call call eventFailed =>
      obtain ⟨thread, hThread, rfl⟩ := Option.map_eq_some_iff.mp h
      right
      refine ⟨.call call eventFailed, hThread.trans ?_⟩
      cases s.thread.calls call <;> rfl
  | run =>
      right
      refine ⟨.run, ?_⟩
      simp only [step, runStep] at h
      split at h
      · obtain ⟨thread, hThread, rfl⟩ := Option.map_eq_some_iff.mp h
        exact hThread
      · obtain ⟨thread, hThread, rfl⟩ := Option.map_eq_some_iff.mp h
        refine hThread.trans ?_
        split_ifs <;> rfl
      · split_ifs at h
        obtain ⟨thread, hThread, rfl⟩ := Option.map_eq_some_iff.mp h
        exact hThread
      all_goals
        obtain ⟨thread, hThread, rfl⟩ := Option.map_eq_some_iff.mp h
        exact hThread
  | destructor =>
      right
      refine ⟨.destructor, ?_⟩
      simp only [step, destructorStep] at h
      split at h
      · cases h
      all_goals
        obtain ⟨thread, hThread, rfl⟩ := Option.map_eq_some_iff.mp h
        exact hThread

theorem queued_step {action : Action} (h : s.thread.Queued) (hStep : s.step action = some t) :
    t.thread.Queued := by
  rcases step_thread hStep with hSame | ⟨other, hOther⟩
  · rw [hSame]
    exact h
  · exact h.step hOther

end Steps

end WakingThread

end WinDV
