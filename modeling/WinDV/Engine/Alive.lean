import WinDV.Engine.Pipeline

/-! A capture thread among the other threads. As long as it runs, the others
can change the shared members in a few ways only, and never the open file. -/
namespace WinDV

/-- No frame will come out of the queue any more. -/
def World.Drained (w : World) : Prop :=
  ∃ queue, w.queue = some queue ∧ queue.closed = true ∧ queue.load = 0

/-- The capture thread has left its loop, or it will without another frame. -/
def Leaving (w : World) (l : CaptureLocals) : CapturePc → Prop
  | .afterLoop | .report _ | .releaseWriter | .notifyStopped => True
  | .noFrame => ∃ queue, w.queue = some queue ∧ queue.closed = true
  | .loopHead | .getFrame | .updateDropped => w.Drained
  | .rollback resume => w.Drained ∧ resume ≠ .readWriteState
  | .readClock | .readState | .newWatch | .newFile => w.Drained ∧ l.frame = none
  | _ => False

section Leaving

variable {env : Environment} {ans : Answer} {clock : Nat} {w w' : World} {l l' : CaptureLocals}
  {pc pc' : CapturePc}

/-- A closed queue is all of the world that it depends on. -/
theorem Leaving.mono (h : Leaving w l pc)
    (hQueue : ∀ queue, w.queue = some queue → queue.closed = true → w'.queue = some queue) :
    Leaving w' l pc := by
  have hDrained : w.Drained → w'.Drained := by
    rintro ⟨queue, hSet, hClosed, hEmpty⟩
    exact ⟨queue, hQueue queue hSet hClosed, hClosed, hEmpty⟩
  cases pc with
  | noFrame =>
      obtain ⟨queue, hSet, hClosed⟩ := h
      exact ⟨queue, hQueue queue hSet hClosed, hClosed⟩
  | loopHead | getFrame | updateDropped => exact hDrained h
  | rollback | readClock | readState | newWatch | newFile => exact ⟨hDrained h.1, h.2⟩
  | _ => exact h

theorem Leaving.afterState (hDrained : w.Drained) (hFrame : l.frame = none) :
    Leaving w l' l.afterState := by
  obtain ⟨queue, hQueue, hClosed, -⟩ := hDrained
  rw [CaptureLocals.afterState, if_pos hFrame]
  exact ⟨queue, hQueue, hClosed⟩

theorem Leaving.resume {resume : Resume} (hDrained : w.Drained) (hResume : resume ≠ .readWriteState) :
    Leaving w l resume.pc := by
  cases resume with
  | readWriteState => exact absurd rfl hResume
  | loopHead | updateDropped => exact hDrained

/-- A thread on its way out stays on it. -/
theorem CaptureMove.leaving (h : CaptureMove env ans clock w l pc w' (some (pc', l')))
    (hLeaving : Leaving w l pc) : Leaving w' l' pc' := by
  cases h with
  | throws | finishThrows | leaveLoop | breakLoop | report | releaseWriter => trivial
  | finishes goesOn =>
      cases pc with
      | afterLoop =>
          cases goesOn
          trivial
      | signalLost | diskFull | closeFile => exact hLeaving.elim
      | _ => cases goesOn
  | stayInLoop | updateDropped => exact hLeaving
  | timeOut => exact ⟨hLeaving, rfl⟩
  | takeFrame isSet waiting =>
      obtain ⟨queue, hQueue, -, hEmpty⟩ := hLeaving
      obtain rfl := Option.some.inj (isSet.symm.trans hQueue)
      exact absurd hEmpty waiting.ne'
  | readClock | noticeCapture | newWatch => exact hLeaving
  | readState | newFile => exact .afterState hLeaving.1 hLeaving.2
  | noticeLoss isSet isOpen | waitOn isSet isOpen =>
      obtain ⟨queue, hQueue, hClosed⟩ := hLeaving
      obtain rfl := Option.some.inj (isSet.symm.trans hQueue)
      simp [isOpen] at hClosed
  | rollback => exact .resume hLeaving.1 hLeaving.2
  | _ => exact hLeaving.elim

end Leaving

namespace Config

/-- A step of another thread, seen from a running capture thread: what it does
to the shared members. -/
inductive Interferes (c : Config) : Action → World → Prop where
  | none {action : Action} : Interferes c action c.world
  | stop {ans : Answer} {request : Request} (busy : c.call = .busy request (.control .stopCapturing))
      (capturing : c.world.state = .capturing) :
      Interferes c (.control ans) { c.world with state := .capturePaused }
  | destroy {ans : Answer} {request : Request} (busy : c.call = .busy request (.destroy .setIdle)) :
      Interferes c (.control ans) { c.world with state := .idle }
  | closeQueue {ans : Answer} {request : Request} (busy : c.call = .busy request (.destroy .closeQueue)) :
      Interferes c (.control ans) c.world.closeQueue
  | clearReason {ans : Answer} {request : Request} {pc : CallPc} (busy : c.call = .busy request pc)
      (clears : pc = .start .clearReason ∨ pc = .control .clearReason) :
      Interferes c (.control ans) c.world.clearReason
  | storeTarget {ans : Answer} {request : Request} (busy : c.call = .busy request (.start .storeTarget))
      (paused : c.world.state = .capturePaused) :
      Interferes c (.control ans) { c.world with
        target := request.startArgs.target (c.world.history.captures + 1) }
  | storeCaptureTime {ans : Answer} {request : Request}
      (busy : c.call = .busy request (.start .storeCaptureTime))
      (paused : c.world.state = .capturePaused) :
      Interferes c (.control ans) { c.world with captureTime := request.startArgs.captureTime }
  | start {ans : Answer} {request : Request} (busy : c.call = .busy request (.start .storeState))
      (paused : c.world.state = .capturePaused) :
      Interferes c (.control ans) (c.world.beginCapture request.startArgs)
  | callback {callback : Callback} {w' : World} {next : Option Callback}
      (move : CallbackMove c.world callback w' next) : Interferes c .callback w'
  | options {options : Options} : Interferes c (.setOptions options) { c.world with options := options }
  | takeError : Interferes c .takeError { c.world with error := [] }

variable {env : Environment} {c c' : Config} {action : Action} {pc : CapturePc} {l : CaptureLocals}

/-- A running worker is not in a Build call, nor behind its join. -/
theorem Agree.worker_call (h : c.Agree) (hWorker : c.worker ≠ .absent) {request : Request}
    {callPc : CallPc} (hBusy : c.call = .busy request callPc) :
    (∀ pc, callPc ≠ .build pc) ∧ callPc ≠ .destroy .release ∧ callPc ≠ .destroy .clearStatus := by
  have hCall := h.call
  rw [hBusy] at hCall
  refine ⟨?_, ?_, ?_⟩
  · rintro pc rfl
    exact hWorker (h.build_absent hBusy)
  · rintro rfl
    exact hWorker (isAbsent_iff.mp hCall.noWorker)
  · rintro rfl
    exact hWorker (isAbsent_iff.mp hCall.1.noWorker)

theorem Agree.capture_ready (h : c.Agree) (hThread : c.worker = .capture pc l) :
    c.view.CaptureShape ∧ CaptureReady c.world l pc := by
  have hReady := h.worker
  unfold WorkerReady at hReady
  rw [hThread] at hReady
  exact hReady

/-- A running capture thread belongs to a capture pipeline. -/
theorem Agree.not_recording (h : c.Agree) (hThread : c.worker = .capture pc l) :
    c.world.state ≠ .recordPaused ∧ c.world.state ≠ .recording := by
  have hInput : c.pipeline.dvInput = true := (h.capture_ready hThread).1.1
  have hShape := h.state
  unfold View.StateShape at hShape
  have hState : c.view.state = c.world.state := rfl
  constructor
  · intro hPaused
    rw [hState, hPaused] at hShape
    have hNot : c.pipeline.dvInput = false := hShape.2.2.2
    rw [hInput] at hNot
    cases hNot
  · intro hRecording
    rw [hState, hRecording] at hShape
    have hNot : c.pipeline.dvInput = false := hShape.2.2.2
    rw [hInput] at hNot
    cases hNot

/-- What the controlling thread can do beside a running capture thread. -/
theorem Agree.control_interferes (h : c.Agree) (hThread : c.worker = .capture pc l) {ans : Answer}
    {request : Request} {callPc : CallPc} (hBusy : c.call = .busy request callPc)
    (hSteps : Steps env ans c request callPc c') :
    c'.worker = c.worker ∧ c.Interferes (.control ans) c'.world := by
  obtain ⟨hBuild, hRelease, hClear⟩ := h.worker_call (by simp [hThread]) hBusy
  obtain ⟨hPaused, hRecording⟩ := h.not_recording hThread
  have hCall := h.call
  rw [hBusy] at hCall
  have hMove := hSteps.move
  generalize c'.world = w' at hMove ⊢
  generalize c'.worker = t' at hMove ⊢
  cases hMove with
  | pass => exact ⟨rfl, .none⟩
  | setIdle => exact ⟨rfl, .destroy hBusy⟩
  | closeQueue => exact ⟨rfl, .closeQueue hBusy⟩
  | join returned =>
      rw [returned] at hThread
      cases hThread
  | release => exact absurd rfl hRelease
  | clearStatus => exact absurd rfl hClear
  | takeError => exact absurd rfl (hBuild _)
  | createQueue => exact absurd rfl (hBuild _)
  | setPaused => exact absurd rfl (hBuild _)
  | startWorker => exact absurd rfl (hBuild _)
  | clearReason clears => exact ⟨rfl, .clearReason hBusy clears⟩
  | storeTarget => exact ⟨rfl, .storeTarget hBusy hCall⟩
  | storeCaptureTime => exact ⟨rfl, .storeCaptureTime hBusy hCall⟩
  | storeState => exact ⟨rfl, .start hBusy hCall⟩
  | stopCapturing capturing => exact ⟨rfl, .stop hBusy capturing⟩
  | startRecording paused => exact absurd paused hPaused
  | stopRecording recording => exact absurd recording hRecording

/-- A step beside or of a running capture thread. -/
theorem Agree.capture_cases (h : c.Agree) (hThread : c.worker = .capture pc l)
    (hStep : c.step env action = some c') :
    (∃ ans w' t, action = .worker ans ∧ CaptureMove env ans c.clock c.world l pc w' t ∧
      c' = c.captureResult (w', t)) ∨
    (c'.worker = .capture pc l ∧ c.Interferes action c'.world ∧ ∀ ans, action ≠ .worker ans) := by
  cases step_move hStep with
  | begin => exact Or.inr ⟨hThread, .none, by simp⟩
  | control busy step =>
      obtain ⟨hWorker, hInterferes⟩ := h.control_interferes hThread busy (callStep_steps step)
      exact Or.inr ⟨hWorker.trans hThread, hInterferes, by simp⟩
  | @capture ans pc' l' w' t thread move =>
      rw [hThread] at thread
      cases thread
      exact Or.inl ⟨ans, w', t, rfl, move, rfl⟩
  | record thread =>
      rw [hThread] at thread
      cases thread
  | deliver => exact Or.inr ⟨hThread, .none, by simp⟩
  | callback thread move => exact Or.inr ⟨hThread, .callback move, by simp⟩
  | tick => exact Or.inr ⟨hThread, .none, by simp⟩
  | setOptions => exact Or.inr ⟨hThread, .options, by simp⟩
  | takeError => exact Or.inr ⟨hThread, .takeError, by simp⟩

/-- A capture thread runs already, or a Build call has just started it. -/
theorem Agree.capture_from (h : c.Agree) (hStep : c.step env action = some c')
    (hThread : c'.worker = .capture pc l) :
    (∃ before l', c.worker = .capture before l') ∨
      c'.world = c.world ∧ c.world.state = .capturePaused ∧ pc = .getMediaType ∧ l = {} := by
  cases step_move hStep with
  | @control ans request callPc _ busy step =>
      have hMove := (callStep_steps step).move
      generalize c'.world = w' at hMove ⊢
      rw [hThread] at hMove
      generalize hWorker : Worker.capture pc l = worker' at hMove
      cases hMove with
      | startWorker =>
          have hCall := h.call
          rw [busy] at hCall
          have hPaused : c.world.state = request.pausedState := hCall.1
          unfold Request.thread at hWorker
          split_ifs at hWorker with hRequest
          cases hWorker
          right
          rw [hPaused, Request.pausedState, if_pos hRequest]
          exact ⟨rfl, rfl, rfl, rfl⟩
      | join => cases hWorker
      | _ => exact Or.inl ⟨pc, l, hWorker.symm⟩
  | capture thread => exact Or.inl ⟨_, _, thread⟩
  | @record ans pc' l' w' t thread move =>
      cases t <;> cases hThread
  | begin | deliver | callback | tick | setOptions | takeError => exact Or.inl ⟨pc, l, hThread⟩

/-- A capture begins with the store of a Start call; every other step leaves
the capture in progress and its target as they are. -/
theorem Agree.capture_begins (h : c.Agree) (hStep : c.step env action = some c') :
    (∃ ans request, action = .control ans ∧ c.call = .busy request (.start .storeState) ∧
      c.world.state = .capturePaused ∧ c'.world = c.world.beginCapture request.startArgs ∧
      c'.worker = c.worker) ∨
    (c'.world.history.captures = c.world.history.captures ∧
      c'.world.history.captureOf = c.world.history.captureOf ∧
      c'.world.history.requested = c.world.history.requested ∧
      (c'.world.state = .capturing → c.world.state = .capturing ∧ c'.world.target = c.world.target ∧
        (c'.world.captureTime = c.world.captureTime ∨ c'.world.captureTime = 0))) := by
  cases step_move hStep with
  | @control ans request callPc _ busy step =>
      have hMove := (callStep_steps step).move
      have hCall := h.call
      rw [busy] at hCall
      generalize c'.world = w' at hMove ⊢
      generalize c'.worker = worker' at hMove ⊢
      cases hMove with
      | storeState => exact Or.inl ⟨ans, request, rfl, busy, hCall, rfl, rfl⟩
      | storeTarget =>
          have hPaused : c.world.state = .capturePaused := hCall
          exact Or.inr ⟨rfl, rfl, rfl, by simp [hPaused]⟩
      | setPaused =>
          refine Or.inr ⟨rfl, rfl, rfl, fun hCapturing => ?_⟩
          simp only [Request.pausedState] at hCapturing
          split_ifs at hCapturing
      | release =>
          obtain ⟨files, hFiles⟩ := c.world.finishWriter_fst env ans
          have hRelease : c.world.release env ans = { (c.world.finishWriter env ans).1 with queue := none } := rfl
          rw [hRelease, hFiles]
          exact Or.inr ⟨rfl, rfl, rfl, fun hCapturing => ⟨hCapturing, rfl, Or.inl rfl⟩⟩
      | setIdle | stopCapturing | startRecording | stopRecording =>
          exact Or.inr ⟨rfl, rfl, rfl, by simp⟩
      | storeCaptureTime =>
          have hPaused : c.world.state = .capturePaused := hCall
          exact Or.inr ⟨rfl, rfl, rfl, by simp [hPaused]⟩
      | clearStatus => exact Or.inr ⟨rfl, rfl, rfl, fun hCapturing => ⟨hCapturing, rfl, Or.inr rfl⟩⟩
      | _ => exact Or.inr ⟨rfl, rfl, rfl, fun hCapturing => ⟨hCapturing, rfl, Or.inl rfl⟩⟩
  | capture thread move =>
      refine Or.inr ⟨move.keeps.captures, move.keeps.captureOf, move.keeps.requested,
        fun hCapturing => ⟨?_, move.keeps.target, move.captureTime⟩⟩
      rcases move.state with hSame | ⟨-, hFinished⟩
      · exact hSame.symm.trans hCapturing
      · exact absurd (hFinished.symm.trans hCapturing) (by simp)
  | record thread move =>
      refine Or.inr ⟨move.keeps.captures, move.keeps.captureOf, move.keeps.requested,
        fun hCapturing => ⟨?_, move.keeps.target, Or.inl move.captureTime⟩⟩
      rcases move.state with hSame | ⟨-, hFinished⟩
      · exact hSame.symm.trans hCapturing
      · exact absurd (hFinished.symm.trans hCapturing) (by simp)
  | callback thread move =>
      obtain ⟨hCaptures, hCaptureOf, hRequested⟩ := move.keeps.capture
      exact Or.inr ⟨hCaptures, hCaptureOf, hRequested, fun hCapturing =>
        ⟨move.keeps.state.symm.trans hCapturing, move.keeps.target, Or.inl move.keeps.captureTime⟩⟩
  | begin | deliver | tick | setOptions | takeError =>
      exact Or.inr ⟨rfl, rfl, rfl, fun hCapturing => ⟨hCapturing, rfl, Or.inl rfl⟩⟩

/-- The clock does not go back. -/
theorem clock_le (hStep : c.step env action = some c') : c.clock ≤ c'.clock := by
  cases step_move hStep with
  | control busy step => exact (callStep_steps step).clock.ge
  | tick => exact Nat.le_add_right _ _
  | begin | capture | record | deliver | callback | setOptions | takeError => exact le_refl _

/-- The other threads leave the open file, the saved ones and the counts of
the capture loop alone. -/
theorem Interferes.keeps {w' : World} (h : c.Interferes action w') :
    w'.aviWriter = c.world.aviWriter ∧ w'.history.files = c.world.history.files ∧
      w'.time = c.world.time ∧ w'.fileFrameCount = c.world.fileFrameCount := by
  cases h with
  | callback move =>
      obtain ⟨reported, accepted, hHistory⟩ := move.keeps.history
      refine ⟨move.keeps.aviWriter, by rw [hHistory], move.keeps.time, ?_⟩
      cases move <;> rfl
  | _ => exact ⟨rfl, rfl, rfl, rfl⟩

/-- Only a Start call makes a capture begin. -/
theorem Interferes.state {w' : World} (h : c.Interferes action w')
    (hCapturing : w'.state = .capturing) : c.world.state = .capturing ∨
      ∃ ans request, action = .control ans ∧ c.call = .busy request (.start .storeState) := by
  cases h with
  | start busy => exact Or.inr ⟨_, _, rfl, busy⟩
  | stop => cases hCapturing
  | destroy => cases hCapturing
  | callback move => exact Or.inl (move.keeps.state ▸ hCapturing)
  | _ => exact Or.inl hCapturing

/-- The other threads while a capture is in progress and stays so: they leave
its target and what the worker has counted for it alone. -/
structure LeavesCapture (w w' : World) : Prop where
  target : w'.target = w.target
  time : w'.time = w.time
  captureTime : w'.captureTime = w.captureTime
  captureOf : w'.history.captureOf = w.history.captureOf
  requested : w'.history.requested = w.history.requested
  dequeued : w'.history.dequeued = w.history.dequeued
  lastDequeue : w'.history.lastDequeue = w.history.lastDequeue
  watchTimeout : w'.history.watchTimeout = w.history.watchTimeout
  measured : w'.history.measured = w.history.measured

theorem Interferes.during_capture {w' : World} (h : c.Interferes action w')
    (hState : c.world.state = .capturing) (hState' : w'.state = .capturing) :
    LeavesCapture c.world w' := by
  cases h with
  | stop | destroy => cases hState'
  | storeTarget _ paused | storeCaptureTime _ paused | start _ paused => simp [hState] at paused
  | callback move =>
      obtain ⟨reported, accepted, hHistory⟩ := move.keeps.history
      have hKeeps := move.keeps
      refine ⟨hKeeps.target, hKeeps.time, hKeeps.captureTime, ?_, ?_, ?_, ?_, ?_, ?_⟩
      all_goals rw [hHistory]
  | _ => exact ⟨rfl, rfl, rfl, rfl, rfl, rfl, rfl, rfl, rfl⟩

/-- A closed queue only loses frames, and only to the worker. -/
theorem Interferes.closed_queue {w' : World} {queue : FrameQueue} (h : c.Interferes action w')
    (hQueue : c.world.queue = some queue) (hClosed : queue.closed = true) : w'.queue = some queue := by
  have hClose : c.world.closeQueue.queue = some queue := by
    simp [World.closeQueue, hQueue, FrameQueue.close, ← hClosed]
  cases h with
  | closeQueue => exact hClose
  | callback move =>
      cases move with
      | close => exact hClose
      | stored isSet put =>
          obtain rfl := Option.some.inj (hQueue.symm.trans isSet)
          rw [(FrameQueue.put_stored put).2.2.1] at hClosed
          cases hClosed
      | _ => exact hQueue
  | _ => exact hQueue

end Config

end WinDV
