import WinDV.Engine.Alive

/-! Whether a pipeline can die in silence. Every error is reported before its
thread returns; the end of the stream is not an error, and closes the queue
without a word. -/
namespace WinDV

open Transition

/-- The worker has not got a frame yet. -/
def Worker.awaitsFirst : Worker → Bool
  | .absent | .record .notifyStarted _ | .record .firstFrame _ => true
  | _ => false

/-- The worker has returned, or it is on its way out and past every report. -/
def Worker.leavesSilently : Worker → Bool
  | .capture .afterLoop _ | .capture .releaseWriter _ | .capture .notifyStopped _
  | .record .notifyStopped _ | .returned => true
  | _ => false

/-- The user has been told of an error, or the engine shows that it is done. -/
def World.Ended (w : World) : Prop := w.history.errorReported = true ∨ w.state = .finished

section Moves

variable {env : Environment} {ans : Answer} {clock : Nat} {w w' : World}

theorem CaptureMove.ended {l : CaptureLocals} {pc : CapturePc} {t : CaptureThread}
    (h : CaptureMove env ans clock w l pc w' t) (hEnded : w.Ended) : w'.Ended := by
  rcases hEnded with hReported | hFinished
  · left
    obtain ⟨files, hFinish⟩ := w.finishWriter_fst env ans
    cases h with
    | finishThrows | finishes | split =>
        rw [hFinish]
        exact hReported
    | releaseWriter =>
        show (w.finishWriter env ans).1.history.errorReported = true
        rw [hFinish]
        exact hReported
    | frameSeen =>
        obtain ⟨shown, hShown⟩ := w.timeChange_eq (recordingTime env _ = l.dvTime) _
        rw [hShown]
        exact hReported
    | report => rfl
    | _ => exact hReported
  · rcases h.state with hSame | ⟨-, hNow⟩
    · exact Or.inr (hSame.trans hFinished)
    · exact Or.inr hNow

theorem RecordMove.ended {l : RecordLocals} {pc : RecordPc} {t : RecordThread}
    (h : RecordMove env ans clock w l pc w' t) (hEnded : w.Ended) : w'.Ended := by
  rcases hEnded with hReported | hFinished
  · left
    cases h with
    | frameSeen =>
        obtain ⟨shown, hShown⟩ := w.timeChange_eq (recordingTime env _ = l.dvTime) _
        rw [hShown]
        exact hReported
    | report => rfl
    | _ => exact hReported
  · rcases h.state with hSame | ⟨-, hNow⟩
    · exact Or.inr (hSame.trans hFinished)
    · exact Or.inr hNow

/-- The worker closes no queue. -/
theorem CaptureMove.closed {l : CaptureLocals} {pc : CapturePc} {t : CaptureThread} {queue' : FrameQueue}
    (h : CaptureMove env ans clock w l pc w' t) (hQueue : w'.queue = some queue')
    (hClosed : queue'.closed = true) : ∃ queue, w.queue = some queue ∧ queue.closed = true := by
  obtain ⟨files, hFinish⟩ := w.finishWriter_fst env ans
  cases h with
  | finishThrows | finishes | split =>
      rw [hFinish] at hQueue
      exact ⟨queue', hQueue, hClosed⟩
  | releaseWriter =>
      rw [World.resetWriter, World.finishWriter_queue] at hQueue
      exact ⟨queue', hQueue, hClosed⟩
  | frameSeen =>
      obtain ⟨shown, hShown⟩ := w.timeChange_eq (recordingTime env _ = l.dvTime) _
      rw [hShown] at hQueue
      exact ⟨queue', hQueue, hClosed⟩
  | takeFrame isSet =>
      obtain rfl := Option.some.inj hQueue
      exact ⟨_, isSet, hClosed⟩
  | _ => exact ⟨queue', hQueue, hClosed⟩

theorem RecordMove.closed {l : RecordLocals} {pc : RecordPc} {t : RecordThread} {queue' : FrameQueue}
    (h : RecordMove env ans clock w l pc w' t) (hQueue : w'.queue = some queue')
    (hClosed : queue'.closed = true) : ∃ queue, w.queue = some queue ∧ queue.closed = true := by
  cases h with
  | frameSeen =>
      obtain ⟨shown, hShown⟩ := w.timeChange_eq (recordingTime env _ = l.dvTime) _
      rw [hShown] at hQueue
      exact ⟨queue', hQueue, hClosed⟩
  | firstFrame isSet | nextFrame isSet =>
      obtain rfl := Option.some.inj hQueue
      exact ⟨_, isSet, hClosed⟩
  | _ => exact ⟨queue', hQueue, hClosed⟩

end Moves

namespace Config

/-- Destroy has been called and has not returned. -/
def Destroying (c : Config) : Prop := ∃ request pc, c.call = .busy request (.destroy pc)

/-- A record pipeline that has got a frame: it can show a still picture. -/
def Fed (c : Config) : Prop :=
  (c.world.state = .recordPaused ∨ c.world.state = .recording) ∧
    (c.worker.awaitsFirst = true → ∃ queue, c.world.queue = some queue ∧ 0 < queue.load)

/-- The source announces the end of the stream only when an error has been
reported, the engine is finished or Destroy has been called, or to a record
pipeline that has got a frame. -/
def EndsExpected (entry : Config × Action) : Prop :=
  entry.2.isCallback = true → entry.1.callback = some .endOfStream →
    entry.1.world.Ended ∨ entry.1.Destroying ∨ entry.1.Fed

/-- Why the queue is closed and why the worker leaves. -/
structure Accounted (c : Config) : Prop where
  closed : ∀ queue, c.world.queue = some queue → queue.closed = true →
    c.world.Ended ∨ c.Destroying ∨ c.Fed
  leaves : c.worker.leavesSilently = true → c.world.Ended ∨ c.Destroying
  told : c.callback = some .closeQueue → c.world.Ended ∨ c.Destroying
  idle : c.world.state = .idle → c.worker = .absent ∨ c.Destroying

theorem accounted_initial : ({} : Config).Accounted where
  closed := by simp
  leaves := by simp [Worker.leavesSilently]
  told := by simp
  idle := fun _ => Or.inl rfl

variable {env : Environment} {ans : Answer} {request : Request} {c c' : Config} {action : Action}

/-- Destroy goes on until the thread is joined and everything is released. -/
theorem destroyStep_goes_on {pc : DestroyPc} (hStep : destroyStep env ans c request pc = .next c') :
    c'.Destroying ∨ pc = .clearStatus := by
  cases pc <;> simp only [destroyStep] at hStep <;> (repeat' split at hStep) <;> cases hStep
  all_goals first | exact Or.inr rfl | exact Or.inl ⟨_, _, rfl⟩

/-- No thread is left, and no queue. -/
theorem Accounted.torn_down (hAbsent : c.worker = .absent) (hQueue : c.world.queue = none)
    (hCallback : c.callback = none) : c.Accounted where
  closed := by simp [hQueue]
  leaves := by simp [hAbsent, Worker.leavesSilently]
  told := by simp [hCallback]
  idle := fun _ => Or.inl hAbsent

/-- A step of Destroy. -/
theorem Accounted.destroy {pc : DestroyPc} (hAgree : c.Agree)
    (hBusy : c.call = .busy request (.destroy pc))
    (hStep : destroyStep env ans c request pc = .next c') : c'.Accounted := by
  rcases destroyStep_goes_on hStep with hGoesOn | rfl
  · exact ⟨fun _ _ _ => Or.inr (Or.inl hGoesOn), fun _ => Or.inr hGoesOn, fun _ => Or.inr hGoesOn,
      fun _ => Or.inr hGoesOn⟩
  · have hCall := hAgree.call
    rw [hBusy] at hCall
    obtain ⟨hStopped, -, hQueueSet⟩ := hCall
    have hAbsent : c.worker = .absent := isAbsent_iff.mp hStopped.noWorker
    have hQueue : c.world.queue = none := Option.isNone_iff_eq_none.mp (by simpa [view] using hQueueSet)
    have hCallback := hAgree.callback_none hStopped.running
    obtain rfl := Outcome.next.inj hStep
    split_ifs
    · exact .torn_down hAbsent hQueue hCallback
    · exact .torn_down hAbsent hQueue hCallback

/-- A step of the controlling thread that leaves the worker and the queue. -/
theorem Accounted.keep (h : c.Accounted) (hRunning : ¬ c.Destroying)
    (hCallback : c'.callback = c.callback) (hWorker : c'.worker = c.worker)
    (hQueue : c'.world.queue = c.world.queue) (hEnded : c.world.Ended → c'.world.Ended) (hFed : c.Fed → c'.Fed)
    (hIdle : c'.world.state = .idle → c.world.state = .idle) : c'.Accounted where
  closed := fun queue hSet hClosed => by
    rcases h.closed queue (hQueue.symm.trans hSet) hClosed with hBefore | hBefore | hBefore
    · exact Or.inl (hEnded hBefore)
    · exact absurd hBefore hRunning
    · exact Or.inr (Or.inr (hFed hBefore))
  leaves := fun hLeaves => by
    rw [hWorker] at hLeaves
    rcases h.leaves hLeaves with hBefore | hBefore
    · exact Or.inl (hEnded hBefore)
    · exact absurd hBefore hRunning
  told := fun hClosing => by
    rcases h.told (hCallback.symm.trans hClosing) with hBefore | hBefore
    · exact Or.inl (hEnded hBefore)
    · exact absurd hBefore hRunning
  idle := fun hState => by
    rw [hWorker]
    exact Or.inl ((h.idle (hIdle hState)).resolve_right hRunning)

/-- A step of a call that is past Destroy. -/
theorem Accounted.control {pc : CallPc} (h : c.Accounted) (hAgree : c.Agree)
    (hBusy : c.call = .busy request pc) (hStep : callStep env ans c request pc = .next c')
    (hRunning : ¬ c.Destroying) : c'.Accounted := by
  have hCall := hAgree.call
  rw [hBusy] at hCall
  have hMove := (callStep_steps hStep).move
  have hCallback := (callStep_steps hStep).callback
  generalize hWorld : c'.world = w' at hMove
  generalize hWorker : c'.worker = worker' at hMove
  have hSame : w'.queue = c.world.queue → worker' = c.worker →
      (w'.state = c.world.state ∨ (c.world.state = .recordPaused ∨ c.world.state = .recording) ∧
        (w'.state = .recordPaused ∨ w'.state = .recording)) → c.Fed → c'.Fed := by
    rintro hQueue rfl hState ⟨hRecord, hFirst⟩
    refine ⟨?_, ?_⟩
    · rcases hState with hState | hState
      · rw [hWorld, hState]
        exact hRecord
      · rw [hWorld]
        exact hState.2
    · rw [hWorld, hWorker, hQueue]
      exact hFirst
  cases hMove with
  | pass =>
      exact h.keep hRunning hCallback hWorker (by rw [hWorld]) (by rw [hWorld]; exact id)
        (hSame rfl rfl (Or.inl rfl)) (by rw [hWorld]; exact id)
  | setIdle | closeQueue | join | release | clearStatus => exact absurd ⟨_, _, hBusy⟩ hRunning
  | takeError =>
      obtain ⟨hStopped, -, hQueueSet⟩ := hCall
      have hQueue : c.world.queue = none := Option.isNone_iff_eq_none.mp (by simpa [view] using hQueueSet)
      exact .torn_down (hWorker.trans (isAbsent_iff.mp hStopped.noWorker)) (by rw [hWorld]; exact hQueue)
        (hCallback.trans (hAgree.callback_none hStopped.running))
  | createQueue =>
      have hAbsent := hWorker.trans (isAbsent_iff.mp hCall.1.noWorker)
      have hNone := hCallback.trans (hAgree.callback_none hCall.1.running)
      refine ⟨fun queue hSet hClosed => ?_, by simp [hAbsent, Worker.leavesSilently], by simp [hNone],
        fun _ => Or.inl hAbsent⟩
      rw [hWorld] at hSet
      obtain rfl := Option.some.inj hSet
      cases hClosed
  | setPaused =>
      have hState : c.world.state = .idle := hCall.1.state
      refine h.keep hRunning hCallback hWorker (by rw [hWorld]) ?_ ?_ (fun _ => hState)
      · rw [hWorld]
        exact fun hEnded => Or.inl (hEnded.resolve_right (by simp [hState]))
      · rintro ⟨hRecord, -⟩
        simp [hState] at hRecord
  | startWorker =>
      have hState : c.world.state = request.pausedState := hCall.1
      have hAbsent : c.worker = .absent := isAbsent_iff.mp hCall.2.1
      have hEnded : c.world.Ended → c'.world.Ended := by
        rw [hWorld]
        exact id
      refine ⟨fun queue hSet hClosed => ?_, fun hLeaves => ?_, fun hClosing => ?_, fun hIdle => ?_⟩
      · rw [hWorld] at hSet
        rcases h.closed queue hSet hClosed with hBefore | hBefore | ⟨hRecord, hFirst⟩
        · exact Or.inl (hEnded hBefore)
        · exact absurd hBefore hRunning
        · refine Or.inr (Or.inr ⟨?_, fun _ => ?_⟩)
          · rw [hWorld]
            exact hRecord
          · rw [hWorld]
            exact hFirst (by rw [hAbsent]; rfl)
      · rw [hWorker, Request.thread] at hLeaves
        split_ifs at hLeaves <;> cases hLeaves
      · exact Or.inl (hEnded ((h.told (hCallback.symm.trans hClosing)).resolve_right hRunning))
      · rw [hWorld, hState, Request.pausedState] at hIdle
        split_ifs at hIdle
  | clearReason clears =>
      exact h.keep hRunning hCallback hWorker (by rw [hWorld]; rfl) (by rw [hWorld]; exact id)
        (hSame rfl rfl (Or.inl rfl)) (by rw [hWorld]; exact id)
  | storeTarget | storeCaptureTime =>
      exact h.keep hRunning hCallback hWorker (by rw [hWorld]) (by rw [hWorld]; exact id)
        (hSame rfl rfl (Or.inl rfl)) (by rw [hWorld]; exact id)
  | storeState =>
      have hState : c.world.state = .capturePaused := hCall
      refine h.keep hRunning hCallback hWorker (by rw [hWorld]; rfl) ?_ ?_ (by simp [hWorld, World.beginCapture])
      · rw [hWorld]
        exact fun hEnded => Or.inl (hEnded.resolve_right (by simp [hState]))
      · rintro ⟨hRecord, -⟩
        simp [hState] at hRecord
  | stopCapturing capturing =>
      refine h.keep hRunning hCallback hWorker (by rw [hWorld]) ?_ ?_ (by simp [hWorld])
      · rw [hWorld]
        exact fun hEnded => Or.inl (hEnded.resolve_right (by simp [capturing]))
      · rintro ⟨hRecord, -⟩
        simp [capturing] at hRecord
  | startRecording paused =>
      refine h.keep hRunning hCallback hWorker (by rw [hWorld]) ?_
        (hSame rfl rfl (Or.inr ⟨Or.inl paused, Or.inr rfl⟩)) (by simp [hWorld])
      rw [hWorld]
      exact fun hEnded => Or.inl (hEnded.resolve_right (by simp [paused]))
  | stopRecording recording =>
      refine h.keep hRunning hCallback hWorker (by rw [hWorld]) ?_
        (hSame rfl rfl (Or.inr ⟨Or.inr recording, Or.inl rfl⟩)) (by simp [hWorld])
      rw [hWorld]
      exact fun hEnded => Or.inl (hEnded.resolve_right (by simp [recording]))

/-- A step of a source callback. -/
theorem Accounted.callback {callback : Callback} {w' : World} {next : Option Callback}
    (h : c.Accounted) (hCallback : c.callback = some callback) (move : CallbackMove c.world callback w' next)
    (hExpected : EndsExpected (c, .callback)) : (c.callbackResult (w', next)).Accounted := by
  have hIdle : w'.state = .idle → c.worker = .absent ∨ c.Destroying := by
    rw [move.keeps.state]
    exact h.idle
  have hReport : ∀ message, (c.world.reportError message).Ended := fun _ => Or.inl rfl
  cases move with
  | count | oversized | refused => exact ⟨h.closed, h.leaves, by simp [callbackResult], hIdle⟩
  | stored isSet put =>
      refine ⟨fun queue hSet hClosed => ?_, h.leaves, by simp [callbackResult], hIdle⟩
      obtain rfl := Option.some.inj hSet
      obtain ⟨-, -, hOpen, hAfter⟩ := FrameQueue.put_stored put
      rw [hAfter] at hClosed
      simp [hOpen] at hClosed
  | reportOversized | sourceError =>
      exact ⟨fun _ _ _ => Or.inl (hReport _), fun _ => Or.inl (hReport _), fun _ => Or.inl (hReport _), hIdle⟩
  | close closes =>
      have hExcused : c.world.Ended ∨ c.Destroying ∨ c.Fed := by
        rcases closes with rfl | rfl
        · exact (h.told hCallback).imp_right Or.inl
        · exact hExpected rfl hCallback
      refine ⟨fun _ _ _ => ?_, h.leaves, by simp [callbackResult], hIdle⟩
      refine hExcused.imp_right (Or.imp_right ?_)
      rintro ⟨hRecord, hFirst⟩
      refine ⟨hRecord, fun hAwaits => ?_⟩
      obtain ⟨queue, hQueue, hLoad⟩ := hFirst hAwaits
      exact ⟨queue.close, by simp [callbackResult, World.closeQueue, hQueue], hLoad⟩

/-- A step of the capture thread. -/
theorem Accounted.capture {clock : Nat} {pc : CapturePc} {l : CaptureLocals} {w' : World}
    {t : CaptureThread} (h : c.Accounted) (hAgree : c.Agree) (hThread : c.worker = .capture pc l)
    (move : CaptureMove env ans clock c.world l pc w' t) : (c.captureResult (w', t)).Accounted := by
  have hAlive : c.worker ≠ .absent := by simp [hThread]
  have hUnfed : ¬ c.Fed := by
    rintro ⟨hRecord | hRecord, -⟩
    · exact (hAgree.not_recording hThread).1 hRecord
    · exact (hAgree.not_recording hThread).2 hRecord
  have hClosed : ∀ queue, c.world.queue = some queue → queue.closed = true →
      c.world.Ended ∨ c.Destroying := fun queue hSet hShut =>
    (h.closed queue hSet hShut).imp_right fun hRest => hRest.resolve_right hUnfed
  have hLeaves : (Worker.capture pc l).leavesSilently = true → w'.Ended ∨ c.Destroying := fun hOut =>
    (h.leaves (hThread ▸ hOut)).imp_left move.ended
  refine ⟨fun queue hSet hShut => ?_, fun hOut => ?_, fun hClosing => ?_, fun hIdle => ?_⟩
  · obtain ⟨before, hBefore, hWas⟩ := move.closed hSet hShut
    exact ((hClosed before hBefore hWas).imp_left move.ended).imp_right Or.inl
  · cases move with
    | leaveLoop isIdle => exact Or.inr ((h.idle isIdle).resolve_left hAlive)
    | breakLoop isSet closed => exact hClosed _ isSet closed
    | report => exact Or.inl (Or.inl rfl)
    | finishes goesOn =>
        cases pc with
        | afterLoop => exact hLeaves rfl
        | signalLost | diskFull | closeFile =>
            cases goesOn
            cases hOut
        | _ => cases goesOn
    | releaseWriter | notifyStopped => exact hLeaves rfl
    | readState | newFile =>
        simp only [captureResult, CaptureLocals.afterState] at hOut
        split_ifs at hOut <;> cases hOut
    | @enterFinished _ resume | @rollback resume => cases resume <;> cases hOut
    | _ => cases hOut
  · exact (h.told hClosing).imp_left move.ended
  · rcases move.state with hSame | ⟨-, hFinished⟩
    · exact Or.inr ((h.idle (hSame.symm.trans hIdle)).resolve_left hAlive)
    · cases hFinished.symm.trans hIdle

/-- A step of the record thread. -/
theorem Accounted.record {clock : Nat} {pc : RecordPc} {l : RecordLocals} {w' : World}
    {t : RecordThread} (h : c.Accounted) (hThread : c.worker = .record pc l)
    (move : RecordMove env ans clock c.world l pc w' t) : (c.recordResult (w', t)).Accounted := by
  have hAlive : c.worker ≠ .absent := by simp [hThread]
  have hLeaves : (Worker.record pc l).leavesSilently = true → w'.Ended ∨ c.Destroying := fun hOut =>
    (h.leaves (hThread ▸ hOut)).imp_left move.ended
  refine ⟨fun queue hSet hShut => ?_, fun hOut => ?_, fun hClosing => ?_, fun hIdle => ?_⟩
  · obtain ⟨before, hBefore, hWas⟩ := move.closed hSet hShut
    rcases h.closed before hBefore hWas with hEnded | hDestroy | ⟨hRecord, hFirst⟩
    · exact Or.inl (move.ended hEnded)
    · exact Or.inr (Or.inl hDestroy)
    · rcases move.state with hSame | ⟨-, hFinished⟩
      · refine Or.inr (Or.inr ⟨hSame ▸ hRecord, fun hAwaits => ?_⟩)
        rw [hThread] at hFirst
        cases move with
        | notifyStarted => exact hFirst rfl
        | _ => cases hAwaits
      · exact Or.inl (Or.inr hFinished)
  · cases move with
    | leaveLoop isIdle => exact Or.inr ((h.idle isIdle).resolve_left hAlive)
    | noFrames isSet closed empty =>
        rcases h.closed _ isSet closed with hEnded | hDestroy | ⟨-, hFirst⟩
        · exact Or.inl hEnded
        · exact Or.inr hDestroy
        · obtain ⟨queue, hQueue, hLoad⟩ := hFirst (by rw [hThread]; rfl)
          obtain rfl := Option.some.inj (isSet.symm.trans hQueue)
          exact absurd empty hLoad.ne'
    | report => exact Or.inl (Or.inl rfl)
    | notifyStopped => exact hLeaves rfl
    | _ => cases hOut
  · exact (h.told hClosing).imp_left move.ended
  · rcases move.state with hSame | ⟨-, hFinished⟩
    · exact Or.inr ((h.idle (hSame.symm.trans hIdle)).resolve_left hAlive)
    · cases hFinished.symm.trans hIdle

theorem Accounted.step (h : c.Accounted) (hAgree : c.Agree) (hStep : c.step env action = some c')
    (hExpected : EndsExpected (c, action)) : c'.Accounted := by
  cases step_move hStep with
  | @begin request free =>
      have hRunning : ¬ c.Destroying := by
        rintro ⟨request, pc, hBusy⟩
        exact free _ _ hBusy
      exact h.keep hRunning rfl rfl rfl id id id
  | @control ans request pc _ busy step =>
      by_cases hDestroy : c.Destroying
      · obtain ⟨_, destroyPc, hBusy⟩ := hDestroy
        cases busy.symm.trans hBusy
        exact .destroy hAgree busy step
      · exact h.control hAgree busy step hDestroy
  | capture thread move => exact h.capture hAgree thread move
  | record thread move => exact h.record thread move
  | @deliver event running free =>
      exact ⟨h.closed, h.leaves, fun hClosing => (by cases event <;> cases hClosing), h.idle⟩
  | callback thread move => exact h.callback thread move hExpected
  | tick | setOptions | takeError => exact ⟨h.closed, h.leaves, h.told, h.idle⟩

/-- In a run whose source ends its stream only when that is accounted for, a
worker that has returned without Destroy has left an error or a finished engine. -/
theorem returned_worker_is_accounted {log : List (Config × Action)}
    (run : Runs (Config.step env) {} log c) (hExpected : ∀ entry ∈ log, EndsExpected entry)
    (hReturned : c.worker = .returned) (hRunning : ¬ c.Destroying) :
    c.world.history.errorReported = true ∨ c.world.state = .finished := by
  obtain ⟨-, hAccounted⟩ := run.invariant_of EndsExpected (fun c => c.Agree ∧ c.Accounted)
    ⟨agree_initial, accounted_initial⟩
    (fun s a t hs hMeets hStep => ⟨hs.1.step hStep, hs.2.step hs.1 hStep hMeets⟩) hExpected
  exact (hAccounted.leaves (by rw [hReturned]; rfl)).resolve_right hRunning

def hasReturned (c : Config) : Bool :=
  match c.worker with
  | .returned => true
  | _ => false

theorem hasReturned_worker (h : c.hasReturned = true) : c.worker = .returned := by
  unfold hasReturned at h
  split at h
  · assumption
  · cases h

theorem not_destroying {result : Result} (h : c.call = .exited request result) : ¬ c.Destroying := by
  rintro ⟨_, _, hBusy⟩
  cases h.symm.trans hBusy

/-- A source that fails. -/
theorem returned_worker_is_accounted_source_error :
    ∃ log c, Runs (Config.step .plain) {} log c ∧ c.worker = .returned ∧ ¬ c.Destroying ∧
      (c.world.history.errorReported = true ∨ c.world.state = .finished) := by
  obtain ⟨log, c, run, hTest⟩ := exec_witness (Config.step .plain) {}
    (readyToCapture ++ [.deliver (.error (wide "lost")), .callback, .callback] ++ work 8)
    (fun log c => (log.all fun entry => entry.1.callback != some .endOfStream) &&
      c.call == .exited .buildCapturing .ok && c.hasReturned) (by decide +kernel)
  simp only [Bool.and_eq_true, beq_iff_eq, List.all_eq_true, bne_iff_ne] at hTest
  obtain ⟨⟨hNoEnd, hCall⟩, hReturned⟩ := hTest
  exact ⟨log, c, run, hasReturned_worker hReturned, not_destroying hCall,
    returned_worker_is_accounted run (fun entry hEntry _ hEnd => absurd hEnd (hNoEnd entry hEntry))
      (hasReturned_worker hReturned) (not_destroying hCall)⟩

/-- A capture source whose stream ends: the worker returns, nothing is
reported and the engine still shows CapturePaused. -/
theorem returned_worker_in_silence :
    ¬ ∀ c, Reachable (Config.step .plain) {} c → c.worker = .returned → ¬ c.Destroying →
      c.world.history.errorReported = true ∨ c.world.state = .finished := by
  intro hAccounted
  obtain ⟨log, c, run, hTest⟩ := exec_witness (Config.step .plain) {}
    (readyToCapture ++ [.deliver .endOfStream, .callback] ++ work 8)
    (fun _ c => c.call == .exited .buildCapturing .ok && c.hasReturned &&
      c.world.state == .capturePaused && !c.world.history.errorReported) (by decide +kernel)
  simp only [Bool.and_eq_true, beq_iff_eq, Bool.not_eq_true'] at hTest
  obtain ⟨⟨⟨hCall, hReturned⟩, hState⟩, hSilent⟩ := hTest
  rcases hAccounted c ⟨log, run⟩ (hasReturned_worker hReturned) (not_destroying hCall) with h | h
  · rw [hSilent] at h
    cases h
  · rw [hState] at h
    cases h

end Config

end WinDV
