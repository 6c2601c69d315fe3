import WinDV.Engine.FrameInHand
import WinDV.Library.Stutter

/-! What the record thread shows on the tape. It sends the frame in hand again
and again, and moves on to the frame that came into the queue after it. -/
namespace WinDV

open Stutter

namespace World

/-- The frames of a pipeline: those taken from the queue came first, and those
waiting in it come next. -/
structure Accounted (w : World) : Prop where
  taken_prefix : w.history.taken <+: w.history.accepted
  waiting : ∀ queue, w.queue = some queue → w.history.accepted = w.history.taken ++ queue.contents

/-- The output shows frames that were taken, in order. -/
def Recorded (w : World) : Prop :=
  ∃ frames, frames <+: w.history.taken ∧ Repeats frames w.history.sent

/-- Nothing of this pipeline has been taken or shown. -/
structure Unplayed (w : World) : Prop where
  taken : w.history.taken = []
  sent : w.history.sent = []

/-- The frame in hand was the last to be taken. It may have been shown already. -/
structure Playing (w : World) (inHand : Option FrameQueue.Span) (done : List Frame)
    (frame : Frame) : Prop where
  taken : w.history.taken = done ++ [frame]
  holds : w.Holds inHand frame
  sent : Repeats done w.history.sent ∨ Repeats (done ++ [frame]) w.history.sent

/-- The frame in hand was the last to be taken, and it has been shown. -/
structure Shown (w : World) (inHand : Option FrameQueue.Span) (done : List Frame)
    (frame : Frame) : Prop where
  taken : w.history.taken = done ++ [frame]
  holds : w.Holds inHand frame
  sent : Repeats (done ++ [frame]) w.history.sent

/-- What another thread does to the frames of a pipeline while its record
thread runs. -/
structure Beside (w w' : World) : Prop where
  taken : w'.history.taken = w.history.taken
  sent : w'.history.sent = w.history.sent
  queue :
    (w'.queue = w.queue ∧ w'.history.accepted = w.history.accepted) ∨
    (w'.queue = w.closeQueue.queue ∧ w'.history.accepted = w.history.accepted) ∨
    ∃ queue queue' frame, w.queue = some queue ∧ queue.put frame = .stored queue' ∧
      w'.queue = some queue' ∧ w'.history.accepted = w.history.accepted ++ [frame]

variable {w w' : World} {inHand : Option FrameQueue.Span} {done : List Frame} {frame : Frame}

theorem Beside.same (hQueue : w'.queue = w.queue) (hTaken : w'.history.taken = w.history.taken)
    (hSent : w'.history.sent = w.history.sent)
    (hAccepted : w'.history.accepted = w.history.accepted) : w.Beside w' :=
  ⟨hTaken, hSent, Or.inl ⟨hQueue, hAccepted⟩⟩

theorem Accounted.same (h : w.Accounted) (hQueue : w'.queue = w.queue)
    (hTaken : w'.history.taken = w.history.taken)
    (hAccepted : w'.history.accepted = w.history.accepted) : w'.Accounted where
  taken_prefix := by
    rw [hTaken, hAccepted]
    exact h.taken_prefix
  waiting := by
    rw [hTaken, hAccepted, hQueue]
    exact h.waiting

theorem Accounted.set {queue : FrameQueue} (hQueue : w.queue = some queue)
    (h : w.history.accepted = w.history.taken ++ queue.contents) : w.Accounted where
  taken_prefix := by
    rw [h]
    exact List.prefix_append _ _
  waiting := by
    intro other hOther
    obtain rfl := Option.some.inj (hQueue.symm.trans hOther)
    exact h

/-- A frame that leaves the queue goes from those waiting to those taken. -/
theorem Accounted.dequeue {queue : FrameQueue} (h : w.Accounted) (valid : w.QueueValid)
    (isSet : w.queue = some queue) (waiting : 0 < queue.load) (clock : Nat) :
    (w.dequeue queue.takeLocked.2 queue.takeLocked.1 clock).Accounted := by
  apply Accounted.set rfl
  have hAll := h.waiting queue isSet
  rw [FrameQueue.takeLocked_contents (valid queue isSet) waiting] at hAll
  simpa [World.dequeue, FrameQueue.takeLocked_view] using hAll

theorem Accounted.beside (h : w.Accounted) (valid : w.QueueValid) (hBeside : w.Beside w') :
    w'.Accounted := by
  rcases hBeside.queue with ⟨hQueue, hAccepted⟩ | ⟨hQueue, hAccepted⟩ |
    ⟨queue, queue', frame, isSet, put, hQueue, hAccepted⟩
  · exact h.same hQueue hBeside.taken hAccepted
  · refine ⟨by simpa [hBeside.taken, hAccepted] using h.taken_prefix, ?_⟩
    intro queue hSet
    obtain ⟨before, hBefore, rfl⟩ := Option.map_eq_some_iff.mp (hQueue.symm.trans hSet)
    rw [hBeside.taken, hAccepted]
    exact h.waiting before hBefore
  · apply Accounted.set hQueue
    rw [hAccepted, hBeside.taken, h.waiting queue isSet,
      FrameQueue.put_contents (valid queue isSet) put, List.append_assoc]

theorem Recorded.same (h : w.Recorded) (hTaken : w.history.taken <+: w'.history.taken)
    (hSent : w'.history.sent = w.history.sent) : w'.Recorded := by
  obtain ⟨frames, hFrames, hRepeats⟩ := h
  exact ⟨frames, hFrames.trans hTaken, hSent ▸ hRepeats⟩

theorem Holds.beside (h : w.Holds inHand frame) (valid : w.QueueValid) (hBeside : w.Beside w') :
    w'.Holds inHand frame := by
  rcases hBeside.queue with ⟨hSame, -⟩ | ⟨hClosed, -⟩ | ⟨queue, queue', frame, isSet, put, hStored, -⟩
  · exact h.same hSame
  · exact h.close hClosed
  · exact h.put valid isSet put hStored

/-- The frame that has just left the queue is in hand. -/
theorem QueueValid.holds {queue : FrameQueue} (valid : w.QueueValid) (isSet : w.queue = some queue)
    (clock : Nat) :
    (w.dequeue queue.takeLocked.2 queue.takeLocked.1 clock).Holds (some queue.takeLocked.1)
      (queue.takeLocked.2.view queue.takeLocked.1) :=
  ⟨queue.takeLocked.2, queue.takeLocked.1, rfl, rfl, (valid _ isSet).takeLocked_holds, rfl⟩

theorem Holds.eq {queue : FrameQueue} {span : FrameQueue.Span} (h : w.Holds inHand frame)
    (isSet : w.queue = some queue) (hSpan : inHand = some span) : frame = queue.view span := by
  obtain ⟨queue', span', hQueue, hInHand, -, rfl⟩ := h
  obtain rfl := Option.some.inj (hQueue.symm.trans isSet)
  obtain rfl := Option.some.inj (hInHand.symm.trans hSpan)
  rfl

theorem Drained.beside (h : w.Drained) (hBeside : w.Beside w') : w'.Drained := by
  obtain ⟨queue, hQueue, hClosed, hEmpty⟩ := h
  rcases hBeside.queue with ⟨hSame, -⟩ | ⟨hClose, -⟩ | ⟨queue, queue', frame, isSet, put, -⟩
  · exact ⟨queue, hSame.trans hQueue, hClosed, hEmpty⟩
  · refine ⟨queue.close, ?_, rfl, hEmpty⟩
    rw [hClose, World.closeQueue, hQueue]
    rfl
  · obtain rfl := Option.some.inj (isSet.symm.trans hQueue)
    rw [(FrameQueue.put_stored put).2.2.1] at hClosed
    cases hClosed

theorem Unplayed.same (h : w.Unplayed) (hTaken : w'.history.taken = w.history.taken)
    (hSent : w'.history.sent = w.history.sent) : w'.Unplayed :=
  ⟨hTaken.trans h.taken, hSent.trans h.sent⟩

theorem Shown.playing (h : w.Shown inHand done frame) : w.Playing inHand done frame :=
  ⟨h.taken, h.holds, Or.inr h.sent⟩

theorem Playing.beside (h : w.Playing inHand done frame) (valid : w.QueueValid)
    (hBeside : w.Beside w') : w'.Playing inHand done frame :=
  ⟨hBeside.taken.trans h.taken, h.holds.beside valid hBeside, hBeside.sent ▸ h.sent⟩

theorem Shown.beside (h : w.Shown inHand done frame) (valid : w.QueueValid)
    (hBeside : w.Beside w') : w'.Shown inHand done frame :=
  ⟨hBeside.taken.trans h.taken, h.holds.beside valid hBeside, hBeside.sent ▸ h.sent⟩

/-- Sending the frame in hand shows it, for the first time or once more. -/
theorem Playing.send (h : w.Playing inHand done frame) :
    World.Shown { w with history := { w.history with sent := w.history.sent ++ [frame] } }
      inHand done frame := by
  refine ⟨h.taken, h.holds, ?_⟩
  rcases h.sent with hFirst | hAgain
  · exact hFirst.next frame
  · exact hAgain.again

end World

/-- What the record thread has in hand at each step, and what of it has been shown. -/
def RecordPhase (w : World) (l : RecordLocals) : RecordPc → Prop
  | .notifyStarted | .firstFrame => w.Unplayed
  | .clearCounter | .clearTime | .loopHead | .frameSeen | .preview | .output =>
      ∃ done frame, w.Playing l.frame done frame
  | .readState | .countFrame | .addTime | .nextFrame => ∃ done frame, w.Shown l.frame done frame
  | .storeReason | .exchange | .rollback => w.Drained ∧ ∃ done frame, w.Shown l.frame done frame
  | .report _ | .notifyStopped => True

section Thread

variable {env : Environment} {ans : Answer} {clock : Nat} {w w' : World} {l : RecordLocals}
  {pc : RecordPc} {t : RecordThread}

theorem RecordPhase.beside (h : RecordPhase w l pc) (valid : w.QueueValid) (hBeside : w.Beside w') :
    RecordPhase w' l pc := by
  cases pc with
  | notifyStarted | firstFrame => exact h.same hBeside.taken hBeside.sent
  | clearCounter | clearTime | loopHead | frameSeen | preview | output =>
      obtain ⟨done, frame, hPlaying⟩ := h
      exact ⟨done, frame, hPlaying.beside valid hBeside⟩
  | readState | countFrame | addTime | nextFrame =>
      obtain ⟨done, frame, hShown⟩ := h
      exact ⟨done, frame, hShown.beside valid hBeside⟩
  | storeReason | exchange | rollback =>
      obtain ⟨hDrained, done, frame, hShown⟩ := h
      exact ⟨hDrained.beside hBeside, done, frame, hShown.beside valid hBeside⟩
  | report | notifyStopped => trivial

/-- A frame that has left the queue is the next to be shown. -/
theorem World.QueueValid.playing {queue : FrameQueue} {done : List Frame} (valid : w.QueueValid)
    (isSet : w.queue = some queue) (hTaken : w.history.taken = done)
    (hSent : Repeats done w.history.sent) :
    (w.dequeue queue.takeLocked.2 queue.takeLocked.1 clock).Playing (some queue.takeLocked.1) done
      (queue.takeLocked.2.view queue.takeLocked.1) := by
  refine ⟨?_, valid.holds isSet clock, Or.inl hSent⟩
  rw [← hTaken]
  rfl

/-- A step of the record thread. -/
theorem RecordMove.phase {l' : RecordLocals} {pc' : RecordPc}
    (h : RecordMove env ans clock w l pc w' (some (pc', l'))) (valid : w.QueueValid)
    (hPhase : RecordPhase w l pc) : RecordPhase w' l' pc' := by
  cases h with
  | notifyStarted => exact World.Unplayed.same hPhase rfl rfl
  | noFrames => trivial
  | firstFrame isSet =>
      refine ⟨[], _, valid.playing isSet hPhase.taken ?_⟩
      rw [hPhase.sent]
      exact Repeats.none
  | clearCounter | clearTime =>
      obtain ⟨done, frame, hPlaying⟩ := hPhase
      exact ⟨done, frame, hPlaying.beside valid (.same rfl rfl rfl rfl)⟩
  | leaveLoop => trivial
  | stayInLoop | preview => exact hPhase
  | frameSeen isSet inHand =>
      obtain ⟨shown, hShown⟩ := w.timeChange_eq (recordingTime env _ = l.dvTime) _
      rw [hShown]
      obtain ⟨done, frame, hPlaying⟩ := hPhase
      exact ⟨done, frame, hPlaying.beside valid (.same rfl rfl rfl rfl)⟩
  | outputFails => trivial
  | output isSet inHand =>
      obtain ⟨done, frame, hPlaying⟩ := hPhase
      obtain rfl := hPlaying.holds.eq isSet inHand
      exact ⟨done, _, hPlaying.send⟩
  | goOn => exact hPhase
  | sendAgain =>
      obtain ⟨done, frame, hShown⟩ := hPhase
      exact ⟨done, frame, hShown.playing⟩
  | countFrame | addTime =>
      obtain ⟨done, frame, hShown⟩ := hPhase
      exact ⟨done, frame, hShown.beside valid (.same rfl rfl rfl rfl)⟩
  | nextFrame isSet =>
      obtain ⟨done, frame, hShown⟩ := hPhase
      exact ⟨done ++ [frame], _, valid.playing isSet hShown.taken hShown.sent⟩
  | endOfFiles isSet closed empty => exact ⟨⟨_, isSet, closed, empty⟩, hPhase⟩
  | storeReason => exact RecordPhase.beside hPhase valid (.same rfl rfl rfl rfl)
  | enterFinished | rollback =>
      obtain ⟨-, done, frame, hShown⟩ := hPhase
      exact ⟨done, frame, hShown.playing.beside valid (.same rfl rfl rfl rfl)⟩
  | exchangeFails => exact hPhase
  | report => trivial

theorem RecordMove.accounted (h : RecordMove env ans clock w l pc w' t) (valid : w.QueueValid)
    (hAccounted : w.Accounted) : w'.Accounted := by
  cases h with
  | firstFrame isSet waiting | nextFrame isSet waiting =>
      exact hAccounted.dequeue valid isSet waiting clock
  | frameSeen =>
      obtain ⟨shown, hShown⟩ := w.timeChange_eq (recordingTime env _ = l.dvTime) _
      rw [hShown]
      exact hAccounted.same rfl rfl rfl
  | _ => exact hAccounted.same rfl rfl rfl

theorem RecordMove.recorded (h : RecordMove env ans clock w l pc w' t) (hPhase : RecordPhase w l pc)
    (hRecorded : w.Recorded) : w'.Recorded := by
  cases h with
  | firstFrame | nextFrame => exact hRecorded.same (List.prefix_append _ _) rfl
  | frameSeen =>
      obtain ⟨shown, hShown⟩ := w.timeChange_eq (recordingTime env _ = l.dvTime) _
      rw [hShown]
      exact hRecorded
  | output isSet inHand =>
      obtain ⟨done, frame, hPlaying⟩ := hPhase
      obtain rfl := hPlaying.holds.eq isSet inHand
      have hShown := hPlaying.send
      exact ⟨_, hShown.taken ▸ List.prefix_refl _, hShown.sent⟩
  | _ => exact hRecorded

theorem CaptureMove.accounted {l : CaptureLocals} {pc : CapturePc} {t : CaptureThread}
    (h : CaptureMove env ans clock w l pc w' t) (valid : w.QueueValid) (hAccounted : w.Accounted) :
    w'.Accounted := by
  obtain ⟨files, hFinish⟩ := w.finishWriter_fst env ans
  cases h with
  | takeFrame isSet waiting => exact hAccounted.dequeue valid isSet waiting clock
  | finishThrows | finishes | split =>
      rw [hFinish]
      exact hAccounted.same rfl rfl rfl
  | releaseWriter =>
      rw [World.resetWriter, hFinish]
      exact hAccounted.same rfl rfl rfl
  | frameSeen =>
      obtain ⟨shown, hShown⟩ := w.timeChange_eq (recordingTime env _ = l.dvTime) _
      rw [hShown]
      exact hAccounted.same rfl rfl rfl
  | _ => exact hAccounted.same rfl rfl rfl

theorem CaptureMove.recorded {l : CaptureLocals} {pc : CapturePc} {t : CaptureThread}
    (h : CaptureMove env ans clock w l pc w' t) (hRecorded : w.Recorded) : w'.Recorded := by
  obtain ⟨files, hFinish⟩ := w.finishWriter_fst env ans
  cases h with
  | takeFrame => exact hRecorded.same (List.prefix_append _ _) rfl
  | finishThrows | finishes | split =>
      rw [hFinish]
      exact hRecorded
  | releaseWriter =>
      rw [World.resetWriter, hFinish]
      exact hRecorded
  | frameSeen =>
      obtain ⟨shown, hShown⟩ := w.timeChange_eq (recordingTime env _ = l.dvTime) _
      rw [hShown]
      exact hRecorded
  | _ => exact hRecorded

theorem CallbackMove.beside {callback : Callback} {next : Option Callback}
    (h : CallbackMove w callback w' next) : w.Beside w' := by
  cases h with
  | stored isSet put => exact ⟨rfl, rfl, Or.inr (Or.inr ⟨_, _, _, isSet, put, rfl, rfl⟩)⟩
  | close => exact ⟨rfl, rfl, Or.inr (Or.inl ⟨rfl, rfl⟩)⟩
  | _ => exact .same rfl rfl rfl rfl

end Thread

/-- The steps of a Build call from the clearing of its history to the new queue. -/
def BuildPc.beforeQueue : BuildPc → Bool
  | .openSource | .getMediaType | .createMonitor _ | .openOutput _ | .createQueue _ => true
  | .takeError | .setPaused | .runSource | .recPause | .startWorker => false

namespace Config

variable {env : Environment} {ans : Answer} {c c' : Config} {request next : Request}
  {action : Action} {pc : RecordPc} {l : RecordLocals}

/-- A Build call does not go back behind the new queue. -/
theorem buildStep_beforeQueue {pc nextPc : BuildPc} (h : buildStep ans c request pc = .next c')
    (hCall : c'.call = .busy next (.build nextPc)) (hBefore : nextPc.beforeQueue = true) :
    pc = .takeError ∨ pc.beforeQueue = true ∧ ∀ sampleSize, pc ≠ .createQueue sampleSize := by
  cases pc with
  | takeError => exact Or.inl rfl
  | openSource | getMediaType | createMonitor | openOutput => exact Or.inr ⟨rfl, by simp⟩
  | createQueue | setPaused | runSource | recPause | startWorker =>
      simp only [buildStep, attempt] at h
      repeat' split at h
      all_goals
        first
        | (cases command_next h; cases hCall; cases hBefore)
        | (cases Outcome.next.inj (Outcome.require_next.mp h).2; cases hCall; cases hBefore)
        | (cases h; cases hCall; cases hBefore)
        | (cases Outcome.next.inj (Outcome.require_next.mp h).2; cases hCall)
        | (cases h; cases hCall)

/-- What the controlling thread does to the frames beside a running worker. -/
theorem Agree.control_beside (h : c.Agree) (hRunning : c.worker ≠ .absent)
    (hThread : c.worker ≠ .returned) {callPc : CallPc} (hBusy : c.call = .busy request callPc)
    (hSteps : Steps env ans c request callPc c') :
    c'.worker = c.worker ∧ c.world.Beside c'.world := by
  obtain ⟨hBuild, hRelease, hClear⟩ := h.worker_call hRunning hBusy
  have hMove := hSteps.move
  generalize c'.world = w' at hMove ⊢
  generalize c'.worker = t' at hMove ⊢
  cases hMove with
  | closeQueue => exact ⟨rfl, rfl, rfl, Or.inr (Or.inl ⟨rfl, rfl⟩)⟩
  | join returned => exact absurd returned hThread
  | release => exact absurd rfl hRelease
  | clearStatus => exact absurd rfl hClear
  | takeError | createQueue | setPaused | startWorker => exact absurd rfl (hBuild _)
  | _ => exact ⟨rfl, .same rfl rfl rfl rfl⟩

/-- A step beside or of a running record thread. -/
theorem Agree.record_cases (h : c.Agree) (hThread : c.worker = .record pc l)
    (hStep : c.step env action = some c') :
    (∃ ans w' t, action = .worker ans ∧ RecordMove env ans c.clock c.world l pc w' t ∧
      c' = c.recordResult (w', t)) ∨
    (c'.worker = .record pc l ∧ c.world.Beside c'.world ∧ ∀ ans, action ≠ .worker ans) := by
  cases step_move hStep with
  | control busy step =>
      obtain ⟨hWorker, hBeside⟩ :=
        h.control_beside (by simp [hThread]) (by simp [hThread]) busy (callStep_steps step)
      exact Or.inr ⟨hWorker.trans hThread, hBeside, by simp⟩
  | capture thread =>
      rw [hThread] at thread
      cases thread
  | @record ans pc' l' w' t thread move =>
      rw [hThread] at thread
      cases thread
      exact Or.inl ⟨ans, w', t, rfl, move, rfl⟩
  | callback thread move => exact Or.inr ⟨hThread, move.beside, by simp⟩
  | begin | deliver | tick | setOptions | takeError =>
      exact Or.inr ⟨hThread, .same rfl rfl rfl rfl, by simp⟩

/-- A record thread runs already, or a Build call has just started it. -/
theorem record_from (hStep : c.step env action = some c') (hThread : c'.worker = .record pc l) :
    (∃ before l', c.worker = .record before l') ∨
      c'.world = c.world ∧ pc = .notifyStarted ∧ l = {} ∧
        ∃ request, c.call = .busy request (.build .startWorker) := by
  cases step_move hStep with
  | @control ans request callPc _ busy step =>
      have hMove := (callStep_steps step).move
      generalize c'.world = w' at hMove ⊢
      rw [hThread] at hMove
      generalize hWorker : Worker.record pc l = worker' at hMove
      cases hMove with
      | startWorker =>
          unfold Request.thread at hWorker
          split_ifs at hWorker
          cases hWorker
          exact Or.inr ⟨rfl, rfl, rfl, request, busy⟩
      | join => cases hWorker
      | _ => exact Or.inl ⟨pc, l, hWorker.symm⟩
  | record thread => exact Or.inl ⟨_, _, thread⟩
  | @capture ans pc' l' w' t thread move => cases t <;> cases hThread
  | begin | deliver | callback | tick | setOptions | takeError => exact Or.inl ⟨pc, l, hThread⟩

/-- What the order of the frames on the tape rests on in every state reached. -/
structure Playback (c : Config) : Prop where
  agree : c.Agree
  queue : c.world.QueueValid
  accounted : c.world.Accounted
  recorded : c.world.Recorded
  unqueued : ∀ request pc, c.call = .busy request (.build pc) → pc.beforeQueue = true →
    c.world.history.accepted = []
  unplayed : ∀ request pc, c.call = .busy request (.build pc) → pc ≠ .takeError → c.world.Unplayed
  phase : ∀ pc l, c.worker = .record pc l → RecordPhase c.world l pc

theorem playback_initial : ({} : Config).Playback where
  agree := agree_initial
  queue := fun _ hNone => by cases hNone
  accounted := ⟨List.prefix_refl _, fun _ hNone => by cases hNone⟩
  recorded := ⟨[], List.prefix_refl _, Repeats.none⟩
  unqueued := fun _ _ hBusy => by cases hBusy
  unplayed := fun _ _ hBusy => by cases hBusy
  phase := fun _ _ hThread => by cases hThread

/-- No call begins with a step of a Build call. -/
theorem entry_ne_build {pc : BuildPc} : request.entry ≠ .build pc := by
  cases request <;> simp [Request.entry]

/-- The end of a `Destroy` is followed by the clearing of the history. -/
theorem callStep_destroy_build {pc : DestroyPc} {nextPc : BuildPc}
    (h : callStep env ans c request (.destroy pc) = .next c')
    (hCall : c'.call = .busy next (.build nextPc)) : nextPc = .takeError := by
  cases pc with
  | clearStatus =>
      obtain rfl := Outcome.next.inj h
      split_ifs at hCall
      · cases hCall
      · cases hCall
        rfl
  | _ =>
      simp only [callStep, destroyStep] at h
      repeat' split at h
      all_goals
        cases h
        try cases hCall

theorem Playback.control_accounted {callPc : CallPc} {w' : World} {worker' : Worker}
    (h : c.Playback) (hBusy : c.call = .busy request callPc)
    (move : CallMove env ans c.world c.worker request callPc w' worker') : w'.Accounted := by
  cases move with
  | closeQueue => exact h.accounted.beside h.queue ⟨rfl, rfl, Or.inr (Or.inl ⟨rfl, rfl⟩)⟩
  | release =>
      obtain ⟨files, hFinish⟩ := c.world.finishWriter_fst env ans
      rw [World.release, World.resetWriter, hFinish]
      exact ⟨h.accounted.taken_prefix, fun _ hNone => by cases hNone⟩
  | takeError =>
      have hCall := h.agree.call
      rw [hBusy] at hCall
      have hNone : c.world.queue = none := Option.not_isSome_iff_eq_none.mp (Bool.eq_false_iff.mp hCall.2.2)
      refine ⟨List.prefix_refl _, fun queue hQueue => ?_⟩
      rw [World.beginPipeline, hNone] at hQueue
      cases hQueue
  | createQueue =>
      apply World.Accounted.set rfl
      show c.world.history.accepted = c.world.history.taken ++ _
      rw [h.unqueued _ _ hBusy rfl, (h.unplayed _ _ hBusy (by simp)).taken]
      rfl
  | _ => exact h.accounted.same rfl rfl rfl

theorem Playback.control_recorded {callPc : CallPc} {w' : World} {worker' : Worker}
    (h : c.Playback) (move : CallMove env ans c.world c.worker request callPc w' worker') :
    w'.Recorded := by
  cases move with
  | release =>
      obtain ⟨files, hFinish⟩ := c.world.finishWriter_fst env ans
      rw [World.release, World.resetWriter, hFinish]
      exact h.recorded
  | takeError => exact ⟨[], List.prefix_refl _, Repeats.none⟩
  | _ => exact h.recorded

/-- Inside a Build call nothing has come into the queue before there is one. -/
theorem Playback.control_unqueued {callPc : CallPc} (h : c.Playback)
    (hBusy : c.call = .busy request callPc) (step : callStep env ans c request callPc = .next c')
    {nextPc : BuildPc} (hNext : c'.call = .busy next (.build nextPc))
    (hBefore : nextPc.beforeQueue = true) : c'.world.history.accepted = [] := by
  rcases callStep_build step hNext with rfl | ⟨before, rfl⟩
  · rw [callStep_destroy_build step hNext] at hBefore
    cases hBefore
  · rcases buildStep_beforeQueue step hNext hBefore with rfl | ⟨hEarlier, hNotQueue⟩
    · obtain rfl := Outcome.next.inj step
      rfl
    · have hNone := h.unqueued _ _ hBusy hEarlier
      have hMove := (callStep_steps step).move
      generalize c'.world = w' at hMove ⊢
      generalize c'.worker = worker' at hMove
      cases hMove with
      | pass => exact hNone
      | createQueue => exact absurd rfl (hNotQueue _)
      | takeError | setPaused | startWorker => cases hEarlier
      | clearReason clears => simp at clears

/-- Inside a Build call nothing has been taken or shown. -/
theorem Playback.control_unplayed {callPc : CallPc} (h : c.Playback)
    (hBusy : c.call = .busy request callPc) (step : callStep env ans c request callPc = .next c')
    {nextPc : BuildPc} (hNext : c'.call = .busy next (.build nextPc)) (hPc : nextPc ≠ .takeError) :
    c'.world.Unplayed := by
  rcases callStep_build step hNext with rfl | ⟨before, rfl⟩
  · exact absurd (callStep_destroy_build step hNext) hPc
  · by_cases hFirst : before = .takeError
    · subst hFirst
      obtain rfl := Outcome.next.inj step
      exact ⟨rfl, rfl⟩
    · have hUnplayed := h.unplayed _ _ hBusy hFirst
      have hMove := (callStep_steps step).move
      generalize c'.world = w' at hMove ⊢
      generalize c'.worker = worker' at hMove
      cases hMove with
      | takeError => exact absurd rfl hFirst
      | pass => exact hUnplayed
      | createQueue | setPaused | startWorker => exact hUnplayed.same rfl rfl
      | clearReason clears => simp at clears

/-- The record thread after a step of any thread. -/
theorem Playback.phase_step (h : c.Playback) (hStep : c.step env action = some c')
    (hThread' : c'.worker = .record pc l) : RecordPhase c'.world l pc := by
  rcases record_from hStep hThread' with ⟨before, l', hThread⟩ | ⟨hWorld, rfl, rfl, request, hBusy⟩
  · have hPhase := h.phase before l' hThread
    rcases h.agree.record_cases hThread hStep with ⟨ans, w', t, -, move, rfl⟩ | ⟨hWorker, hBeside, -⟩
    · cases t with
      | none => cases hThread'
      | some thread =>
          cases hThread'
          exact move.phase h.queue hPhase
    · rw [hWorker] at hThread'
      cases hThread'
      exact hPhase.beside h.queue hBeside
  · rw [hWorld]
    exact h.unplayed _ _ hBusy (by simp)

theorem Playback.step (h : c.Playback) (hStep : c.step env action = some c') : c'.Playback := by
  have hPhase : ∀ pc l, c'.worker = .record pc l → RecordPhase c'.world l pc :=
    fun _ _ hThread => h.phase_step hStep hThread
  have hAgree := h.agree.step hStep
  have hQueue := queueValid_step h.queue hStep
  cases step_move hStep with
  | begin =>
      refine ⟨hAgree, hQueue, h.accounted, h.recorded, ?_, ?_, hPhase⟩
      all_goals
        intro r buildPc hBusy
        exact absurd (Call.busy.inj hBusy).2 entry_ne_build
  | control busy step =>
      have hMove := (callStep_steps step).move
      exact ⟨hAgree, hQueue, h.control_accounted busy hMove, h.control_recorded hMove,
        fun _ _ hNext => h.control_unqueued busy step hNext,
        fun _ _ hNext => h.control_unplayed busy step hNext, hPhase⟩
  | capture thread move =>
      refine ⟨hAgree, hQueue, move.accounted h.queue h.accounted, move.recorded h.recorded, ?_, ?_, hPhase⟩
      all_goals
        intro r buildPc hBusy
        rw [h.agree.build_absent hBusy] at thread
        cases thread
  | record thread move =>
      refine ⟨hAgree, hQueue, move.accounted h.queue h.accounted,
        move.recorded (h.phase _ _ thread) h.recorded, ?_, ?_, hPhase⟩
      all_goals
        intro r buildPc hBusy
        rw [h.agree.build_absent hBusy] at thread
        cases thread
  | callback thread move =>
      have hBeside := move.beside
      refine ⟨hAgree, hQueue, h.accounted.beside h.queue hBeside,
        h.recorded.same (hBeside.taken ▸ List.prefix_refl _) hBeside.sent, ?_, ?_, hPhase⟩
      · -- no source runs before there is a queue
        intro r buildPc hBusy hBefore
        have hRunning := h.agree.callback (by simp [thread])
        have hCall := h.agree.call
        rw [show c.call = .busy r (.build buildPc) from hBusy] at hCall
        have hStopped : c.view.Stopped := by
          cases buildPc with
          | openSource | getMediaType | createMonitor | openOutput | createQueue => exact hCall.1
          | _ => cases hBefore
        have hNot : c.running = false := hStopped.running
        rw [hRunning] at hNot
        cases hNot
      · intro r buildPc hBusy hPc
        exact (h.unplayed r buildPc hBusy hPc).same hBeside.taken hBeside.sent
  | deliver | tick | setOptions | takeError =>
      exact ⟨hAgree, hQueue, h.accounted.same rfl rfl rfl, h.recorded, h.unqueued,
        fun r buildPc hBusy hPc => (h.unplayed r buildPc hBusy hPc).same rfl rfl, hPhase⟩

theorem playback_run {log : List (Config × Action)} (run : Transition.Runs (Config.step env) {} log c) :
    c.Playback :=
  run.invariant Playback playback_initial fun _ _ _ h hStep => h.step hStep

end Config

end WinDV
