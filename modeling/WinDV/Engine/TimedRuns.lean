import WinDV.Engine.FreshPipeline

/-! The first capture of a pipeline with a time limit, over every run in which
no other call is made. -/
namespace WinDV

open Transition Segmentation

/-- The frame in hand, while the test for its write is still to come. -/
def CaptureLocals.inHand (l : CaptureLocals) (w : World) (pc : CapturePc) : List Frame :=
  match pc.undecided, w.queue, l.frame with
  | true, some queue, some span => [queue.view span]
  | _, _, _ => []

/-- The capture thread waits for a frame, or there is none. -/
def Config.atRest (c : Config) : Bool := c.captureThread.all fun thread => thread.1.awaitsFrame

/-- Where a capture limited to `limit` stands. The `frames` are those handed to
the loop, and those `kept` have been written. -/
inductive TimedOutcome (limit : Int64) (frames kept : List Frame) (c : Config) : Prop where
  | goesOn {pending : List Frame} (capturing : c.world.state = .capturing)
      (handed : frames = kept ++ pending) (atMostOne : pending.length ≤ 1)
      (short : NoPrefix (Reaches limit) kept ∨
        pending = [] ∧ ShortestPrefix (Reaches limit) frames kept)
      (atRest : c.atRest = true → pending = [] ∧ NoPrefix (Reaches limit) frames)
  | ended (finished : c.world.state = .finished) (reason : c.world.stopReason = .duration)
      (kept_shortest : ShortestPrefix (Reaches limit) frames kept)
      (counter : c.world.counter = .ofNat kept.length) (time : c.world.time = addedDuration kept)

/-- The steps from where the loop goes on after a self-stop to its rest. -/
def Resume.stepsToRest : Resume → Nat
  | .loopHead => 0
  | .updateDropped => 1
  | .readWriteState => 13

/-- At most how many steps the thread takes until it waits for a frame or returns. -/
def CapturePc.stepsToRest : CapturePc → Nat
  | .loopHead | .getFrame => 0
  | .updateDropped | .clearTime | .resetCounts | .notifyStopped => 1
  | .clearCounter | .readFinished | .releaseWriter => 2
  | .readDropped | .rereadDropped | .report _ => 3
  | .getMediaType | .closeFile | .afterLoop => 4
  | .signalLost | .clearCaptureTime => 5
  | .noFrame | .readCaptureTime => 6
  | .addTime => 7
  | .countFrame => 8
  | .writeFrame => 9
  | .openWriter => 10
  | .copyTarget => 11
  | .splitFile => 12
  | .readWriteState => 13
  | .diskFull => 17
  | .checkDisk => 18
  | .readDiskState => 19
  | .preview => 20
  | .frameSeen => 21
  | .newFile => 22
  | .newWatch => 23
  | .readState => 24
  | .readClock => 25
  | .rollback resume => resume.stepsToRest + 1
  | .exchange _ resume => resume.stepsToRest + 2
  | .storeReason _ resume => resume.stepsToRest + 3

section Thread

variable {limit : Int64} {env : Environment} {ans : Answer} {clock : Nat} {start w w' : World}
  {l l' : CaptureLocals} {pc pc' : CapturePc} {t : CaptureThread} {handled pending inHand : List Frame}
  {frame : Frame}

theorem CapturePc.stepsToRest_le (pc : CapturePc) : pc.stepsToRest ≤ 25 := by
  cases pc with
  | storeReason _ resume | exchange _ resume | rollback resume =>
      cases resume <;> simp [stepsToRest, Resume.stepsToRest]
  | _ => simp [stepsToRest]

theorem CapturePc.stepsToRest_eq_zero : pc.stepsToRest = 0 ↔ pc.awaitsFrame = true := by
  cases pc <;> simp [stepsToRest, awaitsFrame]

theorem afterState_stepsToRest (l : CaptureLocals) : l.afterState.stepsToRest < 22 := by
  unfold CaptureLocals.afterState
  split_ifs <;> decide

/-- Every step brings the thread closer to its rest. -/
theorem CaptureMove.stepsToRest (h : CaptureMove env ans clock w l pc w' (some (pc', l')))
    (hPc : pc.awaitsFrame = false) : pc'.stepsToRest < pc.stepsToRest := by
  cases h with
  | throws mayThrow =>
      cases pc with
      | getMediaType | openWriter | writeFrame => simp [CapturePc.stepsToRest]
      | _ => cases mayThrow
  | finishThrows finishes =>
      cases pc with
      | signalLost | diskFull | closeFile | afterLoop | splitFile => simp [CapturePc.stepsToRest]
      | _ => simp [CapturePc.finishNext] at finishes
  | finishes goesOn =>
      cases pc with
      | signalLost | diskFull | closeFile | afterLoop =>
          cases goesOn
          decide
      | _ => cases goesOn
  | leaveLoop | stayInLoop | timeOut | takeFrame => cases hPc
  | readState | newFile =>
      apply (afterState_stepsToRest l).trans_le
      decide
  | @enterFinished reason resume | @rollback resume =>
      cases resume <;> simp [Resume.pc, CapturePc.stepsToRest, Resume.stepsToRest]
  | _ => simp [CapturePc.stepsToRest, Resume.stepsToRest]

theorem CaptureLocals.inHand_holding (h : Holding w l frame) (hPc : pc.undecided = true) :
    l.inHand w pc = [frame] := by
  obtain ⟨queue, span, isSet, hSpan, -, rfl⟩ := h
  simp [CaptureLocals.inHand, hPc, isSet, hSpan]

theorem CaptureLocals.inHand_decided (hPc : pc.undecided = false) : l.inHand w pc = [] := by
  simp [CaptureLocals.inHand, hPc]

theorem InHandOr.eq_inHand (h : InHandOr w l pending) (hPc : pc.undecided = true) :
    l.inHand w pc = pending := by
  rcases h with ⟨hNone, rfl⟩ | ⟨frame, rfl, hHolding⟩
  · unfold CaptureLocals.inHand
    rw [hNone]
    split <;> simp_all
  · exact CaptureLocals.inHand_holding hHolding hPc

/-- A Start call sets Capturing for a fresh thread. -/
theorem FreshPhase.begins (h : FreshPhase w l pc) (hLimit : 0 < limit) (args : StartArgs) :
    TimedPhase limit [] (l.inHand w pc) (w.beginCapture args) l pc := by
  have hNone := noPrefix_reaches_nil hLimit
  have hKept : w.Tallied [] → (w.beginCapture args).Tallied [] := fun hTallied => hTallied.same
  cases pc with
  | getMediaType | readDropped | clearCounter | closeFile | rereadDropped | readFinished
  | resetCounts => exact ⟨rfl, CaptureLocals.inHand_decided rfl⟩
  | clearTime => exact ⟨rfl, CaptureLocals.inHand_decided rfl, h⟩
  | loopHead | getFrame => exact ⟨CaptureLocals.inHand_decided rfl, hKept h, hNone⟩
  | noFrame => exact ⟨CaptureLocals.inHand_decided rfl, hKept h.1, hNone⟩
  | afterLoop | report | releaseWriter | notifyStopped => exact ⟨CaptureLocals.inHand_decided rfl, hNone⟩
  | readClock | readState | frameSeen =>
      obtain ⟨hTallied, pending, hPending⟩ := h
      rw [hPending.eq_inHand rfl]
      exact ⟨hPending.same, hKept hTallied, hNone⟩
  | preview | readDiskState | readWriteState =>
      obtain ⟨hTallied, frame, hHolding⟩ := h
      rw [CaptureLocals.inHand_holding hHolding rfl]
      exact ⟨⟨frame, rfl, hHolding.same rfl rfl⟩, hKept hTallied, hNone⟩
  | _ => exact h.elim

theorem TimedPhase.atMostOne (h : TimedPhase limit handled pending w l pc) : pending.length ≤ 1 := by
  have hNone : pending = [] → pending.length ≤ 1 := by
    rintro rfl
    exact Nat.zero_le 1
  have hFrame : (∃ frame, pending = [frame] ∧ Holding w l frame) → pending.length ≤ 1 := by
    rintro ⟨frame, rfl, -⟩
    exact le_refl 1
  cases pc with
  | getMediaType | readDropped | clearCounter | closeFile | rereadDropped | readFinished
  | resetCounts => exact hNone h.2
  | clearTime => exact hNone h.2.1
  | readClock | readState | newWatch | newFile | frameSeen =>
      exact h.1.elim (fun hBoth => hNone hBoth.2) hFrame
  | preview | readDiskState | checkDisk | readWriteState | splitFile | writeFrame | copyTarget
  | openWriter => exact hFrame h.1
  | storeReason | exchange => exact hNone h.2.1
  | signalLost | diskFull | rollback => exact h.elim
  | _ => exact hNone h.1

/-- The frames written have not reached the limit before the last of them. -/
theorem TimedPhase.short (h : TimedPhase limit handled pending w l pc) (hLimit : 0 < limit) :
    NoPrefix (Reaches limit) handled ∨
      pending = [] ∧ ShortestPrefix (Reaches limit) handled handled := by
  have hEmpty : handled = [] → NoPrefix (Reaches limit) handled := by
    rintro rfl
    exact noPrefix_reaches_nil hLimit
  have hLast : ∀ done frame, LastOf limit handled done frame →
      NoPrefix (Reaches limit) handled ∨ ShortestPrefix (Reaches limit) handled handled := by
    rintro done frame ⟨rfl, hShort⟩
    exact hShort.concat_or_shortest
  cases pc with
  | getMediaType | readDropped | clearCounter | closeFile | rereadDropped | readFinished
  | resetCounts | clearTime => exact Or.inl (hEmpty h.1)
  | countFrame | addTime =>
      obtain ⟨hPending, done, frame, hHandled, -⟩ := h
      exact (hLast done frame hHandled).imp_right fun hShortest => ⟨hPending, hShortest⟩
  | readCaptureTime =>
      obtain ⟨hPending, -, done, frame, hHandled⟩ := h
      exact (hLast done frame hHandled).imp_right fun hShortest => ⟨hPending, hShortest⟩
  | clearCaptureTime => exact Or.inr ⟨h.1, h.2.2⟩
  | storeReason | exchange => exact Or.inr ⟨h.2.1, h.2.2.2⟩
  | afterLoop | report | releaseWriter | notifyStopped => exact Or.inl h.2
  | signalLost | diskFull | rollback => exact h.elim
  | copyTarget | openWriter => exact Or.inl h.2.2.1
  | _ => exact Or.inl h.2.2

theorem TimedPhase.atRest (h : TimedPhase limit handled pending w l pc) (hPc : pc.awaitsFrame = true) :
    pending = [] ∧ NoPrefix (Reaches limit) handled := by
  cases pc with
  | loopHead | getFrame => exact ⟨h.1, h.2.2⟩
  | _ => cases hPc

/-- A callback is beyond a timed capture. -/
theorem CallbackMove.beyond {callback : Callback} {next : Option Callback}
    (h : CallbackMove w callback w' next) (valid : w.QueueValid) : w.Beyond w' := by
  have hHolding : ∀ l frame, Holding w l frame → Holding w' l frame := by
    intro l frame hHolding
    have hOther : Config.Interferes { world := w } .callback w' := .callback h
    exact hOther.holding valid hHolding
  cases h with
  | _ => exact ⟨⟨rfl, rfl, rfl, rfl, rfl⟩, rfl, rfl, rfl, hHolding⟩

end Thread

namespace Config

variable {limit : Int64} {env : Environment} {c c' c'' : Config} {action : Action} {start : World}
  {log rest : List (Config × Action)} {request : Request} {held : List Frame}

def inHand (c : Config) : List Frame :=
  match c.worker with
  | .capture pc l => l.inHand c.world pc
  | _ => []

/-- A step of a capture that is left alone: no call is made meanwhile, every
frame is kept, the files can be written, and neither the disk nor the signal
ends the capture. -/
structure Undisturbed (c : Config) (action : Action) : Prop where
  noCall : ∀ request, action ≠ .begin request
  steadily : ∀ ans pc l, action = .worker ans → c.worker = .capture pc l → Steadily ans c.world l pc

/-- The first capture of a pipeline, after the step that set Capturing. -/
structure Timed (limit : Int64) (start : World) (held : List Frame) (c : Config) : Prop where
  sound : c.Sound
  timed : TimedAt limit start held c.world c.captureThread
  call : ∀ request pc, c.call = .busy request pc → pc = .start .ctrlPlay
  notRecording : ∀ pc l, c.worker ≠ .record pc l

/-- The frames handed to the loop reach the limit by now. -/
def Exhausted (limit : Int64) (start : World) (held : List Frame) (c : Config) : Prop :=
  ∃ since, c.world.history.taken = start.history.taken ++ since ∧
    ¬ NoPrefix (Reaches limit) (held ++ since)

/-- How many steps of a run are the worker's. -/
def workerSteps (log : List (Config × Action)) : Nat := log.countP fun entry => entry.2.isWorker

def stepsToRest (c : Config) : Nat := (c.captureThread.map fun thread => thread.1.stepsToRest).getD 0

/-- The store of Capturing for a fresh pipeline. -/
theorem Fresh.timed (h : c.Fresh) (hSound : c.Sound) {ans : Answer}
    (hBusy : c.call = .busy request (.start .storeState)) (hStep : c.step env (.control ans) = some c')
    (hLimit : 0 < request.startArgs.captureTime) :
    c'.Timed request.startArgs.captureTime c.world c.inHand := by
  have hSound' := hSound.step hStep
  have hPaused : c.world.state = .capturePaused := by
    have hCall := hSound.agree.call
    rw [hBusy] at hCall
    exact hCall
  have hTime := h.limit request hBusy
  rw [step_iff] at hStep
  simp only [outcome, hBusy] at hStep
  obtain rfl := Outcome.next.inj hStep
  have hHanded : Handed c.world c.inHand (c.world.beginCapture request.startArgs) [] c.inHand :=
    ⟨⟨[], by simp [World.beginCapture], by simp⟩, (List.append_nil _).symm⟩
  refine ⟨hSound', ?_, ?_, ?_⟩
  · show TimedAt _ _ _ (c.world.beginCapture request.startArgs) c.captureThread
    cases hThread : c.captureThread with
    | none =>
        have hNothing : c.inHand = [] := by
          unfold captureThread at hThread
          unfold inHand
          cases hWorker : c.worker <;> simp_all
        exact ⟨[], _, hHanded, .alone rfl hNothing (noPrefix_reaches_nil hLimit)⟩
    | some thread =>
        obtain ⟨pc, l⟩ := thread
        have hWorker := captureThread_eq_some.mp hThread
        have hInHand : c.inHand = l.inHand c.world pc := by rw [inHand, hWorker]
        refine hHanded.at rfl ?_ fun _ => hTime
        rw [hInHand]
        exact (h.phase pc l hWorker).begins hLimit _
  · intro next pc hCall
    cases hCall
    rfl
  · intro pc l hThread
    have hShape := hSound.agree.worker
    have hRecord : c.worker = .record pc l := hThread
    rw [WorkerReady, hRecord] at hShape
    have hState := hSound.agree.state
    have hView : c.view.state = .capturePaused := hPaused
    rw [View.StateShape, hView] at hState
    have hNot := hShape.1.2.2.2
    rw [hState.1] at hNot
    cases hNot

/-- A step that is not the worker's leaves its thread and what it goes by alone. -/
theorem Timed.beside (h : c.Timed limit start held) (hUndisturbed : c.Undisturbed action)
    (hStep : c.step env action = some c') (hOther : action.isWorker = false) :
    c'.worker = c.worker ∧ c.world.Beyond c'.world ∧
      ∀ request pc, c'.call = .busy request pc → pc = .start .ctrlPlay := by
  have hSame : c.world.Beyond c.world :=
    ⟨⟨rfl, rfl, rfl, rfl, rfl⟩, rfl, rfl, rfl, fun _ _ hHolding => hHolding⟩
  cases step_move hStep with
  | begin => exact absurd rfl (hUndisturbed.noCall _)
  | @control ans request pc _ busy step =>
      obtain rfl := h.call request pc busy
      obtain rfl := command_next step
      exact ⟨rfl, hSame, fun _ _ hCall => by cases hCall⟩
  | capture | record => cases hOther
  | callback thread move => exact ⟨rfl, move.beyond h.sound.queue, h.call⟩
  | setOptions | takeError =>
      exact ⟨rfl, ⟨⟨rfl, rfl, rfl, rfl, rfl⟩, rfl, rfl, rfl,
        fun _ _ hHolding => hHolding.same rfl rfl⟩, h.call⟩
  | deliver | tick => exact ⟨rfl, hSame, h.call⟩

/-- A step of the worker is one of its capture thread. -/
theorem Timed.worker_step (h : c.Timed limit start held) (hStep : c.step env action = some c')
    (hWorker : action.isWorker = true) :
    ∃ ans pc l w' t, action = .worker ans ∧ c.worker = .capture pc l ∧
      CaptureMove env ans c.clock c.world l pc w' t ∧ c' = c.captureResult (w', t) := by
  cases step_move hStep with
  | capture thread move => exact ⟨_, _, _, _, _, rfl, thread, move, rfl⟩
  | record thread => exact absurd thread (h.notRecording _ _)
  | _ => cases hWorker

theorem captureThread_congr (h : c'.worker = c.worker) : c'.captureThread = c.captureThread := by
  rw [captureThread, h, captureThread]

theorem Timed.step (h : c.Timed limit start held) (hLimit : 0 < limit)
    (hUndisturbed : c.Undisturbed action) (hStep : c.step env action = some c') :
    c'.Timed limit start held := by
  have hSound := h.sound.step hStep
  cases hWorker : action.isWorker with
  | true =>
      obtain ⟨ans, pc, l, w', t, rfl, hThread, move, rfl⟩ := h.worker_step hStep hWorker
      have hTimed := h.timed
      rw [captureThread_eq_some.mpr hThread] at hTimed
      refine ⟨hSound, ?_, h.call, ?_⟩
      · rw [captureThread_captureResult]
        exact move.timedAt (hUndisturbed.steadily ans pc l rfl hThread) hLimit h.sound.queue hTimed
      · cases t <;> simp [captureResult]
  | false =>
      obtain ⟨hSame, hBeyond, hCall⟩ := h.beside hUndisturbed hStep hWorker
      refine ⟨hSound, ?_, hCall, ?_⟩
      · rw [captureThread_congr hSame]
        exact h.timed.beyond hBeyond
      · rw [hSame]
        exact h.notRecording

theorem Timed.run (h : c.Timed limit start held) (hLimit : 0 < limit)
    (run : Runs (Config.step env) c log c') (alone : ∀ entry ∈ log, entry.1.Undisturbed entry.2) :
    c'.Timed limit start held :=
  run.invariant_of (fun entry => entry.1.Undisturbed entry.2) (Timed limit start held) h
    (fun _ _ _ hs hUndisturbed hStep => hs.step hLimit hUndisturbed hStep) alone

theorem Timed.outcome (h : c.Timed limit start held) (hLimit : 0 < limit) :
    ∃ since kept, c.world.history.taken = start.history.taken ++ since ∧
      c.world.written = start.written ++ kept ∧ TimedOutcome limit (held ++ since) kept c := by
  obtain ⟨handled, pending, ⟨⟨since, hTaken, hHanded⟩, hWritten⟩, hState⟩ := h.timed
  refine ⟨since, handled, hTaken, hWritten, ?_⟩
  rw [hHanded]
  generalize hThread : c.captureThread = t at hState
  cases hState with
  | alone capturing nothing short =>
      subst nothing
      rw [List.append_nil]
      exact .goesOn capturing (List.append_nil _).symm (Nat.zero_le 1) (Or.inl short)
        fun _ => ⟨rfl, short⟩
  | @goesOn pc l capturing phase =>
      refine .goesOn capturing rfl phase.atMostOne ?_ fun hRest => ?_
      · refine (phase.short hLimit).imp_right fun hShortest => ⟨hShortest.1, ?_⟩
        exact hShortest.2.mono (List.prefix_append _ _)
      · rw [atRest, hThread] at hRest
        obtain ⟨rfl, hShort⟩ := phase.atRest hRest
        rw [List.append_nil]
        exact ⟨rfl, hShort⟩
  | ended finished reason tallied reached =>
      exact .ended finished reason (reached.mono (List.prefix_append _ _)) tallied.counter tallied.time

/-- At rest the capture has ended if the limit has been reached. -/
theorem Timed.finished_at_rest (h : c.Timed limit start held) (hLimit : 0 < limit)
    (hExhausted : c.Exhausted limit start held) (hRest : c.atRest = true) : c.world.state = .finished := by
  obtain ⟨since, hTaken, hReached⟩ := hExhausted
  obtain ⟨since', kept, hTaken', -, hOutcome⟩ := h.outcome hLimit
  obtain rfl := List.append_cancel_left (hTaken.symm.trans hTaken')
  cases hOutcome with
  | goesOn _ _ _ _ atRest => exact absurd (atRest hRest).2 hReached
  | ended finished => exact finished

theorem atRest_iff : c.atRest = true ↔ c.stepsToRest = 0 := by
  unfold atRest stepsToRest
  cases c.captureThread with
  | none => simp
  | some thread => simp [CapturePc.stepsToRest_eq_zero]

/-- What a step of any thread leaves of a timed capture. -/
theorem Timed.keeps_step (h : c.Timed limit start held) (hUndisturbed : c.Undisturbed action)
    (hStep : c.step env action = some c') :
    (c.Exhausted limit start held → c'.Exhausted limit start held) ∧
      (c.world.state = .finished → c'.world.state = .finished) := by
  have hMore : (∃ later, c'.world.history.taken = c.world.history.taken ++ later) →
      c.Exhausted limit start held → c'.Exhausted limit start held := by
    rintro ⟨later, hLater⟩ ⟨since, hTaken, hReached⟩
    refine ⟨since ++ later, by rw [hLater, hTaken, List.append_assoc], fun hNone => hReached ?_⟩
    rw [← List.append_assoc] at hNone
    exact hNone.of_append
  cases hWorker : action.isWorker with
  | true =>
      obtain ⟨ans, pc, l, w', t, -, -, move, rfl⟩ := h.worker_step hStep hWorker
      refine ⟨hMore move.taken, fun hFinished => ?_⟩
      rcases move.state with hSame | ⟨-, hFinished'⟩
      · exact hSame.trans hFinished
      · exact hFinished'
  | false =>
      obtain ⟨-, hBeyond, -⟩ := h.beside hUndisturbed hStep hWorker
      exact ⟨hMore ⟨[], by rw [hBeyond.taken, List.append_nil]⟩, hBeyond.state.trans⟩

/-- Only the worker comes closer to its rest, and it does so with every step. -/
theorem Timed.stepsToRest_step (h : c.Timed limit start held) (hUndisturbed : c.Undisturbed action)
    (hStep : c.step env action = some c') (hRest : c.atRest = false) :
    c'.stepsToRest + workerSteps [(c, action)] ≤ c.stepsToRest := by
  cases hWorker : action.isWorker with
  | true =>
      obtain ⟨ans, pc, l, w', t, -, hThread, move, rfl⟩ := h.worker_step hStep hWorker
      have hSteps : workerSteps [(c, action)] = 1 := by simp [workerSteps, hWorker]
      have hBefore : c.stepsToRest = pc.stepsToRest := by
        rw [stepsToRest, captureThread_eq_some.mpr hThread]
        rfl
      have hPc : pc.awaitsFrame = false := by
        rw [atRest, captureThread_eq_some.mpr hThread] at hRest
        exact hRest
      rw [hSteps, hBefore, stepsToRest, captureThread_captureResult]
      cases t with
      | none =>
          have hSome : pc.stepsToRest ≠ 0 := by
            rw [Ne, CapturePc.stepsToRest_eq_zero, hPc]
            exact Bool.false_ne_true
          exact Nat.one_le_iff_ne_zero.mpr hSome
      | some next => exact move.stepsToRest hPc
  | false =>
      obtain ⟨hSame, -, -⟩ := h.beside hUndisturbed hStep hWorker
      have hSteps : workerSteps [(c, action)] = 0 := by simp [workerSteps, hWorker]
      rw [hSteps, stepsToRest, captureThread_congr hSame]
      exact le_refl _

/-- Once the limit has been reached, the capture ends before the worker has
taken more steps than lead to its rest. -/
theorem Timed.exhausted_run (h : c.Timed limit start held) (hLimit : 0 < limit)
    (hExhausted : c.Exhausted limit start held) (run : Runs (Config.step env) c log c')
    (alone : ∀ entry ∈ log, entry.1.Undisturbed entry.2) :
    c'.Timed limit start held ∧ c'.Exhausted limit start held ∧
      (c'.world.state = .finished ∨ c'.stepsToRest + workerSteps log ≤ c.stepsToRest) := by
  induction run with
  | zero => exact ⟨h, hExhausted, Or.inr (le_refl _)⟩
  | @succ log middle finish action prior last ih =>
      obtain ⟨hTimed, hMiddle, hSteps⟩ := ih fun entry hEntry => alone entry (List.mem_append_left _ hEntry)
      have hUndisturbed : middle.Undisturbed action := alone (middle, action) (by simp)
      obtain ⟨hKept, hFinished⟩ := hTimed.keeps_step hUndisturbed last
      refine ⟨hTimed.step hLimit hUndisturbed last, hKept hMiddle, ?_⟩
      rcases hSteps with hDone | hSteps
      · exact Or.inl (hFinished hDone)
      · cases hRest : middle.atRest with
        | true => exact Or.inl (hFinished (hTimed.finished_at_rest hLimit hMiddle hRest))
        | false =>
            have hNext := hTimed.stepsToRest_step hUndisturbed last hRest
            have hSplit : workerSteps (log ++ [(middle, action)]) =
                workerSteps log + workerSteps [(middle, action)] := List.countP_append
            right
            omega

theorem Timed.finishes (h : c.Timed limit start held) (hLimit : 0 < limit)
    (hExhausted : c.Exhausted limit start held) (run : Runs (Config.step env) c log c')
    (alone : ∀ entry ∈ log, entry.1.Undisturbed entry.2) (hSteps : 25 ≤ workerSteps log) :
    c'.world.state = .finished := by
  obtain ⟨hTimed, hLater, hDone | hLeft⟩ := h.exhausted_run hLimit hExhausted run alone
  · exact hDone
  · have hMost : c.stepsToRest ≤ 25 := by
      unfold stepsToRest
      cases c.captureThread with
      | none => exact Nat.zero_le 25
      | some thread => exact thread.1.stepsToRest_le
    exact hTimed.finished_at_rest hLimit hLater (atRest_iff.mpr (by omega))

/-- The first capture of a pipeline, with a limit and left alone: it writes the
shortest sequence of frames that reaches the limit, beginning with the frame in
hand, and ends with the last of them. If the frames do not reach it, it writes
them all and goes on. What reaches the limit is a matter of the plain sums, as
long as no duration is negative and the sum of all has room in 64 bits. -/
theorem timed_capture_exact {log₀ : List (Config × Action)} {c₀ : Config} {ans : Answer}
    (run₀ : Runs (Config.step env) {} log₀ c₀) (yet : NoCaptureYet log₀)
    (begins : c₀.call = .busy request (.start .storeState))
    (hStep : c₀.step env (.control ans) = some c) (limited : 0 < request.startArgs.captureTime)
    (run : Runs (Config.step env) c log c') (alone : ∀ entry ∈ log, entry.1.Undisturbed entry.2) :
    ∃ since kept, c'.world.history.taken = c₀.world.history.taken ++ since ∧
      c'.world.written = c₀.world.written ++ kept ∧
      TimedOutcome request.startArgs.captureTime (c₀.inHand ++ since) kept c' ∧
      (¬ NoPrefix (Reaches request.startArgs.captureTime) (c₀.inHand ++ since) →
        ∀ rest c'', Runs (Config.step env) c' rest c'' →
          (∀ entry ∈ rest, entry.1.Undisturbed entry.2) → 25 ≤ workerSteps rest →
          c''.world.state = .finished) ∧
      ((∀ frame ∈ c₀.inHand ++ since, 0 ≤ frame.duration) → totalDuration (c₀.inHand ++ since) < 2 ^ 63 →
        ∀ i, Reaches request.startArgs.captureTime ((c₀.inHand ++ since).take i) ↔
          request.startArgs.captureTime.toInt ≤ totalDuration ((c₀.inHand ++ since).take i)) := by
  obtain ⟨hSound, hFresh⟩ := fresh_run run₀ yet
  have hTimed := (hFresh.timed hSound begins hStep limited).run limited run alone
  obtain ⟨since, kept, hTaken, hWritten, hOutcome⟩ := hTimed.outcome limited
  refine ⟨since, kept, hTaken, hWritten, hOutcome, fun hReached rest c'' hRest hAlone hSteps => ?_,
    reaches_take_iff⟩
  exact hTimed.finishes limited ⟨since, hTaken, hReached⟩ hRest hAlone hSteps

/-- The options and the watch let the capture go on. -/
def goesOn (c : Config) : Bool :=
  c.world.options.everyNth == 1 && c.captureThread.all fun thread => !thread.2.signal.lost thread.2.now

/-- A Start call with this limit, up to its store of Capturing. -/
def startCapturing (limit : Int64) : List Action := perform (.startCapturing ⟨wide "tape", [], 0, limit⟩) 5

theorem undisturbed_of_test {steps frames : Nat}
    (hActions : log.map Prod.snd = (List.replicate frames (receive 400)).flatten ++ work steps)
    (hTest : (log.all fun entry => entry.1.goesOn) = true) :
    ∀ entry ∈ log, entry.1.Undisturbed entry.2 := by
  intro entry hEntry
  have hAction : entry.2 ∈ (List.replicate frames (receive 400)).flatten ++ work steps :=
    hActions ▸ List.mem_map_of_mem hEntry
  have hGoesOn := List.all_eq_true.mp hTest entry hEntry
  simp only [goesOn, Bool.and_eq_true, beq_iff_eq] at hGoesOn
  simp only [List.mem_append, List.mem_flatten, receive, work, List.mem_replicate] at hAction
  constructor
  · rintro request hBegin
    simp_all
  · intro ans pc l hWorker hThread
    obtain rfl : ans = {} := by simp_all
    have hSignal := hGoesOn.2
    rw [captureThread_eq_some.mpr hThread] at hSignal
    refine ⟨hGoesOn.1, rfl, fun _ => rfl, fun _ => rfl, fun _ _ => ?_⟩
    simpa using hSignal

/-- A timed capture of frames of 400, in three schedules: up to the store of
Capturing, the store, and the worker alone. -/
theorem exec_timed (before : List Action) (limit : Int64) (frames steps : Nat) (test : Config → Config → Bool)
    (h : (exec (Config.step .plain) {} (before ++ startCapturing limit)).any (fun result =>
      (exec (Config.step .plain) result.2
        (.control {} :: ((List.replicate frames (receive 400)).flatten ++ work steps))).any fun last =>
        noCaptureYet result.1 &&
          result.2.call == .busy (.startCapturing ⟨wide "tape", [], 0, limit⟩) (.start .storeState) &&
          (last.1.tail.all fun entry => entry.1.goesOn) && test result.2 last.2) = true) :
    ∃ log₀ c₀ c log c', Runs (Config.step .plain) {} log₀ c₀ ∧ NoCaptureYet log₀ ∧
      c₀.call = .busy (.startCapturing ⟨wide "tape", [], 0, limit⟩) (.start .storeState) ∧
      c₀.step .plain (.control {}) = some c ∧ Runs (Config.step .plain) c log c' ∧
      (∀ entry ∈ log, entry.1.Undisturbed entry.2) ∧ test c₀ c' = true := by
  obtain ⟨log₀, c₀, log, c', run₀, run, hActions, hTest⟩ := exec_witness_both (Config.step .plain) {} _ _
    (fun log₀ c₀ log c' => noCaptureYet log₀ &&
      c₀.call == .busy (.startCapturing ⟨wide "tape", [], 0, limit⟩) (.start .storeState) &&
      (log.tail.all fun entry => entry.1.goesOn) && test c₀ c') h
  simp only [Bool.and_eq_true, beq_iff_eq] at hTest
  obtain ⟨⟨⟨hYet, hCall⟩, hGoesOn⟩, hTest⟩ := hTest
  obtain ⟨⟨first, action⟩, rest, rfl, hFirst, hRest⟩ := List.map_eq_cons_iff.mp hActions
  obtain ⟨hStart, c, hStep, hRun⟩ := run.uncons
  obtain rfl : first = c₀ := hStart
  obtain rfl : action = .control {} := hFirst
  exact ⟨log₀, first, c, rest, c', run₀, .of_test hYet, hCall, hStep, hRun,
    undisturbed_of_test hRest hGoesOn, hTest⟩

/-- Two of three frames are kept. -/
theorem timed_capture_exact_two :
    ∃ log₀ c₀ c log c', Runs (Config.step .plain) {} log₀ c₀ ∧
      c₀.step .plain (.control {}) = some c ∧ Runs (Config.step .plain) c log c' ∧
      c'.world.history.taken.map Frame.duration = [400, 400, 400] ∧
      c'.world.written.map Frame.duration = [400, 400] ∧ c'.world.state = .finished ∧
      ShortestPrefix (Reaches 700) c'.world.history.taken c'.world.written := by
  obtain ⟨log₀, c₀, c, log, c', run₀, hYet, hCall, hStep, run, hAlone, hTest⟩ :=
    exec_timed readyToCapture 700 3 55 (fun c₀ c' => c₀.inHand == [] &&
      c₀.world.history.taken == [] && c₀.world.written == [] && c'.world.state == .finished &&
      c'.world.history.taken.map Frame.duration == [400, 400, 400] &&
      c'.world.written.map Frame.duration == [400, 400]) (by decide +kernel)
  simp only [Bool.and_eq_true, beq_iff_eq] at hTest
  obtain ⟨⟨⟨⟨⟨hHand, hTaken⟩, hWritten⟩, hFinished⟩, hThree⟩, hTwo⟩ := hTest
  obtain ⟨since, kept, hSince, hKept, hOutcome, -⟩ :=
    timed_capture_exact run₀ hYet hCall hStep (by decide) run hAlone
  rw [hTaken, List.nil_append] at hSince
  rw [hWritten, List.nil_append] at hKept
  rw [hHand, List.nil_append] at hOutcome
  refine ⟨log₀, c₀, c, log, c', run₀, hStep, run, hThree, hTwo, hFinished, ?_⟩
  rw [hSince, hKept]
  cases hOutcome with
  | goesOn capturing => simp [hFinished] at capturing
  | ended _ _ kept_shortest => exact kept_shortest

/-- The frame in hand is kept, though it was dequeued before Capturing was set. -/
theorem timed_capture_keeps_frame_in_hand :
    ¬ ∀ log₀ c₀ request ans c log c', Runs (Config.step .plain) {} log₀ c₀ → NoCaptureYet log₀ →
      c₀.call = .busy request (.start .storeState) → c₀.step .plain (.control ans) = some c →
      0 < request.startArgs.captureTime → Runs (Config.step .plain) c log c' →
      (∀ entry ∈ log, entry.1.Undisturbed entry.2) →
      ∃ since kept, c'.world.history.taken = c₀.world.history.taken ++ since ∧
        c'.world.written = c₀.world.written ++ kept ∧
        TimedOutcome request.startArgs.captureTime since kept c' := by
  intro hExact
  obtain ⟨log₀, c₀, c, log, c', run₀, hYet, hCall, hStep, run, hAlone, hTest⟩ :=
    exec_timed (readyToCapture ++ receive 400 ++ work 2) 400 0 19 (fun c₀ c' =>
      c₀.world.written == [] && c'.world.state == .finished &&
      c'.world.history.taken == c₀.world.history.taken && c'.world.written.length == 1)
      (by decide +kernel)
  simp only [Bool.and_eq_true, beq_iff_eq] at hTest
  obtain ⟨⟨⟨hWritten, hFinished⟩, hTaken⟩, hOne⟩ := hTest
  obtain ⟨since, kept, hSince, hKept, hOutcome⟩ :=
    hExact log₀ c₀ _ _ c log c' run₀ hYet hCall hStep (by decide) run hAlone
  rw [hTaken] at hSince
  obtain rfl : since = [] := List.self_eq_append_right.mp hSince
  rw [hWritten, List.nil_append] at hKept
  rw [hKept] at hOne
  cases hOutcome with
  | goesOn capturing => simp [hFinished] at capturing
  | ended _ _ kept_shortest =>
      rw [List.prefix_nil.mp kept_shortest.initial] at hOne
      cases hOne

end Config

end WinDV
