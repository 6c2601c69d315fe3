import WinDV.Engine.SplitFiles

/-! The cut into files over every run of the engine in which a capture goes on. -/
namespace WinDV

open Transition Segmentation

/-- The thread is about to wait for the next frame. -/
def CapturePc.awaitsFrame : CapturePc → Bool
  | .loopHead | .getFrame => true
  | _ => false

/-- The frames dequeued since `start` are filed, up to the one in hand. -/
def FiledAt (settings : SplitSettings) (env : Environment) (inherited : Int) (start w : World)
    (t : CaptureThread) : Prop :=
  ∃ handled pending parts saved,
    Filed settings env inherited start w handled pending parts saved ∧
    ∀ pc l, t = some (pc, l) →
      (w.state = .capturing → SplitPhase settings env inherited handled pending parts w l pc) ∧
      (pc.awaitsFrame = true → pending = [])

section Thread

variable {settings : SplitSettings} {env : Environment} {ans : Answer} {clock : Nat} {inherited : Int}
  {start w w' : World} {l l' : CaptureLocals} {pc pc' : CapturePc} {t : CaptureThread}
  {handled pending : List Frame} {parts : List (List Frame)} {saved : List SavedFile}
  {frame : Frame} {writer : AVIWriter}

theorem SplitPhase.pending_nil
    (h : SplitPhase settings env inherited handled pending parts w l pc)
    (hPc : pc.awaitsFrame = true) : pending = [] := by
  cases pc with
  | loopHead | getFrame => exact h.1
  | _ => cases hPc

theorem Filed.at (h : Filed settings env inherited start w handled pending parts saved)
    (hPhase : SplitPhase settings env inherited handled pending parts w l pc) :
    FiledAt settings env inherited start w (some (pc, l)) := by
  refine ⟨handled, pending, parts, saved, h, ?_⟩
  rintro _ _ ⟨⟩
  exact ⟨fun _ => hPhase, hPhase.pending_nil⟩

/-- Where an iteration goes on once it has read the state. -/
theorem SplitPhase.afterState (h : SplitPhase settings env inherited handled pending parts w l .readState)
    (hFrame : l'.frame = l.frame) (hCounter : l'.counter = l.counter)
    (hLast : l'.lastValidDVTime = l.lastValidDVTime) (hTime : l'.dvTime = l.dvTime) :
    SplitPhase settings env inherited handled pending parts w l' l.afterState := by
  obtain ⟨hPending, hBetween⟩ := h
  have hBetween' := hBetween.same (hBetween.openFile.same rfl rfl hCounter) hLast hTime
  unfold CaptureLocals.afterState
  split_ifs with hNone
  · rcases hPending with ⟨-, hPending⟩ | ⟨frame, -, queue, span, -, hSpan, -⟩
    · exact ⟨hPending, hBetween'⟩
    · rw [hNone] at hSpan
      cases hSpan
  · rcases hPending with ⟨hAbsurd, -⟩ | ⟨frame, hPending, hHolding⟩
    · exact absurd hAbsurd hNone
    · exact ⟨Or.inr ⟨frame, hPending, hHolding.same rfl hFrame⟩, hBetween'⟩

/-- What another thread leaves alone is all that the capture thread relies on. -/
theorem SplitPhase.same (h : SplitPhase settings env inherited handled pending parts w l pc)
    (hWriter : w'.aviWriter = w.aviWriter) (hCount : w'.fileFrameCount = w.fileFrameCount)
    (hHolding : ∀ frame, Holding w l frame → Holding w' l frame) :
    SplitPhase settings env inherited handled pending parts w' l pc := by
  have hOpen : OpenFile parts w l → OpenFile parts w' l := fun hOpen => hOpen.same hWriter hCount
  have hBetween : Between env inherited handled parts w l → Between env inherited handled parts w' l :=
    fun hBetween => hBetween.same (hOpen hBetween.openFile)
  cases pc with
  | loopHead | getFrame | noFrame | signalLost | countFrame | addTime | readCaptureTime
  | clearCaptureTime | updateDropped => exact ⟨h.1, hBetween h.2⟩
  | readClock | readState | newWatch | newFile | frameSeen =>
      refine ⟨h.1.imp_right ?_, hBetween h.2⟩
      rintro ⟨frame, hPending, hHeld⟩
      exact ⟨frame, hPending, hHolding frame hHeld⟩
  | preview | readDiskState | checkDisk | readWriteState | splitFile =>
      obtain ⟨frame, hPending, hHeld, hSeen, hFile⟩ := h
      exact ⟨frame, hPending, hHolding frame hHeld, hSeen, hOpen hFile⟩
  | copyTarget | openWriter =>
      obtain ⟨frame, hPending, hHeld, hSeen, hNone, hStarts⟩ := h
      exact ⟨frame, hPending, hHolding frame hHeld, hSeen, hWriter.trans hNone, hStarts⟩
  | writeFrame =>
      obtain ⟨frame, writer, hPending, hHeld, hSeen, hSome, hWriting⟩ := h
      refine ⟨frame, writer, hPending, hHolding frame hHeld, hSeen, hWriter.trans hSome, ?_⟩
      cases hWriting with
      | fresh noFrames dvTime count counter starts =>
          exact .fresh noFrames dvTime (hCount.trans count) counter starts
      | last hasFrames count isLast counter goesOn =>
          exact .last hasFrames ((congrArg Int32.toInt hCount).trans count) isLast counter goesOn
  | afterLoop =>
      show w'.started = w'.aviWriter.toList
      rw [World.started, hWriter]
      exact h
  | releaseWriter => exact hWriter.trans h
  | _ => exact h

/-- The recording time of the frame in hand is compared with those before it. -/
theorem Filed.frameSeen (h : Filed settings env inherited start w handled pending parts saved)
    (hPhase : SplitPhase settings env inherited handled pending parts w l .frameSeen)
    (inHand : InHand w l frame) :
    FiledAt settings env inherited start
      (if recordingTime env frame = l.dvTime then w else w.notifyTimeChange (recordingTime env frame))
      (some (.preview, (if l.capturing then { l with signal := l.signal.frame l.now } else l).track
        (recordingTime env frame))) := by
  obtain ⟨shown, hShown⟩ := w.timeChange_eq (recordingTime env frame = l.dvTime) _
  obtain ⟨signal, hNoted⟩ := l.noted_eq
  rw [hShown, hNoted]
  obtain ⟨⟨hNone, -⟩ | ⟨held, rfl, hHolding⟩, hBetween⟩ := hPhase
  · obtain ⟨queue, span, -, hSpan, -⟩ := inHand
    rw [hNone] at hSpan
    cases hSpan
  · obtain rfl := hHolding.eq_of_inHand inHand
    have hNow : Between env inherited handled parts { w with dvTime := shown }
        { l with signal := signal } := hBetween.same hBetween.openFile.same
    obtain ⟨delta, lastValid, hTracked⟩ :=
      CaptureLocals.track_eq { l with signal := signal } (recordingTime env frame)
    have hSeen : Seen settings env inherited handled _ frame := hNow.seen frame
    rw [hTracked] at hSeen ⊢
    exact h.same.at ⟨frame, rfl, hHolding.same rfl rfl, hSeen, hNow.openFile.same⟩

/-- The frame in hand goes to the file that is open. -/
theorem Filed.sameFile (h : Filed settings env inherited start w handled pending parts saved)
    (hSettings : settings.Are w.options)
    (hPhase : SplitPhase settings env inherited handled pending parts w l .splitFile)
    (isOpen : w.aviWriter = some writer) (same : l.splits w = false) :
    FiledAt settings env inherited start w (some (.writeFrame, l)) := by
  obtain ⟨frame, rfl, hHolding, hSeen, hOpen⟩ := hPhase
  obtain ⟨hFrames, hCount, done, part, rfl, hCounter⟩ := hOpen.isOpen writer isOpen
  obtain ⟨-, hFile⟩ := h.last (World.started_some isOpen hFrames)
  have goesOn : ¬ StartsFile settings env inherited handled part frame := by
    rw [← hSeen.splits_iff hSettings hFile hCount, same]
    exact Bool.false_ne_true
  exact h.at ⟨frame, writer, rfl, hHolding, hSeen, isOpen, .last hFrames hCount rfl hCounter goesOn⟩

/-- The open file is finished before the frame in hand, which starts the next. -/
theorem Filed.splitFile (h : Filed settings env inherited start w handled pending parts saved)
    (hSettings : settings.Are w.options) (hMove : ans.moveFailure = none)
    (hPhase : SplitPhase settings env inherited handled pending parts w l .splitFile)
    (isOpen : w.aviWriter = some writer) (splits : l.splits w = true) :
    FiledAt settings env inherited start (w.finishWriter env ans).1 (some (.copyTarget, l)) := by
  obtain ⟨frame, rfl, hHolding, hSeen, hOpen⟩ := hPhase
  obtain ⟨hFrames, hCount, done, part, rfl, hCounter⟩ := hOpen.isOpen writer isOpen
  obtain ⟨-, hFile⟩ := h.last (World.started_some isOpen hFrames)
  have hStarts := (hSeen.splits_iff hSettings hFile hCount).mp splits
  obtain ⟨saved', hFiled'⟩ := h.finish hMove hOpen.started
  refine hFiled'.at ⟨frame, rfl, hHolding.same (w.finishWriter_queue env ans) rfl, hSeen,
    w.finishWriter_aviWriter env ans, fun done' part' hParts => ?_⟩
  obtain ⟨-, hPart⟩ := List.append_inj' hParts rfl
  obtain rfl := List.singleton_inj.mp hPart
  exact hStarts

/-- A step of the capture thread. -/
theorem CaptureMove.filed (h : CaptureMove env ans clock w l pc w' t)
    (hSettings : settings.Are w.options) (hCapturing : w.state = .capturing)
    (hFailure : ans.failure = none) (hMove : ans.moveFailure = none)
    (hDisk : diskNearlyFull ans l.captureFile = false) (valid : w.QueueValid)
    (hFiled : Filed settings env inherited start w handled pending parts saved)
    (hPhase : SplitPhase settings env inherited handled pending parts w l pc) :
    FiledAt settings env inherited start w' t := by
  have hSucceeds := (w.finishWriter_saved env hMove).1
  cases h with
  | throws _ failure => simp [hFailure] at failure
  | finishThrows _ failure => simp [hSucceeds] at failure
  | finishes goesOn =>
      cases pc with
      | signalLost =>
          cases goesOn
          obtain ⟨saved', hFiled'⟩ := hFiled.finish hMove hPhase.2.openFile.started
          exact hFiled'.at ⟨hPhase.1, by simp⟩
      | afterLoop =>
          cases goesOn
          obtain ⟨saved', hFiled'⟩ := hFiled.finish hMove hPhase
          exact hFiled'.at (w.finishWriter_aviWriter env ans)
      | diskFull | closeFile => exact hPhase.elim
      | _ => cases goesOn
  | leaveLoop isIdle => simp [hCapturing] at isIdle
  | stayInLoop => exact hFiled.at hPhase
  | timeOut => exact hFiled.at ⟨Or.inl ⟨rfl, hPhase.1⟩, hPhase.2.same hPhase.2.openFile.same⟩
  | takeFrame isSet =>
      obtain ⟨rfl, hBetween⟩ := hPhase
      apply (hFiled.dequeue (if_pos hCapturing)).at
      exact ⟨Or.inr ⟨_, rfl, valid.holding isSet⟩, hBetween.same hBetween.openFile.same⟩
  | readClock | noticeCapture | newWatch =>
      exact hFiled.same.at ⟨hPhase.1, hPhase.2.same hPhase.2.openFile.same⟩
  | readState | newFile => exact hFiled.at (SplitPhase.afterState hPhase rfl rfl rfl rfl)
  | breakLoop => exact hFiled.at hPhase.2.openFile.started
  | noticeLoss | waitOn => exact hFiled.at hPhase
  | frameSeen inHand => exact hFiled.frameSeen hPhase inHand
  | preview | diskFine | capture => exact hFiled.at hPhase
  | skipDiskCheck notCapturing | dontCapture notCapturing => exact absurd hCapturing notCapturing
  | countToDiskCheck | dueDiskCheck =>
      obtain ⟨frame, hPending, hHolding, hSeen, hOpen⟩ := hPhase
      exact hFiled.at ⟨frame, hPending, hHolding.same rfl rfl, hSeen.same, hOpen.same⟩
  | diskLow low => simp [hDisk] at low
  | noFile noWriter =>
      obtain ⟨frame, hPending, hHolding, hSeen, hOpen⟩ := hPhase
      refine hFiled.at ⟨frame, hPending, hHolding, hSeen, noWriter, fun done part hParts => ?_⟩
      simp [hOpen.absent noWriter] at hParts
  | sameFile isOpen same => exact hFiled.sameFile hSettings hPhase isOpen same
  | split isOpen splits => exact hFiled.splitFile hSettings hMove hPhase isOpen splits
  | copyTarget =>
      obtain ⟨frame, hPending, hHolding, hSeen, hNone, hStarts⟩ := hPhase
      exact hFiled.at ⟨frame, hPending, hHolding.same rfl rfl, hSeen.same, hNone, hStarts⟩
  | openWriter =>
      obtain ⟨frame, hPending, hHolding, hSeen, hNone, hStarts⟩ := hPhase
      refine Filed.at (hFiled.same rfl rfl ?_) ?_
      · rw [World.started_none hNone]
        exact World.started_fresh rfl rfl
      · exact ⟨frame, _, hPending, hHolding.same rfl rfl, hSeen.same, rfl,
          .fresh rfl hSeen.dvTime rfl rfl hStarts⟩
  | writeFrame isOpen inHand nth =>
      obtain ⟨frame, writer, rfl, hHolding, hSeen, hWriter, hWriting⟩ := hPhase
      obtain rfl := Option.some.inj (isOpen.symm.trans hWriter)
      obtain rfl := hHolding.eq_of_inHand inHand
      obtain ⟨parts', hFiled', hBetween⟩ := hWriting.write hFiled hSettings hSeen hWriter nth rfl
      exact hFiled'.at ⟨rfl, hBetween⟩
  | passFrame isOpen inHand notNth =>
      obtain ⟨frame, writer, rfl, hHolding, hSeen, hWriter, hWriting⟩ := hPhase
      obtain rfl := Option.some.inj (isOpen.symm.trans hWriter)
      obtain ⟨parts', hFiled', hBetween⟩ := hWriting.pass hFiled hSettings hSeen hWriter notNth rfl
      exact hFiled'.at ⟨rfl, hBetween⟩
  | countFrame | addTime | updateDropped =>
      exact hFiled.same.at ⟨hPhase.1, hPhase.2.same hPhase.2.openFile.same⟩
  | timeUp | timeLeft => exact hFiled.at hPhase
  | clearCaptureTime => exact hFiled.same.at ⟨hPhase.1, by simp⟩
  | storeReason => exact hFiled.same.at hPhase
  | enterFinished =>
      refine ⟨handled, pending, parts, saved, hFiled.same, ?_⟩
      intro pc' l' hNext
      cases hNext
      exact ⟨fun hState => (by cases hState), fun _ => hPhase.1⟩
  | exchangeFails notCapturing => exact absurd hCapturing notCapturing
  | releaseWriter =>
      have hNone : w.aviWriter = none := hPhase
      have hSame : w.resetWriter env ans = w := by
        rw [World.resetWriter, World.finishWriter, hNone]
      rw [hSame]
      exact hFiled.at trivial
  | notifyStopped => exact ⟨_, _, _, _, hFiled.same, fun _ _ hNone => by cases hNone⟩
  | _ => exact hPhase.elim

/-- The recording times are tracked from the first frame on. -/
theorem CaptureMove.timeTracked (h : CaptureMove env ans clock w l pc w' (some (pc', l')))
    (hTracked : l.TimeTracked) : l'.TimeTracked := by
  cases h with
  | frameSeen =>
      obtain ⟨signal, hNoted⟩ := l.noted_eq
      rw [hNoted]
      have hNow : CaptureLocals.TimeTracked { l with signal := signal } := hTracked
      exact hNow.track _
  | _ => exact hTracked

end Thread

namespace Config

variable {settings : SplitSettings} {env : Environment} {inherited : Int} {start : World}
  {c c' : Config} {action : Action} {pc : CapturePc} {l : CaptureLocals}

def captureThread (c : Config) : CaptureThread :=
  match c.worker with
  | .capture pc l => some (pc, l)
  | _ => none

def awaitsFrame (c : Config) : Bool := c.captureThread.any fun thread => thread.1.awaitsFrame

theorem captureThread_eq_some : c.captureThread = some (pc, l) ↔ c.worker = .capture pc l := by
  unfold captureThread
  cases c.worker <;> simp

@[simp] theorem captureThread_captureResult (c : Config) (w : World) (t : CaptureThread) :
    (c.captureResult (w, t)).captureThread = t := by
  cases t <;> rfl

/-- What the cut relies on in every state the engine reaches. -/
structure Sound (c : Config) : Prop where
  agree : c.Agree
  queue : c.world.QueueValid
  tracked : ∀ pc l, c.worker = .capture pc l → l.TimeTracked

theorem sound_initial : ({} : Config).Sound where
  agree := agree_initial
  queue := fun _ hNone => by cases hNone
  tracked := fun _ _ hThread => by cases hThread

theorem Sound.step (h : c.Sound) (hStep : c.step env action = some c') : c'.Sound where
  agree := h.agree.step hStep
  queue := queueValid_step h.queue hStep
  tracked := by
    intro pc' l' hThread'
    rcases h.agree.capture_from hStep hThread' with ⟨pc, l, hThread⟩ | ⟨-, -, -, rfl⟩
    · have hTracked := h.tracked pc l hThread
      rcases h.agree.capture_cases hThread hStep with ⟨ans, w', t, -, move, rfl⟩ | ⟨hWorker, -, -⟩
      · have hNext := captureThread_eq_some.mpr hThread'
        rw [captureThread_captureResult] at hNext
        rw [hNext] at move
        exact move.timeTracked hTracked
      · rw [hWorker] at hThread'
        cases hThread'
        exact hTracked
    · exact fun hPositive => absurd hPositive (lt_irrefl 0)

/-- A step of a capture that goes on: the options stay, what the worker asks of
DirectShow succeeds, and the disk is not nearly full. -/
structure Steady (settings : SplitSettings) (c : Config) (action : Action) : Prop where
  capturing : c.world.state = .capturing
  options : settings.Are c.world.options
  succeeds : ∀ ans, action = .worker ans → ans.failure = none ∧ ans.moveFailure = none
  diskFine : ∀ ans pc l, action = .worker ans → c.worker = .capture pc l →
    diskNearlyFull ans l.captureFile = false

/-- The other threads take no frame for the capture. -/
theorem Interferes.dequeued {w' : World} (h : c.Interferes action w')
    (hState : c.world.state = .capturing) : w'.history.dequeued = c.world.history.dequeued := by
  cases h with
  | start _ paused => simp [hState] at paused
  | callback move =>
      obtain ⟨reported, accepted, hHistory⟩ := move.keeps.history
      rw [hHistory]
  | _ => rfl

/-- Once the thread has returned, nobody files anything for the capture. -/
theorem Agree.without_thread (h : c.Agree) (hState : c.world.state = .capturing)
    (hNone : c.captureThread = none) (hStep : c.step env action = some c') :
    c'.captureThread = none ∧ c'.world.history.dequeued = c.world.history.dequeued ∧
      c'.world.history.files = c.world.history.files ∧ c'.world.aviWriter = c.world.aviWriter := by
  cases step_move hStep with
  | @control ans request callPc _ busy step =>
      have hMove := (callStep_steps step).move
      have hCall := h.call
      rw [busy] at hCall
      simp only [captureThread] at hNone ⊢
      generalize c'.world = w' at hMove ⊢
      generalize c'.worker = worker' at hMove ⊢
      cases hMove with
      | release =>
          have hIdle : c.world.state = .idle := hCall.state
          simp [hState] at hIdle
      | startWorker =>
          have hPaused : c.world.state = request.pausedState := hCall.1
          rw [hState, Request.pausedState] at hPaused
          split_ifs at hPaused
      | storeState =>
          have hPaused : c.world.state = .capturePaused := hCall
          simp [hState] at hPaused
      | join => exact ⟨rfl, rfl, rfl, rfl⟩
      | _ => exact ⟨hNone, rfl, rfl, rfl⟩
  | capture thread =>
      rw [captureThread_eq_some.mpr thread] at hNone
      cases hNone
  | record thread =>
      have hWorker := h.worker
      have hShape := h.state
      rw [WorkerReady, thread] at hWorker
      have hView : c.view.state = .capturing := hState
      rw [View.StateShape, hView] at hShape
      have hNot := hWorker.1.2.2.2
      rw [hShape.1] at hNot
      cases hNot
  | callback thread move =>
      obtain ⟨reported, accepted, hHistory⟩ := move.keeps.history
      refine ⟨hNone, ?_, ?_, move.keeps.aviWriter⟩
      · exact (congrArg History.dequeued hHistory).trans rfl
      · exact (congrArg History.files hHistory).trans rfl
  | begin | deliver | tick | setOptions | takeError => exact ⟨hNone, rfl, rfl, rfl⟩

/-- One step of any thread while the capture goes on. -/
theorem Sound.filed_step (h : c.Sound) (hSteady : c.Steady settings action)
    (hStep : c.step env action = some c')
    (hFiled : FiledAt settings env inherited start c.world c.captureThread) :
    FiledAt settings env inherited start c'.world c'.captureThread := by
  obtain ⟨handled, pending, parts, saved, hFiled, hThread⟩ := hFiled
  cases hCapture : c.captureThread with
  | none =>
      obtain ⟨hNone, hDequeued, hFiles, hWriter⟩ :=
        h.agree.without_thread hSteady.capturing hCapture hStep
      refine ⟨handled, pending, parts, saved, hFiled.same hDequeued hFiles ?_, fun pc l hSome => ?_⟩
      · rw [World.started, hWriter, World.started]
      · rw [hNone] at hSome
        cases hSome
  | some thread =>
      obtain ⟨pc, l⟩ := thread
      obtain ⟨hPhase, hPending⟩ := hThread pc l hCapture
      have hWorker := captureThread_eq_some.mp hCapture
      rcases h.agree.capture_cases hWorker hStep with ⟨ans, w', t, rfl, move, rfl⟩ | ⟨hSame, hOther, -⟩
      · obtain ⟨hFailure, hMove⟩ := hSteady.succeeds ans rfl
        rw [captureThread_captureResult]
        exact move.filed hSteady.options hSteady.capturing hFailure hMove
          (hSteady.diskFine ans pc l rfl hWorker) h.queue hFiled (hPhase hSteady.capturing)
      · obtain ⟨hWriter, hFiles, -, hCount⟩ := hOther.keeps
        rw [captureThread_eq_some.mpr hSame]
        refine ⟨handled, pending, parts, saved,
          hFiled.same (hOther.dequeued hSteady.capturing) hFiles ?_, ?_⟩
        · rw [World.started, hWriter, World.started]
        · intro pc' l' hSome
          cases hSome
          exact ⟨fun _ => (hPhase hSteady.capturing).same hWriter hCount fun _ hHolding =>
            hOther.holding h.queue hHolding, hPending⟩

/-- The frames dequeued are filed in every run in which a capture goes on. -/
theorem filedAt_run {log : List (Config × Action)} (h : Reachable (Config.step env) {} c)
    (thread : c.worker = .capture pc l) (awaits : pc.awaitsFrame = true)
    (noFile : c.world.aviWriter = none) (run : Runs (Config.step env) c log c')
    (steady : ∀ entry ∈ log, entry.1.Steady settings entry.2) :
    FiledAt settings env l.lastValidDVTime c.world c'.world c'.captureThread := by
  have hSound : c.Sound := h.invariant Sound sound_initial fun s a t hs hStep => hs.step hStep
  have hBetween : Between env l.lastValidDVTime [] [] c.world l :=
    ⟨rfl, hSound.tracked pc l thread, fun _ => rfl, by simp [noFile]⟩
  have hNothing : Filed settings env l.lastValidDVTime c.world c.world [] [] [] [] :=
    ⟨by simp, Nat.zero_le 1, .nil, (List.append_nil _).symm, by simp [World.started_none noFile]⟩
  have hPhase : SplitPhase settings env l.lastValidDVTime [] [] [] c.world l pc := by
    cases pc with
    | loopHead | getFrame => exact ⟨rfl, hBetween⟩
    | _ => cases awaits
  have hStart : FiledAt settings env l.lastValidDVTime c.world c.world c.captureThread := by
    rw [captureThread_eq_some.mpr thread]
    exact hNothing.at hPhase
  have hInv := run.invariant_of (fun entry => entry.1.Steady settings entry.2)
    (fun s => s.Sound ∧ FiledAt settings env l.lastValidDVTime c.world s.world s.captureThread)
    ⟨hSound, hStart⟩ (fun s a t hs hSteady hStep => ⟨hs.1.step hStep, hs.1.filed_step hSteady hStep hs.2⟩)
    steady
  exact hInv.2

/-- While a capture goes on, every frame dequeued goes to a file in its turn,
and a file starts exactly where the cut says. -/
theorem capture_splits_files {log : List (Config × Action)}
    (h : Reachable (Config.step env) {} c) (thread : c.worker = .capture pc l)
    (awaits : pc.awaitsFrame = true) (noFile : c.world.aviWriter = none)
    (run : Runs (Config.step env) c log c')
    (steady : ∀ entry ∈ log, entry.1.Steady settings entry.2) :
    ∃ handled pending parts saved,
      Filed settings env l.lastValidDVTime c.world c'.world handled pending parts saved ∧
      parts.flatten = handled ∧ (c'.awaitsFrame = true → pending = []) := by
  obtain ⟨handled, pending, parts, saved, hFiled, hThread⟩ :=
    filedAt_run h thread awaits noFile run steady
  refine ⟨handled, pending, parts, saved, hFiled, hFiled.segmented.flatten_eq, fun hAwaits => ?_⟩
  obtain ⟨⟨pc', l'⟩, hSome, hPc⟩ := (Option.any_eq_true _ _).mp hAwaits
  exact (hThread pc' l' hSome).2 hPc

/-- Every second frame is written, two to a file. -/
def everySecond : SplitSettings where
  discontinuityThreshold := 1
  maxAVIFrames := 2
  everyNth := 2
  maxAVIFrames_pos := by decide
  everyNth_pos := by decide

/-- Four frames, then the worker alone. -/
def fourFrames : List Action := receive 1 ++ receive 2 ++ receive 3 ++ receive 4 ++ work 63

/-- A pipeline whose capture has begun, with these settings. -/
def everySecondStarted : List Action :=
  readyToCapture ++ .setOptions { discontinuityThreshold := 1, maxAVIFrames := 2, everyNth := 2 } ::
    perform (.startCapturing ⟨wide "tape", [], 0, 0⟩) 7

/-- The state and the options at every step of a run of the four frames. -/
def keepsEverySecond (log : List (Config × Action)) : Bool :=
  log.all fun entry => entry.1.world.state == .capturing &&
    entry.1.world.options == { discontinuityThreshold := 1, maxAVIFrames := 2, everyNth := 2 }

theorem steady_fourFrames {log : List (Config × Action)} (hActions : log.map Prod.snd = fourFrames)
    (hKeeps : keepsEverySecond log = true) :
    ∀ entry ∈ log, entry.1.Steady everySecond entry.2 := by
  intro entry hEntry
  simp only [keepsEverySecond, List.all_eq_true, Bool.and_eq_true, beq_iff_eq] at hKeeps
  obtain ⟨hState, hOptions⟩ := hKeeps entry hEntry
  have hAction : entry.2 ∈ fourFrames := hActions ▸ List.mem_map_of_mem hEntry
  have hPlain : ∀ ans, entry.2 = .worker ans → ans = {} := by
    intro ans hWorker
    rw [hWorker] at hAction
    simpa [fourFrames, receive, work] using hAction
  refine ⟨hState, by rw [hOptions]; exact ⟨rfl, rfl, rfl⟩, fun ans hWorker => ?_,
    fun ans _ _ hWorker _ => ?_⟩
  · rw [hPlain ans hWorker]
    exact ⟨rfl, rfl⟩
  · rw [hPlain ans hWorker]
    rfl

/-- The third frame fills the first file, so the fourth starts the next one. -/
theorem capture_splits_files_four :
    ∃ log c log' c' pc l, Runs (Config.step .plain) {} log c ∧ c.worker = .capture pc l ∧
      Runs (Config.step .plain) c log' c' ∧
      (c'.world.history.files.map fun file => file.writer.frames.map Frame.duration) = [[1, 3]] ∧
      ∃ handled parts saved,
        Filed everySecond .plain l.lastValidDVTime c.world c'.world handled [] parts saved ∧
        parts.flatten = handled := by
  obtain ⟨log, c, log', c', run, run', hActions, hTest⟩ := exec_witness_then (Config.step .plain) {}
    everySecondStarted fourFrames
    (fun c log c' => c.awaitsFrame && c.world.aviWriter.isNone && c'.awaitsFrame &&
      keepsEverySecond log &&
      (c'.world.history.files.map fun file => file.writer.frames.map Frame.duration) == [[1, 3]])
    (by decide +kernel)
  simp only [Bool.and_eq_true, beq_iff_eq, Option.isNone_iff_eq_none] at hTest
  obtain ⟨⟨⟨⟨hStart, hNoFile⟩, hAwaits⟩, hKeeps⟩, hFiles⟩ := hTest
  obtain ⟨⟨pc, l⟩, hSome, hPc⟩ := (Option.any_eq_true _ _).mp hStart
  have hThread := captureThread_eq_some.mp hSome
  obtain ⟨handled, pending, parts, saved, hFiled, hFlatten, hPending⟩ :=
    capture_splits_files ⟨log, run⟩ hThread hPc hNoFile run' (steady_fourFrames hActions hKeeps)
  obtain rfl := hPending hAwaits
  exact ⟨log, c, log', c', pc, l, run, hThread, run', hFiles, handled, parts, saved, hFiled, hFlatten⟩

end Config

end WinDV
