import WinDV.Engine.CaptureLoop

/-! Everything a step of the capture thread can do, with the facts it found.
Properties of the thread are proved from these moves, not from `captureStep`. -/
namespace WinDV

/-- The pc's whose step is `FinishWriter`, and where each goes on. -/
def CapturePc.finishNext : CapturePc → Option CapturePc
  | .signalLost => some (.storeReason .signalLost .loopHead)
  | .diskFull => some (.storeReason .diskFull .readWriteState)
  | .closeFile => some .rereadDropped
  | .afterLoop => some .releaseWriter
  | _ => none

/-- The pc's at which another DirectShow call may throw. -/
def CapturePc.mayThrow : CapturePc → Bool
  | .getMediaType | .openWriter | .writeFrame => true
  | _ => false

/-- The frame in hand has been followed to its bytes. -/
def InHand (w : World) (l : CaptureLocals) (frame : Frame) : Prop :=
  ∃ queue span, w.queue = some queue ∧ l.frame = some span ∧ frame = queue.view span

variable (env : Environment) (ans : Answer) (clock : Nat)

/-- The moves of the capture thread, by pc. -/
inductive CaptureMove (w : World) (l : CaptureLocals) :
    CapturePc → World → CaptureThread → Prop where
  | throws {pc : CapturePc} {message : WString} (mayThrow : pc.mayThrow = true)
      (failure : ans.failure = some message) :
      CaptureMove w l pc w (some (.report message, l))
  | finishThrows {pc : CapturePc} {message : WString}
      (finishes : pc.finishNext.isSome = true ∨ pc = .splitFile)
      (failure : (w.finishWriter env ans).2 = some message) :
      CaptureMove w l pc (w.finishWriter env ans).1 (some (.report message, l))
  | finishes {pc next : CapturePc} (goesOn : pc.finishNext = some next)
      (success : (w.finishWriter env ans).2 = none) :
      CaptureMove w l pc (w.finishWriter env ans).1 (some (next, l))
  | getMediaType : CaptureMove w l .getMediaType w (some (.readDropped, l))
  | readDropped : CaptureMove w l .readDropped w
      (some (.clearCounter, { l with dropped := ans.droppedFrames }))
  | clearCounter : CaptureMove w l .clearCounter { w with counter := 0 } (some (.clearTime, l))
  | clearTime : CaptureMove w l .clearTime { w with time := 0 } (some (.loopHead, l))
  | leaveLoop (isIdle : w.state = .idle) : CaptureMove w l .loopHead w (some (.afterLoop, l))
  | stayInLoop (notIdle : w.state ≠ .idle) : CaptureMove w l .loopHead w (some (.getFrame, l))
  | timeOut {queue : FrameQueue} (isSet : w.queue = some queue) (empty : queue.load = 0) :
      CaptureMove w l .getFrame w (some (.readClock, { l with frame := none }))
  | takeFrame {queue : FrameQueue} (isSet : w.queue = some queue) (waiting : 0 < queue.load) :
      CaptureMove w l .getFrame (w.dequeue queue.takeLocked.2 queue.takeLocked.1 clock)
        (some (.readClock, { l with frame := some queue.takeLocked.1 }))
  | readClock : CaptureMove w l .readClock w (some (.readState, { l with now := clock }))
  | noticeCapture (capturing : w.state = .capturing) (fresh : l.wasCapturing = false) :
      CaptureMove w l .readState w (some (.newWatch, { l with capturing := true }))
  | readState (same : w.state = .capturing → l.wasCapturing = true) :
      CaptureMove w l .readState w (some (l.afterState, { l with
        capturing := decide (w.state = .capturing)
        wasCapturing := decide (w.state = .capturing) }))
  | newWatch : CaptureMove w l .newWatch
      { w with history := { w.history with
        watchTimeout := (max w.options.signalLossSeconds 0).toInt * 1000 } }
      (some (.newFile, { l with
        signal := { timeout := (max w.options.signalLossSeconds 0).toInt * 1000 } }))
  | newFile : CaptureMove w l .newFile w
      (some (l.afterState, { l with
        captureFile := w.target.filename
        framesSinceDiskCheck := kDiskCheckFrames
        wasCapturing := l.capturing }))
  | breakLoop {queue : FrameQueue} (isSet : w.queue = some queue) (closed : queue.closed = true) :
      CaptureMove w l .noFrame w (some (.afterLoop, l))
  | noticeLoss {queue : FrameQueue} (isSet : w.queue = some queue) (isOpen : queue.closed = false)
      (capturing : l.capturing = true) (lost : l.signal.lost l.now = true) :
      CaptureMove w l .noFrame w (some (.signalLost, l))
  | waitOn {queue : FrameQueue} (isSet : w.queue = some queue) (isOpen : queue.closed = false)
      (notLost : l.capturing = true → l.signal.lost l.now = false) :
      CaptureMove w l .noFrame w (some (.loopHead, l))
  | frameSeen {frame : Frame} (inHand : InHand w l frame) :
      CaptureMove w l .frameSeen
        (if recordingTime env frame = l.dvTime then w
          else w.notifyTimeChange (recordingTime env frame))
        (some (.preview,
          (if l.capturing then { l with signal := l.signal.frame l.now } else l).track
            (recordingTime env frame)))
  | preview : CaptureMove w l .preview w (some (.readDiskState, l))
  | skipDiskCheck (notCapturing : w.state ≠ .capturing) :
      CaptureMove w l .readDiskState w (some (.readWriteState, l))
  | countToDiskCheck (capturing : w.state = .capturing)
      (early : l.framesSinceDiskCheck + 1 < kDiskCheckFrames) :
      CaptureMove w l .readDiskState w
        (some (.readWriteState, { l with framesSinceDiskCheck := l.framesSinceDiskCheck + 1 }))
  | dueDiskCheck (capturing : w.state = .capturing)
      (due : kDiskCheckFrames ≤ l.framesSinceDiskCheck + 1) :
      CaptureMove w l .readDiskState w (some (.checkDisk, { l with framesSinceDiskCheck := 0 }))
  | diskLow (low : diskNearlyFull ans l.captureFile = true) :
      CaptureMove w l .checkDisk
        { w with history := { w.history with measured := some (captureDirectory l.captureFile) } }
        (some (.diskFull, l))
  | diskFine (fine : diskNearlyFull ans l.captureFile = false) :
      CaptureMove w l .checkDisk w (some (.readWriteState, l))
  | capture (capturing : w.state = .capturing) :
      CaptureMove w l .readWriteState w (some (.splitFile, l))
  | dontCapture (notCapturing : w.state ≠ .capturing) :
      CaptureMove w l .readWriteState w (some (.closeFile, l))
  | noFile (noWriter : w.aviWriter = none) : CaptureMove w l .splitFile w (some (.copyTarget, l))
  | sameFile {writer : AVIWriter} (isOpen : w.aviWriter = some writer) (same : l.splits w = false) :
      CaptureMove w l .splitFile w (some (.writeFrame, l))
  | split {writer : AVIWriter} (isOpen : w.aviWriter = some writer) (splits : l.splits w = true)
      (success : (w.finishWriter env ans).2 = none) :
      CaptureMove w l .splitFile (w.finishWriter env ans).1 (some (.copyTarget, l))
  | copyTarget : CaptureMove w l .copyTarget w (some (.openWriter, { l with target := w.target }))
  | openWriter (success : ans.failure = none) :
      CaptureMove w l .openWriter
        { w with
          aviWriter := some (AVIWriter.new env ans l.target l.dvTime w.options.type2AVI)
          fileFrameCount := 0 }
        (some (.writeFrame, { l with counter := 0 }))
  | writeFrame {writer : AVIWriter} {frame : Frame} (isOpen : w.aviWriter = some writer)
      (inHand : InHand w l frame) (nth : l.counter % (max w.options.everyNth 1).toInt = 0)
      (success : ans.failure = none) (fits : l.counter + 1 < 2 ^ 31) :
      CaptureMove w l .writeFrame
        { w with
          aviWriter := some ((writer.handleFrame frame).stampTime l.dvTime)
          fileFrameCount := w.fileFrameCount + 1 }
        (some (.countFrame, { l with counter := l.counter + 1 }))
  | passFrame {writer : AVIWriter} {frame : Frame} (isOpen : w.aviWriter = some writer)
      (inHand : InHand w l frame) (notNth : l.counter % (max w.options.everyNth 1).toInt ≠ 0)
      (fits : l.counter + 1 < 2 ^ 31) :
      CaptureMove w l .writeFrame { w with aviWriter := some (writer.stampTime l.dvTime) }
        (some (.countFrame, { l with counter := l.counter + 1 }))
  | countFrame : CaptureMove w l .countFrame { w with counter := w.counter + 1 } (some (.addTime, l))
  | addTime {span : FrameQueue.Span} (inHand : l.frame = some span) :
      CaptureMove w l .addTime { w with time := w.time + span.duration } (some (.readCaptureTime, l))
  | timeUp (limited : w.captureTime ≠ 0) (reached : w.captureTime ≤ w.time) :
      CaptureMove w l .readCaptureTime w (some (.clearCaptureTime, l))
  | timeLeft (left : w.captureTime ≠ 0 → w.time < w.captureTime) :
      CaptureMove w l .readCaptureTime w (some (.updateDropped, l))
  | clearCaptureTime : CaptureMove w l .clearCaptureTime { w with captureTime := 0 }
      (some (.storeReason .duration .updateDropped, l))
  | storeReason {reason : StopReason} {resume : Resume} :
      CaptureMove w l (.storeReason reason resume) (w.storeReason reason)
        (some (.exchange reason resume, l))
  | enterFinished {reason : StopReason} {resume : Resume} (capturing : w.state = .capturing) :
      CaptureMove w l (.exchange reason resume) (w.enterFinished reason) (some (resume.pc, l))
  | exchangeFails {reason : StopReason} {resume : Resume} (notCapturing : w.state ≠ .capturing) :
      CaptureMove w l (.exchange reason resume) w (some (.rollback resume, l))
  | rollback {resume : Resume} :
      CaptureMove w l (.rollback resume) (w.storeReason .none) (some (resume.pc, l))
  | updateDropped : CaptureMove w l .updateDropped { w with dropped := ans.droppedFrames - l.dropped }
      (some (.loopHead, l))
  | rereadDropped : CaptureMove w l .rereadDropped w
      (some (.readFinished, { l with dropped := ans.droppedFrames }))
  | keepCounts (finished : w.state = .finished) :
      CaptureMove w l .readFinished w (some (.loopHead, l))
  | dropCounts (notFinished : w.state ≠ .finished) :
      CaptureMove w l .readFinished w (some (.resetCounts, l))
  | resetCounts : CaptureMove w l .resetCounts
      { w with dropped := 0, counter := 0, time := 0, fileFrameCount := -1 } (some (.loopHead, l))
  | report {message : WString} : CaptureMove w l (.report message) (w.reportError message)
      (some (.releaseWriter, l))
  | releaseWriter : CaptureMove w l .releaseWriter (w.resetWriter env ans)
      (some (.notifyStopped, l))
  | notifyStopped : CaptureMove w l .notifyStopped (w.notifyTimeChange 0) none

variable {env ans clock}
variable {pipeline : Pipeline} {w w' : World} {l : CaptureLocals} {t : CaptureThread}

theorem afterState_ne (l : CaptureLocals) {pc : CapturePc}
    (h : pc ≠ .noFrame ∧ pc ≠ .frameSeen := by simp) : l.afterState ≠ pc := by
  unfold CaptureLocals.afterState
  split_ifs
  · exact h.1.symm
  · exact h.2.symm

theorem resume_ne (resume : Resume) {pc : CapturePc}
    (h : pc ≠ .loopHead ∧ pc ≠ .readWriteState ∧ pc ≠ .updateDropped := by simp) :
    resume.pc ≠ pc := by
  cases resume with
  | loopHead => exact h.1.symm
  | readWriteState => exact h.2.1.symm
  | updateDropped => exact h.2.2.symm

theorem orReport_cases {failure : Option WString} {pc : CapturePc}
    (h : orReport failure w l pc = (w', t)) :
    w' = w ∧ ((∃ message, failure = some message ∧ t = some (.report message, l)) ∨
      failure = none ∧ t = some (pc, l)) := by
  cases failure <;> simp_all [orReport]

/-- A `FinishWriter` in the loop. -/
theorem finishThen_move {pc next : CapturePc} (goesOn : pc.finishNext = some next)
    (h : finishThen env ans w l next = (w', t)) : CaptureMove env ans clock w l pc w' t := by
  obtain ⟨rfl, ⟨message, hFailure, rfl⟩ | ⟨hSuccess, rfl⟩⟩ := orReport_cases h
  · exact .finishThrows (Or.inl (by rw [goesOn]; rfl)) hFailure
  · exact .finishes goesOn hSuccess

/-- What a step of the capture thread found and did. -/
theorem captureStep_move {pc : CapturePc}
    (h : captureStep env ans clock pipeline w l pc = .next (w', t)) :
    CaptureMove env ans clock w l pc w' t := by
  cases pc
  case getMediaType =>
    simp only [captureStep, Outcome.require_next, Outcome.next.injEq] at h
    obtain ⟨rfl, ⟨message, hFailure, rfl⟩ | ⟨_, rfl⟩⟩ := orReport_cases h.2
    · exact .throws rfl hFailure
    · exact .getMediaType
  case getFrame =>
    obtain ⟨queue, hQueue, h⟩ := Outcome.follow_next.mp h
    unfold FrameQueue.getFor at h
    split_ifs at h with hLoad
    · obtain ⟨rfl, rfl⟩ := Outcome.next_pair h
      exact .timeOut hQueue hLoad
    · obtain ⟨rfl, rfl⟩ := Outcome.next_pair h
      exact .takeFrame hQueue (Nat.pos_of_ne_zero hLoad)
  case readState =>
    simp only [captureStep] at h
    split_ifs at h with hFresh
    · obtain ⟨rfl, rfl⟩ := Outcome.next_pair h
      simp only [Bool.and_eq_true, decide_eq_true_eq, Bool.not_eq_true'] at hFresh
      simp only [hFresh.1, decide_true]
      exact .noticeCapture hFresh.1 hFresh.2
    · obtain ⟨rfl, rfl⟩ := Outcome.next_pair h
      exact .readState fun hState => by simpa [hState] using hFresh
  case noFrame =>
    obtain ⟨queue, hQueue, h⟩ := Outcome.follow_next.mp h
    obtain ⟨rfl, rfl⟩ := Outcome.next_pair h
    split_ifs with hClosed hLost
    · exact .breakLoop hQueue hClosed
    · rw [Bool.and_eq_true] at hLost
      exact .noticeLoss hQueue (by simpa using hClosed) hLost.1 hLost.2
    · exact .waitOn hQueue (by simpa using hClosed) fun hCapturing => by
        simpa [hCapturing] using hLost
  case frameSeen =>
    obtain ⟨queue, hQueue, h⟩ := Outcome.follow_next.mp h
    obtain ⟨span, hSpan, h⟩ := Outcome.follow_next.mp h
    obtain ⟨rfl, rfl⟩ := Outcome.next_pair h
    exact .frameSeen ⟨queue, span, hQueue, hSpan, rfl⟩
  case preview =>
    simp only [captureStep] at h
    split_ifs at h
    · obtain ⟨_, _, h⟩ := Outcome.follow_next.mp h
      obtain ⟨rfl, rfl⟩ := Outcome.next_pair h
      exact .preview
    · obtain ⟨rfl, rfl⟩ := Outcome.next_pair h
      exact .preview
  case splitFile =>
    simp only [captureStep] at h
    split_ifs at h with hNone hSplits
    · obtain ⟨rfl, rfl⟩ := Outcome.next_pair h
      exact .noFile hNone
    · obtain ⟨writer, hWriter⟩ := Option.ne_none_iff_exists'.mp hNone
      obtain ⟨rfl, ⟨message, hFailure, rfl⟩ | ⟨hSuccess, rfl⟩⟩ := orReport_cases (Outcome.next.inj h)
      · exact .finishThrows (Or.inr rfl) hFailure
      · exact .split hWriter hSplits hSuccess
    · obtain ⟨writer, hWriter⟩ := Option.ne_none_iff_exists'.mp hNone
      obtain ⟨rfl, rfl⟩ := Outcome.next_pair h
      exact .sameFile hWriter (by simpa using hSplits)
  case openWriter =>
    simp only [captureStep] at h
    cases hFailure : ans.failure with
    | some message =>
        rw [hFailure] at h
        obtain ⟨rfl, rfl⟩ := Outcome.next_pair h
        exact .throws rfl hFailure
    | none =>
        rw [hFailure] at h
        obtain ⟨rfl, rfl⟩ := Outcome.next_pair h
        exact .openWriter hFailure
  case writeFrame =>
    obtain ⟨writer, hWriter, h⟩ := Outcome.follow_next.mp h
    obtain ⟨queue, hQueue, h⟩ := Outcome.follow_next.mp h
    obtain ⟨span, hSpan, h⟩ := Outcome.follow_next.mp h
    split_ifs at h with hNth
    · cases hFailure : ans.failure with
      | some message =>
          rw [hFailure] at h
          obtain ⟨rfl, rfl⟩ := Outcome.next_pair h
          exact .throws rfl hFailure
      | none =>
          rw [hFailure] at h
          obtain ⟨hFits, h⟩ := Outcome.increment_next.mp h
          obtain ⟨rfl, rfl⟩ := Outcome.next_pair h
          exact .writeFrame hWriter ⟨queue, span, hQueue, hSpan, rfl⟩ hNth hFailure hFits
    · obtain ⟨hFits, h⟩ := Outcome.increment_next.mp h
      obtain ⟨rfl, rfl⟩ := Outcome.next_pair h
      exact .passFrame hWriter ⟨queue, span, hQueue, hSpan, rfl⟩ hNth hFits
  case addTime =>
    obtain ⟨span, hSpan, h⟩ := Outcome.follow_next.mp h
    obtain ⟨rfl, rfl⟩ := Outcome.next_pair h
    exact .addTime hSpan
  case signalLost | diskFull | closeFile | afterLoop =>
    exact finishThen_move rfl (Outcome.next.inj h)
  case readDropped | updateDropped | rereadDropped =>
    simp only [captureStep, Outcome.require_next, Outcome.next.injEq, Prod.mk.injEq] at h
    obtain ⟨-, rfl, rfl⟩ := h
    first
      | exact .readDropped
      | exact .updateDropped
      | exact .rereadDropped
  case loopHead =>
    obtain ⟨rfl, rfl⟩ := Outcome.next_pair h
    split_ifs with hState
    · exact .leaveLoop hState
    · exact .stayInLoop hState
  case readWriteState =>
    obtain ⟨rfl, rfl⟩ := Outcome.next_pair h
    split_ifs with hState
    · exact .capture hState
    · exact .dontCapture hState
  case readFinished =>
    obtain ⟨rfl, rfl⟩ := Outcome.next_pair h
    split_ifs with hState
    · exact .keepCounts hState
    · exact .dropCounts hState
  case readCaptureTime =>
    obtain ⟨rfl, rfl⟩ := Outcome.next_pair h
    split_ifs with hReached
    · exact .timeUp hReached.1 hReached.2
    · exact .timeLeft fun hLimited => Int64.not_le.mp fun hLe => hReached ⟨hLimited, hLe⟩
  case readDiskState =>
    simp only [captureStep] at h
    split_ifs at h with hState hDue
    · obtain ⟨rfl, rfl⟩ := Outcome.next_pair h
      exact .dueDiskCheck hState hDue
    · obtain ⟨rfl, rfl⟩ := Outcome.next_pair h
      exact .countToDiskCheck hState (lt_of_not_ge hDue)
    · obtain ⟨rfl, rfl⟩ := Outcome.next_pair h
      exact .skipDiskCheck hState
  case checkDisk =>
    simp only [captureStep] at h
    split_ifs at h with hLow
    · obtain ⟨rfl, rfl⟩ := Outcome.next_pair h
      exact .diskLow hLow
    · obtain ⟨rfl, rfl⟩ := Outcome.next_pair h
      exact .diskFine (by simpa using hLow)
  case exchange reason resume =>
    simp only [captureStep] at h
    split_ifs at h with hState
    · obtain ⟨rfl, rfl⟩ := Outcome.next_pair h
      exact .enterFinished hState
    · obtain ⟨rfl, rfl⟩ := Outcome.next_pair h
      exact .exchangeFails hState
  -- The other steps do one thing whatever they find.
  all_goals
    obtain ⟨rfl, rfl⟩ := Outcome.next_pair h
  case clearCounter => exact .clearCounter
  case clearTime => exact .clearTime
  case readClock => exact .readClock
  case newWatch => exact .newWatch
  case newFile => exact .newFile
  case copyTarget => exact .copyTarget
  case countFrame => exact .countFrame
  case clearCaptureTime => exact .clearCaptureTime
  case storeReason => exact .storeReason
  case rollback => exact .rollback
  case resetCounts => exact .resetCounts
  case report => exact .report
  case releaseWriter => exact .releaseWriter
  case notifyStopped => exact .notifyStopped

end WinDV
