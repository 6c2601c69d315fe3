import WinDV.Engine.RecordLoop
import WinDV.Engine.CaptureMoves

/-! Everything a step of the record thread can do, with the facts it found. -/
namespace WinDV

variable (env : Environment) (ans : Answer) (clock : Nat)

/-- The moves of the record thread, by pc. -/
inductive RecordMove (w : World) (l : RecordLocals) : RecordPc → World → RecordThread → Prop where
  | notifyStarted : RecordMove w l .notifyStarted (w.notifyTimeChange 0) (some (.firstFrame, l))
  | noFrames {queue : FrameQueue} (isSet : w.queue = some queue) (closed : queue.closed = true)
      (empty : queue.load = 0) : RecordMove w l .firstFrame w (some (.notifyStopped, l))
  | firstFrame {queue : FrameQueue} (isSet : w.queue = some queue) (waiting : 0 < queue.load) :
      RecordMove w l .firstFrame (w.dequeue queue.takeLocked.2 queue.takeLocked.1 clock)
        (some (.clearCounter, { l with frame := some queue.takeLocked.1 }))
  | clearCounter : RecordMove w l .clearCounter { w with counter := 0 } (some (.clearTime, l))
  | clearTime : RecordMove w l .clearTime { w with time := 0 } (some (.loopHead, l))
  | leaveLoop (isIdle : w.state = .idle) : RecordMove w l .loopHead w (some (.notifyStopped, l))
  | stayInLoop (notIdle : w.state ≠ .idle) : RecordMove w l .loopHead w (some (.frameSeen, l))
  | frameSeen {queue : FrameQueue} {span : FrameQueue.Span} (isSet : w.queue = some queue)
      (inHand : l.frame = some span) :
      RecordMove w l .frameSeen
        (if recordingTime env (queue.view span) = l.dvTime then w
          else w.notifyTimeChange (recordingTime env (queue.view span)))
        (some (.preview, { l with dvTime := recordingTime env (queue.view span) }))
  | preview : RecordMove w l .preview w (some (.output, l))
  | outputFails {message : WString} (failure : ans.failure = some message) :
      RecordMove w l .output w (some (.report message, l))
  | output {queue : FrameQueue} {span : FrameQueue.Span} (isSet : w.queue = some queue)
      (inHand : l.frame = some span) (success : ans.failure = none) :
      RecordMove w l .output
        { w with history := { w.history with sent := w.history.sent ++ [queue.view span] } }
        (some (.readState, l))
  | goOn (recording : w.state = .recording) : RecordMove w l .readState w (some (.countFrame, l))
  | sendAgain (notRecording : w.state ≠ .recording) :
      RecordMove w l .readState w (some (.loopHead, l))
  | countFrame : RecordMove w l .countFrame { w with counter := w.counter + 1 } (some (.addTime, l))
  | addTime {span : FrameQueue.Span} (inHand : l.frame = some span) :
      RecordMove w l .addTime { w with time := w.time + span.duration } (some (.nextFrame, l))
  | nextFrame {queue : FrameQueue} (isSet : w.queue = some queue) (waiting : 0 < queue.load) :
      RecordMove w l .nextFrame (w.dequeue queue.takeLocked.2 queue.takeLocked.1 clock)
        (some (.loopHead, { l with frame := some queue.takeLocked.1 }))
  | endOfFiles {queue : FrameQueue} (isSet : w.queue = some queue) (closed : queue.closed = true)
      (empty : queue.load = 0) : RecordMove w l .nextFrame w (some (.storeReason, l))
  | storeReason : RecordMove w l .storeReason (w.storeReason .endOfFiles) (some (.exchange, l))
  | enterFinished (recording : w.state = .recording) :
      RecordMove w l .exchange (w.enterFinished .endOfFiles) (some (.loopHead, l))
  | exchangeFails (notRecording : w.state ≠ .recording) :
      RecordMove w l .exchange w (some (.rollback, l))
  | rollback : RecordMove w l .rollback (w.storeReason .none) (some (.loopHead, l))
  | report {message : WString} :
      RecordMove w l (.report message) (w.reportError message) (some (.notifyStopped, l))
  | notifyStopped : RecordMove w l .notifyStopped (w.notifyTimeChange 0) none

variable {env ans clock}
variable {pipeline : Pipeline} {w w' : World} {l : RecordLocals} {t : RecordThread}

/-- What `Get` found when it did not wait. -/
theorem get_cases (queue : FrameQueue) :
    queue.get = .blocked ∨
      (queue.get = .nullopt ∧ queue.closed = true ∧ queue.load = 0) ∨
      (queue.get = .frame queue.takeLocked.1 queue.takeLocked.2 ∧ 0 < queue.load) := by
  unfold FrameQueue.get
  by_cases hLoad : queue.load = 0
  · by_cases hClosed : queue.closed = false
    · exact Or.inl (by rw [if_pos ⟨hClosed, hLoad⟩])
    · exact Or.inr (Or.inl ⟨by simp [hLoad, hClosed], by simpa using hClosed, hLoad⟩)
  · exact Or.inr (Or.inr ⟨by simp [hLoad], Nat.pos_of_ne_zero hLoad⟩)

/-- What a step of the record thread found and did. -/
theorem recordStep_move {pc : RecordPc}
    (h : recordStep env ans clock pipeline w l pc = .next (w', t)) :
    RecordMove env ans clock w l pc w' t := by
  cases pc
  case firstFrame =>
    obtain ⟨queue, hQueue, h⟩ := Outcome.follow_next.mp h
    rcases get_cases queue with hGet | ⟨hGet, hClosed, hEmpty⟩ | ⟨hGet, hWaiting⟩ <;> rw [hGet] at h
    · cases h
    · obtain ⟨rfl, rfl⟩ := Outcome.next_pair h
      exact .noFrames hQueue hClosed hEmpty
    · obtain ⟨rfl, rfl⟩ := Outcome.next_pair h
      exact .firstFrame hQueue hWaiting
  case nextFrame =>
    obtain ⟨queue, hQueue, h⟩ := Outcome.follow_next.mp h
    rcases get_cases queue with hGet | ⟨hGet, hClosed, hEmpty⟩ | ⟨hGet, hWaiting⟩ <;> rw [hGet] at h
    · cases h
    · obtain ⟨rfl, rfl⟩ := Outcome.next_pair h
      exact .endOfFiles hQueue hClosed hEmpty
    · obtain ⟨rfl, rfl⟩ := Outcome.next_pair h
      exact .nextFrame hQueue hWaiting
  case frameSeen =>
    obtain ⟨queue, hQueue, h⟩ := Outcome.follow_next.mp h
    obtain ⟨span, hSpan, h⟩ := Outcome.follow_next.mp h
    obtain ⟨rfl, rfl⟩ := Outcome.next_pair h
    exact .frameSeen hQueue hSpan
  case preview =>
    simp only [recordStep] at h
    split_ifs at h
    · obtain ⟨_, _, h⟩ := Outcome.follow_next.mp h
      obtain ⟨rfl, rfl⟩ := Outcome.next_pair h
      exact .preview
    · obtain ⟨rfl, rfl⟩ := Outcome.next_pair h
      exact .preview
  case output =>
    obtain ⟨_, h⟩ := Outcome.require_next.mp h
    obtain ⟨queue, hQueue, h⟩ := Outcome.follow_next.mp h
    obtain ⟨span, hSpan, h⟩ := Outcome.follow_next.mp h
    cases hFailure : ans.failure with
    | some message =>
        rw [hFailure] at h
        obtain ⟨rfl, rfl⟩ := Outcome.next_pair h
        exact .outputFails hFailure
    | none =>
        rw [hFailure] at h
        obtain ⟨rfl, rfl⟩ := Outcome.next_pair h
        exact .output hQueue hSpan hFailure
  case addTime =>
    obtain ⟨span, hSpan, h⟩ := Outcome.follow_next.mp h
    obtain ⟨rfl, rfl⟩ := Outcome.next_pair h
    exact .addTime hSpan
  case exchange =>
    simp only [recordStep] at h
    split_ifs at h with hState
    · obtain ⟨rfl, rfl⟩ := Outcome.next_pair h
      exact .enterFinished hState
    · obtain ⟨rfl, rfl⟩ := Outcome.next_pair h
      exact .exchangeFails hState
  all_goals obtain ⟨rfl, rfl⟩ := Outcome.next_pair h
  case notifyStarted => exact .notifyStarted
  case clearCounter => exact .clearCounter
  case clearTime => exact .clearTime
  case loopHead =>
    split_ifs with hState
    · exact .leaveLoop hState
    · exact .stayInLoop hState
  case readState =>
    split_ifs with hState
    · exact .goOn hState
    · exact .sendAgain hState
  case countFrame => exact .countFrame
  case storeReason => exact .storeReason
  case rollback => exact .rollback
  case report => exact .report
  case notifyStopped => exact .notifyStopped

end WinDV
