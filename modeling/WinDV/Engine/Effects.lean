import WinDV.Engine.SystemMoves

/-! What the worker and the callbacks leave alone, and how the state moves. -/
namespace WinDV

namespace World

variable (env : Environment) (ans : Answer) (w : World)

/-- `FinishWriter` changes the writer and the list of saved files only. -/
theorem finishWriter_fst : ∃ files, (w.finishWriter env ans).1 =
    { w with aviWriter := none, history := { w.history with files := files } } := by
  unfold finishWriter
  cases hWriter : w.aviWriter with
  | none =>
      refine ⟨w.history.files, ?_⟩
      cases w
      simp_all
  | some writer =>
      cases hFinish : writer.finish env ans with
      | error message => exact ⟨w.history.files, by simp only [hFinish]⟩
      | ok file => exact ⟨w.history.files ++ [file], by simp only [hFinish]⟩

@[simp] theorem finishWriter_aviWriter : (w.finishWriter env ans).1.aviWriter = none := by
  obtain ⟨files, h⟩ := w.finishWriter_fst env ans
  rw [h]

@[simp] theorem finishWriter_state : (w.finishWriter env ans).1.state = w.state := by
  obtain ⟨files, h⟩ := w.finishWriter_fst env ans
  rw [h]

@[simp] theorem finishWriter_queue : (w.finishWriter env ans).1.queue = w.queue := by
  obtain ⟨files, h⟩ := w.finishWriter_fst env ans
  rw [h]

/-- The display of a frame's recording time changes `m_dvTime` at most. -/
theorem timeChange_eq (same : Prop) [Decidable same] (dvTime : Int) :
    ∃ shown, (if same then w else w.notifyTimeChange dvTime) = { w with dvTime := shown } := by
  by_cases h : same
  · exact ⟨w.dvTime, if_pos h⟩
  · exact ⟨dvTime, if_neg h⟩

@[simp] theorem closeQueue_state : w.closeQueue.state = w.state := rfl

@[simp] theorem closeQueue_queueSet : w.closeQueue.queue.isSome = w.queue.isSome := by
  simp [closeQueue]

/-- The members and the history no worker step changes. -/
structure Keeps (w w' : World) : Prop where
  options : w'.options = w.options
  target : w'.target = w.target
  framesReceived : w'.framesReceived = w.framesReceived
  captures : w'.history.captures = w.history.captures
  captureOf : w'.history.captureOf = w.history.captureOf
  requested : w'.history.requested = w.history.requested
  accepted : w'.history.accepted = w.history.accepted
  queueSet : w'.queue.isSome = w.queue.isSome

theorem Keeps.refl (w : World) : w.Keeps w := ⟨rfl, rfl, rfl, rfl, rfl, rfl, rfl, rfl⟩

theorem finishWriter_keeps : w.Keeps (w.finishWriter env ans).1 := by
  obtain ⟨files, h⟩ := w.finishWriter_fst env ans
  rw [h]
  exact ⟨rfl, rfl, rfl, rfl, rfl, rfl, rfl, rfl⟩

theorem dequeue_keeps {w : World} {queue : FrameQueue} (isSet : w.queue = some queue)
    (queue' : FrameQueue) (span : FrameQueue.Span) (clock : Nat) :
    w.Keeps (w.dequeue queue' span clock) :=
  ⟨rfl, rfl, rfl, rfl, rfl, rfl, rfl, by simp [dequeue, isSet]⟩

end World

/-- The tracking of a recording time changes the three locals it is about. -/
theorem CaptureLocals.track_eq (l : CaptureLocals) (newDVTime : Int) :
    ∃ delta lastValid, l.track newDVTime =
      { l with dvTime := newDVTime, deltaDVTime := delta, lastValidDVTime := lastValid } := by
  unfold CaptureLocals.track
  by_cases hSame : newDVTime = l.dvTime
  · subst hSame
    exact ⟨0, l.lastValidDVTime, if_pos rfl⟩
  · by_cases hValid : 0 < newDVTime
    · exact ⟨_, newDVTime, by rw [if_neg hSame, if_pos hValid]⟩
    · exact ⟨0, l.lastValidDVTime, by rw [if_neg hSame, if_neg hValid]⟩

/-- Noting a frame changes the signal watch at most. -/
theorem CaptureLocals.noted_eq (l : CaptureLocals) :
    ∃ signal, (if l.capturing then { l with signal := l.signal.frame l.now } else l) =
      { l with signal := signal } := by
  by_cases h : l.capturing = true
  · exact ⟨l.signal.frame l.now, if_pos h⟩
  · exact ⟨l.signal, if_neg h⟩

/-- What the capture thread changes when it sees a frame. -/
theorem frameSeen_eq (env : Environment) (w : World) (l : CaptureLocals) (frame : Frame) :
    ∃ shown signal delta lastValid,
      (if recordingTime env frame = l.dvTime then w else w.notifyTimeChange (recordingTime env frame)) =
        { w with dvTime := shown } ∧
      (if l.capturing then { l with signal := l.signal.frame l.now } else l).track
          (recordingTime env frame) =
        { l with
          signal := signal
          dvTime := recordingTime env frame
          deltaDVTime := delta
          lastValidDVTime := lastValid } := by
  obtain ⟨shown, hShown⟩ := w.timeChange_eq (recordingTime env frame = l.dvTime) _
  obtain ⟨signal, hNoted⟩ := l.noted_eq
  obtain ⟨delta, lastValid, hTracked⟩ :=
    CaptureLocals.track_eq { l with signal := signal } (recordingTime env frame)
  rw [hShown, hNoted, hTracked]
  exact ⟨shown, signal, delta, lastValid, rfl, rfl⟩

variable {env : Environment} {ans : Answer} {clock : Nat} {w w' : World}

theorem CaptureMove.keeps {l : CaptureLocals} {pc : CapturePc} {t : CaptureThread}
    (h : CaptureMove env ans clock w l pc w' t) : w.Keeps w' := by
  cases h with
  | finishThrows => exact w.finishWriter_keeps env ans
  | finishes => exact w.finishWriter_keeps env ans
  | split => exact w.finishWriter_keeps env ans
  | releaseWriter => exact w.finishWriter_keeps env ans
  | takeFrame isSet => exact World.dequeue_keeps isSet _ _ _
  | frameSeen =>
      split_ifs
      · exact .refl w
      · exact ⟨rfl, rfl, rfl, rfl, rfl, rfl, rfl, rfl⟩
  | _ => exact ⟨rfl, rfl, rfl, rfl, rfl, rfl, rfl, rfl⟩

/-- The capture thread changes the state in one way only. -/
theorem CaptureMove.state_cases {l : CaptureLocals} {pc : CapturePc} {t : CaptureThread}
    (h : CaptureMove env ans clock w l pc w' t) :
    (w'.state = w.state ∧ w'.history.enteredBy = w.history.enteredBy ∧
      ¬ (w.state = .capturing ∧ ∃ reason resume, pc = .exchange reason resume)) ∨
    ∃ reason resume, pc = .exchange reason resume ∧ w.state = .capturing ∧
      w' = w.enterFinished reason ∧ t = some (resume.pc, l) := by
  have hFinish : (w.finishWriter env ans).1.state = w.state ∧
      (w.finishWriter env ans).1.history.enteredBy = w.history.enteredBy := by
    obtain ⟨files, hFiles⟩ := w.finishWriter_fst env ans
    rw [hFiles]
    exact ⟨rfl, rfl⟩
  cases h with
  | throws mayThrow =>
      refine Or.inl ⟨rfl, rfl, ?_⟩
      rintro ⟨_, _, _, rfl⟩
      cases mayThrow
  | finishThrows finishes =>
      refine Or.inl ⟨hFinish.1, hFinish.2, ?_⟩
      rintro ⟨_, _, _, rfl⟩
      simp [CapturePc.finishNext] at finishes
  | finishes goesOn =>
      refine Or.inl ⟨hFinish.1, hFinish.2, ?_⟩
      rintro ⟨_, _, _, rfl⟩
      cases goesOn
  | split | releaseWriter => exact Or.inl ⟨hFinish.1, hFinish.2, by simp⟩
  | enterFinished capturing => exact Or.inr ⟨_, _, rfl, capturing, rfl, rfl⟩
  | exchangeFails notCapturing => exact Or.inl ⟨rfl, rfl, fun hBoth => notCapturing hBoth.1⟩
  | frameSeen =>
      left
      split_ifs
      · exact ⟨rfl, rfl, by simp⟩
      · exact ⟨rfl, rfl, by simp⟩
  | _ => exact Or.inl ⟨rfl, rfl, by simp⟩

theorem CaptureMove.state {l : CaptureLocals} {pc : CapturePc} {t : CaptureThread}
    (h : CaptureMove env ans clock w l pc w' t) :
    w'.state = w.state ∨ w.state = .capturing ∧ w'.state = .finished := by
  rcases h.state_cases with hSame | ⟨_, _, _, hCapturing, rfl, _⟩
  · exact Or.inl hSame.1
  · exact Or.inr ⟨hCapturing, rfl⟩

/-- Only the expiry of a time limit changes it. -/
theorem CaptureMove.captureTime_kept {l : CaptureLocals} {pc : CapturePc} {t : CaptureThread}
    (h : CaptureMove env ans clock w l pc w' t) (hPc : pc ≠ .clearCaptureTime) :
    w'.captureTime = w.captureTime := by
  obtain ⟨files, hFinish⟩ := w.finishWriter_fst env ans
  cases h with
  | finishThrows | finishes | split => rw [hFinish]
  | releaseWriter => rw [World.resetWriter.eq_def, hFinish]
  | clearCaptureTime => exact absurd rfl hPc
  | frameSeen =>
      obtain ⟨shown, hShown⟩ := w.timeChange_eq (recordingTime env _ = l.dvTime) _
      rw [hShown]
  | _ => rfl

/-- The expiry takes the limit away. -/
theorem CaptureMove.captureTime {l : CaptureLocals} {pc : CapturePc} {t : CaptureThread}
    (h : CaptureMove env ans clock w l pc w' t) : w'.captureTime = w.captureTime ∨ w'.captureTime = 0 := by
  by_cases hPc : pc = .clearCaptureTime
  · subst hPc
    cases h with
    | throws mayThrow => cases mayThrow
    | finishThrows finishes => simp [CapturePc.finishNext] at finishes
    | finishes goesOn => cases goesOn
    | clearCaptureTime => exact Or.inr rfl
  · exact Or.inl (h.captureTime_kept hPc)

theorem RecordMove.keeps {l : RecordLocals} {pc : RecordPc} {t : RecordThread}
    (h : RecordMove env ans clock w l pc w' t) : w.Keeps w' := by
  cases h with
  | firstFrame isSet => exact World.dequeue_keeps isSet _ _ _
  | nextFrame isSet => exact World.dequeue_keeps isSet _ _ _
  | frameSeen =>
      split_ifs
      · exact .refl w
      · exact ⟨rfl, rfl, rfl, rfl, rfl, rfl, rfl, rfl⟩
  | _ => exact ⟨rfl, rfl, rfl, rfl, rfl, rfl, rfl, rfl⟩

theorem RecordMove.captureTime {l : RecordLocals} {pc : RecordPc} {t : RecordThread}
    (h : RecordMove env ans clock w l pc w' t) : w'.captureTime = w.captureTime := by
  cases h with
  | frameSeen =>
      obtain ⟨shown, hShown⟩ := w.timeChange_eq (recordingTime env _ = l.dvTime) _
      rw [hShown]
  | _ => rfl

theorem RecordMove.state_cases {l : RecordLocals} {pc : RecordPc} {t : RecordThread}
    (h : RecordMove env ans clock w l pc w' t) :
    (w'.state = w.state ∧ w'.history.enteredBy = w.history.enteredBy ∧
      ¬ (w.state = .recording ∧ pc = .exchange)) ∨
    pc = .exchange ∧ w.state = .recording ∧
      w' = w.enterFinished .endOfFiles ∧ t = some (.loopHead, l) := by
  cases h with
  | enterFinished recording => exact Or.inr ⟨rfl, recording, rfl, rfl⟩
  | exchangeFails notRecording => exact Or.inl ⟨rfl, rfl, fun hBoth => notRecording hBoth.1⟩
  | frameSeen =>
      left
      split_ifs
      · exact ⟨rfl, rfl, by simp⟩
      · exact ⟨rfl, rfl, by simp⟩
  | _ => exact Or.inl ⟨rfl, rfl, by simp⟩

theorem RecordMove.state {l : RecordLocals} {pc : RecordPc} {t : RecordThread}
    (h : RecordMove env ans clock w l pc w' t) :
    w'.state = w.state ∨ w.state = .recording ∧ w'.state = .finished := by
  rcases h.state_cases with hSame | ⟨_, hRecording, rfl, _⟩
  · exact Or.inl hSame.1
  · exact Or.inr ⟨hRecording, rfl⟩

/-- A callback only counts, reports, and fills or closes the queue. -/
structure World.CallbackKeeps (w w' : World) : Prop where
  options : w'.options = w.options
  state : w'.state = w.state
  target : w'.target = w.target
  time : w'.time = w.time
  captureTime : w'.captureTime = w.captureTime
  stopReason : w'.stopReason = w.stopReason
  aviWriter : w'.aviWriter = w.aviWriter
  queueSet : w'.queue.isSome = w.queue.isSome
  history : ∃ reported accepted,
    w'.history = { w.history with errorReported := reported, accepted := accepted }

/-- What the history says about the capture in progress is no callback's business. -/
theorem World.CallbackKeeps.capture (h : w.CallbackKeeps w') :
    w'.history.captures = w.history.captures ∧ w'.history.captureOf = w.history.captureOf ∧
      w'.history.requested = w.history.requested := by
  obtain ⟨reported, accepted, hHistory⟩ := h.history
  rw [hHistory]
  exact ⟨rfl, rfl, rfl⟩

theorem CallbackMove.keeps {callback : Callback} {next : Option Callback}
    (h : CallbackMove w callback w' next) : w.CallbackKeeps w' := by
  cases h with
  | stored isSet =>
      exact ⟨rfl, rfl, rfl, rfl, rfl, rfl, rfl, by simp [World.enqueue, isSet], _, _, rfl⟩
  | close => exact ⟨rfl, rfl, rfl, rfl, rfl, rfl, rfl, World.closeQueue_queueSet w, _, _, rfl⟩
  | _ => exact ⟨rfl, rfl, rfl, rfl, rfl, rfl, rfl, rfl, _, _, rfl⟩

/-- No call opens a file. -/
theorem CallMove.aviWriter {worker worker' : Worker} {request : Request} {pc : CallPc}
    (h : CallMove env ans w worker request pc w' worker') (hNone : w.aviWriter = none) :
    w'.aviWriter = none := by
  cases h with
  | release => exact w.finishWriter_aviWriter env ans
  | _ => exact hNone

/-- The steps of the controlling thread that set the state. -/
theorem CallMove.state {worker worker' : Worker} {request : Request} {pc : CallPc}
    (h : CallMove env ans w worker request pc w' worker') :
    w'.state = w.state ∨ w'.state ≠ .finished := by
  cases h with
  | setIdle | storeState | stopCapturing | startRecording | stopRecording =>
      right
      simp [World.beginCapture]
  | setPaused =>
      right
      unfold Request.pausedState
      split_ifs <;> simp
  | release => exact Or.inl (w.finishWriter_state env ans)
  | _ => exact Or.inl rfl

end WinDV
