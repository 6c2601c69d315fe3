import WinDV.Engine.SplitFiles

/-! A capture with a time limit that keeps every frame. Each frame is written,
counted and added to the time before the limit is looked at, so the capture
ends with the first frame that reaches it. -/
namespace WinDV

open Transition Segmentation

/-- The frames last as long as the limit, by the 64 bits of `m_time`. -/
def Reaches (limit : Int64) (frames : List Frame) : Prop := limit ≤ addedDuration frames

/-- That is what the sum of their durations says, as long as those of all frames fit. -/
theorem reaches_take_iff {limit : Int64} {frames : List Frame} (hForward : ∀ frame ∈ frames, 0 ≤ frame.duration)
    (hRoom : totalDuration frames < 2 ^ 63) (i : Nat) :
    Reaches limit (frames.take i) ↔ limit.toInt ≤ totalDuration (frames.take i) := by
  rw [Reaches, Int64.le_iff_toInt_le, addedDuration_take_toInt hForward hRoom]

theorem noPrefix_reaches_nil {limit : Int64} (h : 0 < limit) : NoPrefix (Reaches limit) [] :=
  noPrefix_nil (Int64.not_le.mpr h)

/-- The counters of the engine are those of the frames, in 32 and 64 bits. -/
structure World.Tallied (w : World) (frames : List Frame) : Prop where
  counter : w.counter = .ofNat frames.length
  time : w.time = addedDuration frames

/-- The frames handed to the loop since `start`, after those it had in hand
then: the `handled` ones have been written, the `pending` ones have not. -/
structure Handed (start : World) (inHand : List Frame) (w : World) (handled pending : List Frame) :
    Prop where
  taken : ∃ since, w.history.taken = start.history.taken ++ since ∧ inHand ++ since = handled ++ pending
  written : w.written = start.written ++ handled

/-- The frame in hand, if there is one. -/
def InHandOr (w : World) (l : CaptureLocals) (pending : List Frame) : Prop :=
  l.frame = none ∧ pending = [] ∨ ∃ frame, pending = [frame] ∧ Holding w l frame

/-- The last frame handled, and those before it, which do not reach the limit. -/
def LastOf (limit : Int64) (handled done : List Frame) (frame : Frame) : Prop :=
  handled = done ++ [frame] ∧ NoPrefix (Reaches limit) done

/-- The steps of a self-stop that has been decided on. -/
def CapturePc.stops : CapturePc → Bool
  | .storeReason _ _ | .exchange _ _ | .rollback _ => true
  | _ => false

/-- The capture thread while the capture goes on, by pc. -/
def TimedPhase (limit : Int64) (handled pending : List Frame) (w : World) (l : CaptureLocals) :
    CapturePc → Prop
  | .getMediaType | .readDropped | .clearCounter | .closeFile | .rereadDropped | .readFinished
  | .resetCounts => handled = [] ∧ pending = []
  | .clearTime => handled = [] ∧ pending = [] ∧ w.counter = 0
  | .loopHead | .getFrame | .noFrame | .updateDropped =>
      pending = [] ∧ w.Tallied handled ∧ NoPrefix (Reaches limit) handled
  | .readClock | .readState | .newWatch | .newFile | .frameSeen =>
      InHandOr w l pending ∧ w.Tallied handled ∧ NoPrefix (Reaches limit) handled
  | .preview | .readDiskState | .checkDisk | .readWriteState | .splitFile | .writeFrame =>
      (∃ frame, pending = [frame] ∧ Holding w l frame) ∧ w.Tallied handled ∧
        NoPrefix (Reaches limit) handled
  | .copyTarget | .openWriter =>
      (∃ frame, pending = [frame] ∧ Holding w l frame) ∧ w.Tallied handled ∧
        NoPrefix (Reaches limit) handled ∧ w.aviWriter = none
  | .countFrame =>
      pending = [] ∧ ∃ done frame, LastOf limit handled done frame ∧ Holding w l frame ∧ w.Tallied done
  | .addTime =>
      pending = [] ∧ ∃ done frame, LastOf limit handled done frame ∧ Holding w l frame ∧
        World.Tallied { w with time := w.time + frame.duration } handled
  | .readCaptureTime => pending = [] ∧ w.Tallied handled ∧ ∃ done frame, LastOf limit handled done frame
  | .clearCaptureTime =>
      pending = [] ∧ w.Tallied handled ∧ ShortestPrefix (Reaches limit) handled handled
  | .storeReason reason resume =>
      (reason = .duration ∧ resume = .updateDropped) ∧ pending = [] ∧ w.Tallied handled ∧
        ShortestPrefix (Reaches limit) handled handled
  | .exchange _ resume =>
      (w.stopReason = .duration ∧ resume = .updateDropped) ∧ pending = [] ∧ w.Tallied handled ∧
        ShortestPrefix (Reaches limit) handled handled
  | .afterLoop | .report _ | .releaseWriter | .notifyStopped =>
      pending = [] ∧ NoPrefix (Reaches limit) handled
  | _ => False

/-- The steps of the loop once the capture has ended. They write and reset nothing. -/
def CapturePc.idles : CapturePc → Bool
  | .updateDropped | .loopHead | .getFrame | .readClock | .readState | .noFrame | .frameSeen
  | .preview | .readDiskState | .readWriteState | .closeFile | .rereadDropped | .readFinished
  | .afterLoop | .releaseWriter | .notifyStopped => true
  | _ => false

/-- The capture is going on, or it has ended with the frame that reached its limit. -/
inductive TimedState (limit : Int64) (handled pending : List Frame) (w : World) : CaptureThread → Prop where
  | alone (capturing : w.state = .capturing) (nothing : pending = [])
      (short : NoPrefix (Reaches limit) handled) : TimedState limit handled pending w none
  | goesOn {pc : CapturePc} {l : CaptureLocals} (capturing : w.state = .capturing)
      (phase : TimedPhase limit handled pending w l pc)
      (limited : pc.stops = false → w.captureTime = limit) :
      TimedState limit handled pending w (some (pc, l))
  | ended {t : CaptureThread} (finished : w.state = .finished) (reason : w.stopReason = .duration)
      (tallied : w.Tallied handled)
      (reached : ShortestPrefix (Reaches limit) handled handled)
      (idles : ∀ pc l, t = some (pc, l) → pc.idles = true) : TimedState limit handled pending w t

def TimedAt (limit : Int64) (start : World) (inHand : List Frame) (w : World) (t : CaptureThread) :
    Prop :=
  ∃ handled pending, Handed start inHand w handled pending ∧ TimedState limit handled pending w t

section

variable {limit : Int64} {inHand handled pending done : List Frame} {start w w' : World}
  {l l' : CaptureLocals} {pc : CapturePc} {t : CaptureThread} {frame : Frame}

theorem World.Tallied.same (h : w.Tallied handled) (hCounter : w'.counter = w.counter := by rfl)
    (hTime : w'.time = w.time := by rfl) : w'.Tallied handled :=
  ⟨hCounter.trans h.counter, hTime.trans h.time⟩

theorem Handed.same (h : Handed start inHand w handled pending)
    (hTaken : w'.history.taken = w.history.taken := by rfl)
    (hWritten : w'.written = w.written := by rfl) : Handed start inHand w' handled pending :=
  ⟨hTaken ▸ h.taken, hWritten.trans h.written⟩

theorem InHandOr.same (h : InHandOr w l pending) (hQueue : w'.queue = w.queue := by rfl)
    (hFrame : l'.frame = l.frame := by rfl) : InHandOr w' l' pending := by
  rcases h with ⟨hNone, hPending⟩ | ⟨frame, hPending, hHolding⟩
  · exact Or.inl ⟨hFrame.trans hNone, hPending⟩
  · exact Or.inr ⟨frame, hPending, hHolding.same hQueue hFrame⟩

/-- More frames have left the queue. -/
theorem Handed.dequeue {later : List Frame} (h : Handed start inHand w handled pending)
    (hTaken : w'.history.taken = w.history.taken ++ later)
    (hWritten : w'.written = w.written := by rfl) :
    Handed start inHand w' handled (pending ++ later) where
  taken := by
    obtain ⟨since, hSince, hHanded⟩ := h.taken
    refine ⟨since ++ later, ?_, ?_⟩
    · rw [hTaken, hSince, List.append_assoc]
    · rw [← List.append_assoc, hHanded, List.append_assoc]
  written := hWritten.trans h.written

/-- The frame in hand has been written. -/
theorem Handed.write (h : Handed start inHand w handled [frame])
    (hTaken : w'.history.taken = w.history.taken := by rfl)
    (hWritten : w'.written = w.written ++ [frame]) : Handed start inHand w' (handled ++ [frame]) [] where
  taken := by
    rw [hTaken, List.append_nil]
    exact h.taken
  written := by rw [hWritten, h.written, List.append_assoc]

theorem Handed.at (h : Handed start inHand w handled pending) (hState : w.state = .capturing)
    (hPhase : TimedPhase limit handled pending w l pc) (hLimit : pc.stops = false → w.captureTime = limit) :
    TimedAt limit start inHand w (some (pc, l)) :=
  ⟨handled, pending, h, .goesOn hState hPhase hLimit⟩

end

section Thread

variable {limit : Int64} {inHand handled pending : List Frame} {env : Environment} {ans : Answer}
  {clock : Nat} {start w w' : World} {l l' : CaptureLocals} {pc : CapturePc} {t : CaptureThread}
  {frame : Frame}

/-- What a step of the capture thread relies on: it keeps every frame, its
file operations succeed, and it finds neither a full disk nor a lost signal. -/
structure Steadily (ans : Answer) (w : World) (l : CaptureLocals) (pc : CapturePc) : Prop where
  everyFrame : w.options.everyNth = 1
  moves : ans.moveFailure = none
  writes : pc = .openWriter ∨ pc = .writeFrame → ans.failure = none
  diskFine : pc = .checkDisk → diskNearlyFull ans l.captureFile = false
  signal : pc = .noFrame → l.capturing = true → l.signal.lost l.now = false

/-- Where an iteration goes on once it has read the state. -/
theorem InHandOr.afterState (h : InHandOr w l pending) (hTallied : w.Tallied handled)
    (hShort : NoPrefix (Reaches limit) handled) (hFrame : l'.frame = l.frame) :
    TimedPhase limit handled pending w l' l.afterState := by
  have h' : InHandOr w l' pending := h.same rfl hFrame
  unfold CaptureLocals.afterState
  split_ifs with hNone
  · rcases h with ⟨-, hPending⟩ | ⟨frame, -, queue, span, -, hSpan, -⟩
    · exact ⟨hPending, hTallied, hShort⟩
    · rw [hNone] at hSpan
      cases hSpan
  · exact ⟨h', hTallied, hShort⟩

/-- A finish of the open file between two steps. -/
theorem Handed.finish (h : Handed start inHand w handled pending) (hMoves : ans.moveFailure = none) :
    Handed start inHand (w.finishWriter env ans).1 handled pending := by
  refine h.same ?_ (w.finishWriter_written env hMoves)
  obtain ⟨files, hFinish⟩ := w.finishWriter_fst env ans
  rw [hFinish]

theorem World.finishWriter_counts (env : Environment) (ans : Answer) (w : World) :
    (w.finishWriter env ans).1.captureTime = w.captureTime ∧
      (w.finishWriter env ans).1.stopReason = w.stopReason ∧
      (w.finishWriter env ans).1.counter = w.counter ∧ (w.finishWriter env ans).1.time = w.time := by
  obtain ⟨files, hFinish⟩ := w.finishWriter_fst env ans
  rw [hFinish]
  exact ⟨rfl, rfl, rfl, rfl⟩

/-- The frame in hand is written to the open file. -/
theorem World.written_handleFrame {writer : AVIWriter} (isOpen : w.aviWriter = some writer)
    (hFiles : w'.history.files = w.history.files)
    (hWriter : w'.aviWriter = some ((writer.handleFrame frame).stampTime l.dvTime)) :
    w'.written = w.written ++ [frame] := by
  simp [World.written, hFiles, hWriter, isOpen, AVIWriter.handleFrame]

/-- A frame leaves the queue. -/
theorem Handed.takeFrame {queue : FrameQueue} (hHanded : Handed start inHand w handled pending)
    (valid : w.QueueValid) (isSet : w.queue = some queue) (hState : w.state = .capturing)
    (hLimit : w.captureTime = limit) (hPhase : TimedPhase limit handled pending w l .getFrame) :
    TimedAt limit start inHand (w.dequeue queue.takeLocked.2 queue.takeLocked.1 clock)
      (some (.readClock, { l with frame := some queue.takeLocked.1 })) := by
  obtain ⟨rfl, hTallied, hShort⟩ := hPhase
  have hHanded' : Handed start inHand (w.dequeue queue.takeLocked.2 queue.takeLocked.1 clock) handled
      [queue.view queue.takeLocked.1] := hHanded.dequeue rfl
  exact hHanded'.at hState ⟨Or.inr ⟨_, rfl, valid.holding isSet⟩, hTallied.same, hShort⟩ fun _ => hLimit

/-- The frame in hand is looked at. -/
theorem Handed.frameSeen (hHanded : Handed start inHand w handled pending)
    (hState : w.state = .capturing) (hLimit : w.captureTime = limit)
    (hPhase : TimedPhase limit handled pending w l .frameSeen) (hFrame : InHand w l frame) :
    TimedAt limit start inHand
      (if recordingTime env frame = l.dvTime then w else w.notifyTimeChange (recordingTime env frame))
      (some (.preview, (if l.capturing then { l with signal := l.signal.frame l.now } else l).track
        (recordingTime env frame))) := by
  obtain ⟨hInHand, hTallied, hShort⟩ := hPhase
  obtain ⟨shown, signal, delta, lastValid, hWorld, hLocals⟩ := frameSeen_eq env w l frame
  rw [hWorld, hLocals]
  refine hHanded.same.at hState ⟨?_, hTallied.same, hShort⟩ fun _ => hLimit
  rcases hInHand with ⟨hNone, -⟩ | ⟨held, hPending, hHolding⟩
  · obtain ⟨queue, span, -, hSpan, -⟩ := hFrame
    rw [hNone] at hSpan
    cases hSpan
  · exact ⟨held, hPending, hHolding.same rfl rfl⟩

/-- The file for the frame in hand is opened. -/
theorem Handed.openWriter (hHanded : Handed start inHand w handled pending)
    (hState : w.state = .capturing) (hLimit : w.captureTime = limit)
    (hPhase : TimedPhase limit handled pending w l .openWriter) :
    TimedAt limit start inHand
      { w with
        aviWriter := some (AVIWriter.new env ans l.target l.dvTime w.options.type2AVI)
        fileFrameCount := 0 }
      (some (.writeFrame, { l with counter := 0 })) := by
  obtain ⟨⟨frame, hPending, hHolding⟩, hTallied, hShort, hNone⟩ := hPhase
  have hWritten : World.written { w with
      aviWriter := some (AVIWriter.new env ans l.target l.dvTime w.options.type2AVI)
      fileFrameCount := 0 } = w.written := by
    simp [World.written, hNone, AVIWriter.new]
  exact Handed.at (hHanded.same rfl hWritten) hState
    ⟨⟨frame, hPending, hHolding.same rfl rfl⟩, hTallied.same, hShort⟩ fun _ => hLimit

/-- The frame in hand is written. -/
theorem Handed.writeFrame {writer : AVIWriter} (hHanded : Handed start inHand w handled pending)
    (hState : w.state = .capturing) (hLimit : w.captureTime = limit)
    (hPhase : TimedPhase limit handled pending w l .writeFrame) (isOpen : w.aviWriter = some writer)
    (hFrame : InHand w l frame) :
    TimedAt limit start inHand
      { w with
        aviWriter := some ((writer.handleFrame frame).stampTime l.dvTime)
        fileFrameCount := w.fileFrameCount + 1 }
      (some (.countFrame, { l with counter := l.counter + 1 })) := by
  obtain ⟨⟨held, rfl, hHolding⟩, hTallied, hShort⟩ := hPhase
  obtain rfl := hHolding.eq_of_inHand hFrame
  exact Handed.at (hHanded.write rfl (World.written_handleFrame isOpen rfl rfl)) hState
    ⟨rfl, handled, _, ⟨rfl, hShort⟩, hHolding.same rfl rfl, hTallied.same⟩ fun _ => hLimit

/-- The frame written is counted. -/
theorem Handed.countFrame (hHanded : Handed start inHand w handled pending)
    (hState : w.state = .capturing) (hLimit : w.captureTime = limit)
    (hPhase : TimedPhase limit handled pending w l .countFrame) :
    TimedAt limit start inHand { w with counter := w.counter + 1 } (some (.addTime, l)) := by
  obtain ⟨hPending, done, frame, hLast, hHolding, hTallied⟩ := hPhase
  refine hHanded.same.at hState ⟨hPending, done, frame, hLast, hHolding.same rfl rfl, ?_⟩ fun _ => hLimit
  rw [hLast.1]
  constructor
  · simp [hTallied.counter]
  · simp [hTallied.time]

/-- Its duration is added. -/
theorem Handed.addTime {span : FrameQueue.Span} (hHanded : Handed start inHand w handled pending)
    (hState : w.state = .capturing) (hLimit : w.captureTime = limit)
    (hPhase : TimedPhase limit handled pending w l .addTime) (hFrame : l.frame = some span) :
    TimedAt limit start inHand { w with time := w.time + span.duration } (some (.readCaptureTime, l)) := by
  obtain ⟨hPending, done, frame, hLast, ⟨queue, held, -, hSpan, -, rfl⟩, hTallied⟩ := hPhase
  obtain rfl := Option.some.inj (hFrame.symm.trans hSpan)
  exact hHanded.same.at hState ⟨hPending, hTallied, done, _, hLast⟩ fun _ => hLimit

/-- The capture ends with the frame that reached the limit. -/
theorem Handed.enterFinished {reason : StopReason} {resume : Resume}
    (hHanded : Handed start inHand w handled pending)
    (hPhase : TimedPhase limit handled pending w l (.exchange reason resume)) :
    TimedAt limit start inHand (w.enterFinished reason) (some (resume.pc, l)) := by
  obtain ⟨⟨hDuration, rfl⟩, -, hTallied, hShortest⟩ := hPhase
  refine ⟨handled, pending, hHanded.same, .ended rfl hDuration hTallied.same hShortest ?_⟩
  intro pc' l' hNext
  cases hNext
  rfl

/-- A step of the capture thread while the capture goes on. -/
theorem CaptureMove.timed (h : CaptureMove env ans clock w l pc w' t) (hSteadily : Steadily ans w l pc)
    (hLimit : 0 < limit) (valid : w.QueueValid) (hState : w.state = .capturing)
    (hLimited : pc.stops = false → w.captureTime = limit)
    (hHanded : Handed start inHand w handled pending)
    (hPhase : TimedPhase limit handled pending w l pc) : TimedAt limit start inHand w' t := by
  have hSucceeds := (w.finishWriter_saved env hSteadily.moves).1
  obtain ⟨hCaptureTime, hReason, hCounter, hTime⟩ := w.finishWriter_counts env ans
  have hEmpty := noPrefix_reaches_nil hLimit
  cases h with
  | throws mayThrow failure =>
      cases pc with
      | getMediaType =>
          obtain ⟨rfl, rfl⟩ := hPhase
          exact hHanded.at hState ⟨rfl, hEmpty⟩ hLimited
      | openWriter => simp [hSteadily.writes (Or.inl rfl)] at failure
      | writeFrame => simp [hSteadily.writes (Or.inr rfl)] at failure
      | _ => cases mayThrow
  | finishThrows _ failure => simp [hSucceeds] at failure
  | finishes goesOn =>
      have hState' := (w.finishWriter_state env ans).trans hState
      have hHanded' : Handed start inHand (w.finishWriter env ans).1 handled pending :=
        hHanded.finish hSteadily.moves
      cases pc with
      | closeFile | afterLoop =>
          cases goesOn
          exact hHanded'.at hState' hPhase fun _ => hCaptureTime.trans (hLimited rfl)
      | signalLost | diskFull => exact hPhase.elim
      | _ => cases goesOn
  | getMediaType | readDropped | rereadDropped | dropCounts => exact hHanded.at hState hPhase hLimited
  | clearCounter => exact hHanded.same.at hState ⟨hPhase.1, hPhase.2, rfl⟩ hLimited
  | clearTime =>
      obtain ⟨rfl, rfl, hZero⟩ := hPhase
      exact hHanded.same.at hState ⟨rfl, ⟨hZero, rfl⟩, hEmpty⟩ hLimited
  | resetCounts =>
      obtain ⟨rfl, rfl⟩ := hPhase
      exact hHanded.same.at hState ⟨rfl, ⟨rfl, rfl⟩, hEmpty⟩ hLimited
  | leaveLoop isIdle => simp [hState] at isIdle
  | keepCounts finished => simp [hState] at finished
  | stayInLoop | waitOn | preview | diskFine | capture => exact hHanded.at hState hPhase hLimited
  | timeOut =>
      obtain ⟨hPending, hTallied, hShort⟩ := hPhase
      exact hHanded.at hState ⟨Or.inl ⟨rfl, hPending⟩, hTallied, hShort⟩ hLimited
  | takeFrame isSet => exact hHanded.takeFrame valid isSet hState (hLimited rfl) hPhase
  | readClock | noticeCapture | newWatch =>
      obtain ⟨hInHand, hTallied, hShort⟩ := hPhase
      exact hHanded.same.at hState ⟨hInHand.same, hTallied.same, hShort⟩ hLimited
  | readState | newFile =>
      obtain ⟨hInHand, hTallied, hShort⟩ := hPhase
      exact hHanded.at hState (hInHand.afterState hTallied hShort rfl) fun _ => hLimited rfl
  | breakLoop =>
      obtain ⟨hPending, -, hShort⟩ := hPhase
      exact hHanded.at hState ⟨hPending, hShort⟩ hLimited
  | noticeLoss _ _ capturing lost => simp [hSteadily.signal rfl capturing] at lost
  | frameSeen hFrame => exact hHanded.frameSeen hState (hLimited rfl) hPhase hFrame
  | skipDiskCheck notCapturing | dontCapture notCapturing | exchangeFails notCapturing =>
      exact absurd hState notCapturing
  | countToDiskCheck | dueDiskCheck =>
      obtain ⟨⟨frame, hPending, hHolding⟩, hTallied, hShort⟩ := hPhase
      exact hHanded.at hState ⟨⟨frame, hPending, hHolding.same rfl rfl⟩, hTallied, hShort⟩ hLimited
  | diskLow low => simp [hSteadily.diskFine rfl] at low
  | noFile noWriter =>
      obtain ⟨hFrame, hTallied, hShort⟩ := hPhase
      exact hHanded.at hState ⟨hFrame, hTallied, hShort, noWriter⟩ hLimited
  | sameFile => exact hHanded.at hState hPhase hLimited
  | split isOpen =>
      obtain ⟨⟨frame, hPending, hHolding⟩, hTallied, hShort⟩ := hPhase
      refine (hHanded.finish hSteadily.moves).at ((w.finishWriter_state env ans).trans hState)
        ⟨⟨frame, hPending, hHolding.same (w.finishWriter_queue env ans) rfl⟩, hTallied.same hCounter hTime,
          hShort, w.finishWriter_aviWriter env ans⟩ fun _ => hCaptureTime.trans (hLimited rfl)
  | copyTarget =>
      obtain ⟨⟨frame, hPending, hHolding⟩, hTallied, hShort, hNone⟩ := hPhase
      exact hHanded.at hState ⟨⟨frame, hPending, hHolding.same rfl rfl⟩, hTallied, hShort, hNone⟩ hLimited
  | openWriter => exact hHanded.openWriter hState (hLimited rfl) hPhase
  | writeFrame isOpen hFrame => exact hHanded.writeFrame hState (hLimited rfl) hPhase isOpen hFrame
  | passFrame _ _ notNth =>
      rw [Wrapping.toInt_max, hSteadily.everyFrame] at notNth
      exact absurd (Int.emod_one _) notNth
  | countFrame => exact hHanded.countFrame hState (hLimited rfl) hPhase
  | addTime hFrame => exact hHanded.addTime hState (hLimited rfl) hPhase hFrame
  | timeUp _ reached =>
      obtain ⟨hPending, hTallied, done, frame, rfl, hShort⟩ := hPhase
      rw [hLimited rfl, hTallied.time] at reached
      exact hHanded.at hState ⟨hPending, hTallied, hShort.shortest reached⟩ hLimited
  | timeLeft left =>
      obtain ⟨hPending, hTallied, done, frame, rfl, hShort⟩ := hPhase
      rw [hLimited rfl, hTallied.time] at left
      have hLess := left (Int64.lt_iff_le_and_ne.mp hLimit).2.symm
      exact hHanded.at hState ⟨hPending, hTallied, hShort.concat (Int64.not_le.mpr hLess)⟩ hLimited
  | clearCaptureTime =>
      obtain ⟨hPending, hTallied, hShortest⟩ := hPhase
      exact hHanded.same.at hState ⟨⟨rfl, rfl⟩, hPending, hTallied.same, hShortest⟩ (by simp [CapturePc.stops])
  | storeReason =>
      obtain ⟨⟨rfl, rfl⟩, hPending, hTallied, hShortest⟩ := hPhase
      exact hHanded.same.at hState ⟨⟨rfl, rfl⟩, hPending, hTallied.same, hShortest⟩ (by simp [CapturePc.stops])
  | enterFinished => exact hHanded.enterFinished hPhase
  | rollback => exact hPhase.elim
  | updateDropped => exact hHanded.same.at hState ⟨hPhase.1, hPhase.2.1.same, hPhase.2.2⟩ hLimited
  | report => exact hHanded.same.at hState hPhase hLimited
  | releaseWriter =>
      exact (hHanded.finish hSteadily.moves).at ((w.finishWriter_state env ans).trans hState) hPhase
        fun _ => hCaptureTime.trans (hLimited rfl)
  | notifyStopped => exact ⟨handled, pending, hHanded.same, .alone hState hPhase.1 hPhase.2⟩

/-- What is settled once the capture has ended. -/
structure World.Settled (w w' : World) : Prop where
  state : w'.state = w.state
  stopReason : w'.stopReason = w.stopReason
  counter : w'.counter = w.counter
  time : w'.time = w.time
  written : w'.written = w.written

theorem World.Settled.finish (env : Environment) (h : ans.moveFailure = none) :
    w.Settled (w.finishWriter env ans).1 := by
  have hWritten := w.finishWriter_written env h
  obtain ⟨files, hFinish⟩ := w.finishWriter_fst env ans
  rw [hFinish] at hWritten ⊢
  exact ⟨rfl, rfl, rfl, rfl, hWritten⟩

/-- A step of the capture thread once the capture has ended. -/
theorem CaptureMove.settled (h : CaptureMove env ans clock w l pc w' t) (hSteadily : Steadily ans w l pc)
    (hState : w.state = .finished) (hIdles : pc.idles = true) :
    w.Settled w' ∧ ∀ pc' l', t = some (pc', l') → pc'.idles = true := by
  have hSucceeds := (w.finishWriter_saved env hSteadily.moves).1
  have hNot : w.state ≠ .capturing := by simp [hState]
  have hOn : ∀ {next : CapturePc} {l' : CaptureLocals}, next.idles = true →
      ∀ pc' l'', some (next, l') = some (pc', l'') → pc'.idles = true := by
    rintro next l' hNext _ _ ⟨⟩
    exact hNext
  cases h with
  | throws mayThrow =>
      cases pc with
      | getMediaType | openWriter | writeFrame => cases hIdles
      | _ => cases mayThrow
  | finishThrows _ failure => simp [hSucceeds] at failure
  | finishes goesOn =>
      refine ⟨.finish env hSteadily.moves, hOn ?_⟩
      cases pc with
      | closeFile | afterLoop =>
          cases goesOn
          rfl
      | signalLost | diskFull => cases hIdles
      | _ => cases goesOn
  | takeFrame => exact ⟨⟨rfl, rfl, rfl, rfl, rfl⟩, hOn rfl⟩
  | readState =>
      refine ⟨⟨rfl, rfl, rfl, rfl, rfl⟩, hOn ?_⟩
      unfold CaptureLocals.afterState
      split_ifs <;> rfl
  | frameSeen =>
      obtain ⟨shown, hShown⟩ := w.timeChange_eq (recordingTime env _ = l.dvTime) _
      rw [hShown]
      exact ⟨⟨rfl, rfl, rfl, rfl, rfl⟩, hOn rfl⟩
  | leaveLoop | stayInLoop | timeOut | readClock | breakLoop | waitOn | preview | skipDiskCheck
  | dontCapture | updateDropped | rereadDropped | keepCounts =>
      exact ⟨⟨rfl, rfl, rfl, rfl, rfl⟩, hOn rfl⟩
  | releaseWriter => exact ⟨.finish env hSteadily.moves, hOn rfl⟩
  | notifyStopped => exact ⟨⟨rfl, rfl, rfl, rfl, rfl⟩, by simp⟩
  | noticeCapture capturing | countToDiskCheck capturing | dueDiskCheck capturing | capture capturing =>
      exact absurd capturing hNot
  | noticeLoss _ _ capturing lost => simp [hSteadily.signal rfl capturing] at lost
  | dropCounts notFinished => exact absurd hState notFinished
  | _ => cases hIdles

/-- Frames only join those taken from the queue. -/
theorem CaptureMove.taken (h : CaptureMove env ans clock w l pc w' t) :
    ∃ later, w'.history.taken = w.history.taken ++ later := by
  obtain ⟨files, hFinish⟩ := w.finishWriter_fst env ans
  cases h with
  | takeFrame => exact ⟨_, rfl⟩
  | finishThrows | finishes | split | releaseWriter =>
      refine ⟨[], ?_⟩
      simp only [World.resetWriter, hFinish, List.append_nil]
  | frameSeen =>
      obtain ⟨shown, hShown⟩ := w.timeChange_eq (recordingTime env _ = l.dvTime) _
      rw [hShown]
      exact ⟨[], (List.append_nil _).symm⟩
  | _ => exact ⟨[], (List.append_nil _).symm⟩

theorem TimedState.settle {later : List Frame} {t' : CaptureThread} (h : TimedState limit handled pending w t)
    (hState : w.state = .finished) (hSettled : w.Settled w')
    (hIdles : ∀ pc l, t' = some (pc, l) → pc.idles = true) :
    TimedState limit handled (pending ++ later) w' t' := by
  cases h with
  | alone capturing | goesOn capturing => simp [hState] at capturing
  | ended finished reason tallied reached =>
      exact .ended (hSettled.state.trans finished) (hSettled.stopReason.trans reason)
        (tallied.same hSettled.counter hSettled.time) reached hIdles

/-- A step of the capture thread of a timed capture. -/
theorem CaptureMove.timedAt (h : CaptureMove env ans clock w l pc w' t) (hSteadily : Steadily ans w l pc)
    (hLimit : 0 < limit) (valid : w.QueueValid) (hTimed : TimedAt limit start inHand w (some (pc, l))) :
    TimedAt limit start inHand w' t := by
  obtain ⟨handled, pending, hHanded, hState⟩ := hTimed
  have hKept := hState
  cases hState with
  | goesOn capturing phase limited => exact h.timed hSteadily hLimit valid capturing limited hHanded phase
  | ended finished reason tallied reached idles =>
      obtain ⟨hSettled, hIdles⟩ := h.settled hSteadily finished (idles pc l rfl)
      obtain ⟨later, hTaken⟩ := h.taken
      exact ⟨handled, pending ++ later, hHanded.dequeue hTaken hSettled.written,
        hKept.settle finished hSettled hIdles⟩

/-- What the other threads leave alone while no call is made. -/
structure World.Beyond (w w' : World) : Prop extends w.Settled w' where
  taken : w'.history.taken = w.history.taken
  captureTime : w'.captureTime = w.captureTime
  aviWriter : w'.aviWriter = w.aviWriter
  holding : ∀ l frame, Holding w l frame → Holding w' l frame

theorem TimedPhase.beyond (h : TimedPhase limit handled pending w l pc) (hBeyond : w.Beyond w') :
    TimedPhase limit handled pending w' l pc := by
  have hTallied : ∀ {frames}, w.Tallied frames → w'.Tallied frames :=
    fun hTallied => hTallied.same hBeyond.counter hBeyond.time
  have hFrame : (∃ frame, pending = [frame] ∧ Holding w l frame) →
      ∃ frame, pending = [frame] ∧ Holding w' l frame := by
    rintro ⟨frame, hPending, hHolding⟩
    exact ⟨frame, hPending, hBeyond.holding l frame hHolding⟩
  cases pc with
  | getMediaType | readDropped | clearCounter | closeFile | rereadDropped | readFinished | resetCounts =>
      exact h
  | clearTime => exact ⟨h.1, h.2.1, hBeyond.counter.trans h.2.2⟩
  | loopHead | getFrame | noFrame | updateDropped | clearCaptureTime => exact ⟨h.1, hTallied h.2.1, h.2.2⟩
  | readClock | readState | newWatch | newFile | frameSeen =>
      exact ⟨h.1.imp_right hFrame, hTallied h.2.1, h.2.2⟩
  | preview | readDiskState | checkDisk | readWriteState | splitFile | writeFrame =>
      exact ⟨hFrame h.1, hTallied h.2.1, h.2.2⟩
  | copyTarget | openWriter =>
      exact ⟨hFrame h.1, hTallied h.2.1, h.2.2.1, hBeyond.aviWriter.trans h.2.2.2⟩
  | countFrame =>
      obtain ⟨hPending, done, frame, hLast, hHolding, hDone⟩ := h
      exact ⟨hPending, done, frame, hLast, hBeyond.holding l frame hHolding, hTallied hDone⟩
  | addTime =>
      obtain ⟨hPending, done, frame, hLast, hHolding, hDone⟩ := h
      exact ⟨hPending, done, frame, hLast, hBeyond.holding l frame hHolding,
        hDone.same hBeyond.counter (congrArg (· + frame.duration) hBeyond.time)⟩
  | readCaptureTime => exact ⟨h.1, hTallied h.2.1, h.2.2⟩
  | storeReason => exact ⟨h.1, h.2.1, hTallied h.2.2.1, h.2.2.2⟩
  | exchange => exact ⟨⟨hBeyond.stopReason.trans h.1.1, h.1.2⟩, h.2.1, hTallied h.2.2.1, h.2.2.2⟩
  | afterLoop | report | releaseWriter | notifyStopped => exact h
  | signalLost | diskFull | rollback => exact h.elim

/-- A step of another thread. -/
theorem TimedAt.beyond (h : TimedAt limit start inHand w t) (hBeyond : w.Beyond w') :
    TimedAt limit start inHand w' t := by
  obtain ⟨handled, pending, hHanded, hState⟩ := h
  refine ⟨handled, pending, hHanded.same hBeyond.taken hBeyond.written, ?_⟩
  have hKept := hState
  cases hState with
  | alone capturing nothing short => exact .alone (hBeyond.state.trans capturing) nothing short
  | goesOn capturing phase limited =>
      exact .goesOn (hBeyond.state.trans capturing) (phase.beyond hBeyond) fun hPc =>
        hBeyond.captureTime.trans (limited hPc)
  | ended finished _ _ _ idles =>
      have hNext : TimedState limit handled (pending ++ []) w' t :=
        hKept.settle finished hBeyond.toSettled idles
      rwa [List.append_nil] at hNext

end Thread

end WinDV
