import WinDV.Engine.StartCall
import WinDV.Library.Wrapping

/-! What the capture thread goes by when it ends a capture: what it has counted,
watched and measured. All of it can outlive the capture it was gathered in. -/
namespace WinDV

/-- The length of the frames dequeued during the capture in progress. -/
def World.dequeuedTime (w : World) : Int := totalDuration w.history.dequeued

/-- What the capture in progress gives as the reason to stop. The clock counts
nanoseconds, the timeout milliseconds. -/
def Evidence (w : World) (clock : Nat) : StopReason → Prop
  | .duration => 0 < w.history.requested ∧ w.history.requested.toInt ≤ w.dequeuedTime
  | .signalLost => ∃ last, w.history.lastDequeue = some last ∧ 0 < w.history.watchTimeout ∧
      w.history.watchTimeout * 1000000 ≤ (clock : Int) - last
  | .diskFull => w.history.measured = some (captureDirectory w.history.captureOf.filename)
  | .none | .endOfFiles => False

/-- The reason the thread has decided to stop for. -/
def CapturePc.decision : CapturePc → Option StopReason
  | .clearCaptureTime => some .duration
  | .signalLost => some .signalLost
  | .diskFull => some .diskFull
  | .storeReason reason _ | .exchange reason _ => some reason
  | _ => none

/-- The length of the frame in hand. -/
def CaptureLocals.frameTime (l : CaptureLocals) : Int :=
  (l.frame.map fun span => span.duration.toInt).getD 0

/-- `m_time`, with the frame that is still to be added to it, is no more than
the capture in progress has dequeued; or it is about to be reset. -/
def Counted (w : World) (l : CaptureLocals) : CapturePc → Prop
  | .getMediaType | .readDropped | .clearCounter | .clearTime | .closeFile | .rereadDropped
  | .readFinished | .resetCounts => w.history.dequeued = []
  | .afterLoop | .report _ | .releaseWriter | .notifyStopped => True
  | .loopHead | .getFrame | .noFrame | .signalLost | .readCaptureTime | .clearCaptureTime
  | .updateDropped => w.time.toInt ≤ w.dequeuedTime
  | .storeReason _ resume | .exchange _ resume | .rollback resume =>
      w.time.toInt + (if resume = .readWriteState then l.frameTime else 0) ≤ w.dequeuedTime
  | _ => w.time.toInt + l.frameTime ≤ w.dequeuedTime

/-- The time limit is judged by the frames of the capture in progress. -/
structure DurationOwn (w : World) (l : CaptureLocals) (pc : CapturePc) : Prop where
  limit : 0 ≤ w.history.requested
  counted : 0 < w.history.requested → Counted w l pc
  decided : pc.decision = some .duration → 0 < w.history.requested ∧
    w.history.requested.toInt ≤ w.dequeuedTime

/-- The frame in hand, if any, was dequeued in this capture and by then. -/
def Held (w : World) (l : CaptureLocals) (bound : Nat) : Prop :=
  l.frame ≠ none → ∃ last, w.history.lastDequeue = some last ∧ last ≤ bound

/-- The signal watch has still to be told of the frame in hand. -/
def CapturePc.unnoted : CapturePc → Bool
  | .readClock | .readState | .newWatch | .newFile | .frameSeen => true
  | _ => false

/-- The frame the signal watch will be told of. -/
def HeldOwn (w : World) (clock : Nat) (l : CaptureLocals) : CapturePc → Prop
  | .readClock => Held w l clock
  | .readState | .newWatch => Held w l l.now
  | .newFile => l.signal.timeout ≤ 0 ∨ Held w l l.now
  | .frameSeen => l.wasCapturing = true → l.signal.timeout ≤ 0 ∨ Held w l l.now
  | _ => True

/-- The signal is watched by the frames of the capture in progress. -/
structure SignalOwn (w : World) (clock : Nat) (l : CaptureLocals) (pc : CapturePc) : Prop where
  watch : l.wasCapturing = true ∨ pc = .newFile → l.signal.timeout ≤ 0 ∨
    l.signal.timeout = w.history.watchTimeout ∧ (l.frame = none ∨ pc.unnoted = false →
      ∀ noted, l.signal.lastFrame = some noted →
        ∃ last, w.history.lastDequeue = some last ∧ last ≤ noted)
  held : HeldOwn w clock l pc
  decided : pc.decision = some .signalLost → Evidence w clock .signalLost

/-- The folder that is measured is that of the capture in progress. -/
def FileOwn (w : World) (l : CaptureLocals) : Prop :=
  captureDirectory l.captureFile = captureDirectory w.history.captureOf.filename

structure DiskOwn (w : World) (l : CaptureLocals) (pc : CapturePc) : Prop where
  file : l.wasCapturing = true → FileOwn w l
  due : pc = .frameSeen ∨ pc = .preview ∨ pc = .readDiskState →
    FileOwn w l ∨ l.framesSinceDiskCheck + 1 < kDiskCheckFrames
  checks : pc = .checkDisk → FileOwn w l
  decided : pc.decision = some .diskFull →
    w.history.measured = some (captureDirectory w.history.captureOf.filename)

/-- All the thread goes by belongs to the capture in progress, unless it is on
its way out of the loop. -/
def OwnEvidence (w : World) (clock : Nat) (l : CaptureLocals) (pc : CapturePc) : Prop :=
  Leaving w l pc ∨ DurationOwn w l pc ∧ SignalOwn w clock l pc ∧ DiskOwn w l pc

theorem afterState_decision (l : CaptureLocals) : l.afterState.decision = none := by
  unfold CaptureLocals.afterState
  split_ifs <;> rfl

theorem resume_decision (resume : Resume) : resume.pc.decision = none := by
  cases resume <;> rfl

theorem World.dequeue_dequeuedTime {w : World} (hState : w.state = .capturing) (queue : FrameQueue)
    (span : FrameQueue.Span) (clock : Nat) :
    (w.dequeue queue span clock).dequeuedTime = w.dequeuedTime + span.duration.toInt := by
  simp [World.dequeue, World.dequeuedTime, hState, FrameQueue.view]

/-- What holds of the thread in every run: the clock never goes back, the thread
remembers what it has just found, and it has three reasons to stop. -/
structure CaptureFacts (clock : Nat) (l : CaptureLocals) (pc : CapturePc) : Prop where
  now : l.now ≤ clock
  same : pc = .noFrame ∨ pc = .frameSeen → l.capturing = l.wasCapturing
  reasons : pc.decision ≠ some .none ∧ pc.decision ≠ some .endOfFiles

section Facts

variable {env : Environment} {ans : Answer} {clock : Nat} {w w' : World} {l l' : CaptureLocals}
  {pc pc' : CapturePc}

theorem CaptureMove.facts (h : CaptureMove env ans clock w l pc w' (some (pc', l')))
    (hFacts : CaptureFacts clock l pc) : CaptureFacts clock l' pc' := by
  have hNone : ∀ next : CapturePc, next.decision = none →
      next.decision ≠ some .none ∧ next.decision ≠ some .endOfFiles := by
    intro next hNext
    simp [hNext]
  cases h with
  | readClock => exact ⟨le_refl _, by simp, hNone _ rfl⟩
  | readState => exact ⟨hFacts.now, fun _ => rfl, hNone _ (afterState_decision l)⟩
  | newFile => exact ⟨hFacts.now, fun _ => rfl, hNone _ (afterState_decision l)⟩
  | @frameSeen frame =>
      obtain ⟨shown, signal, delta, lastValid, -, hLocals⟩ := frameSeen_eq env w l frame
      rw [hLocals]
      exact ⟨hFacts.now, by simp, hNone _ rfl⟩
  | finishes goesOn =>
      cases pc <;> cases goesOn
      all_goals exact ⟨hFacts.now, by simp, by simp [CapturePc.decision]⟩
  | enterFinished | rollback =>
      refine ⟨hFacts.now, ?_, hNone _ (resume_decision _)⟩
      rintro (hPc | hPc)
      · exact absurd hPc (resume_ne _)
      · exact absurd hPc (resume_ne _)
  | storeReason => exact ⟨hFacts.now, by simp, hFacts.reasons⟩
  | _ => exact ⟨hFacts.now, by simp, by simp [CapturePc.decision]⟩

end Facts

section Duration

variable {env : Environment} {ans : Answer} {clock : Nat} {w w' : World} {l l' : CaptureLocals}
  {pc pc' : CapturePc}

/-- The thread goes on with the time it has counted. -/
theorem DurationOwn.goOn (h : DurationOwn w l pc) (hCounted : Counted w l pc → Counted w' l' pc')
    (hRequested : w'.history.requested = w.history.requested := by rfl)
    (hDequeued : w'.history.dequeued = w.history.dequeued := by rfl)
    (hDecision : pc'.decision = some .duration → pc.decision = some .duration :=
      by simp [CapturePc.decision]) : DurationOwn w' l' pc' := by
  have hTime : w'.dequeuedTime = w.dequeuedTime := by rw [World.dequeuedTime, hDequeued, World.dequeuedTime]
  refine ⟨?_, fun hLimited => ?_, fun hDecided => ?_⟩
  · rw [hRequested]
    exact h.limit
  · rw [hRequested] at hLimited
    exact hCounted (h.counted hLimited)
  · rw [hRequested, hTime]
    exact h.decided (hDecision hDecided)

theorem counted_resume {resume : Resume} (h : w.time.toInt +
    (if resume = .readWriteState then l.frameTime else 0) ≤ w.dequeuedTime) :
    Counted w l resume.pc := by
  cases resume with
  | readWriteState => exact h
  | loopHead | updateDropped =>
      rw [if_neg (by simp), Int.add_zero] at h
      exact h

/-- The frame in hand, or that there is none, is counted after the state is read. -/
theorem counted_afterState (hFrame : l'.frame = l.frame) (h : w.time.toInt + l.frameTime ≤ w.dequeuedTime) :
    Counted w l' l.afterState := by
  have hSame : l'.frameTime = l.frameTime := by rw [CaptureLocals.frameTime, hFrame, CaptureLocals.frameTime]
  unfold CaptureLocals.afterState
  split_ifs with hNone
  · rw [CaptureLocals.frameTime, hNone] at h
    exact (Int.add_zero w.time.toInt).symm.trans_le h
  · rw [← hSame] at h
    exact h

/-- A step of the thread during a capture keeps the time limit its own, if it
does not take `m_time` below the range of its 64 bits. -/
theorem CaptureMove.durationOwn (h : CaptureMove env ans clock w l pc w' (some (pc', l')))
    (hState : w.state = .capturing) (hState' : w'.state = .capturing)
    (hLimit : w.captureTime = 0 ∨ w.captureTime = w.history.requested)
    (hRange : pc = .addTime → -2 ^ 63 ≤ w.time.toInt + l.frameTime) (hOwn : DurationOwn w l pc) :
    DurationOwn w' l' pc' := by
  obtain ⟨files, hFinish⟩ := w.finishWriter_fst env ans
  cases h with
  | throws | breakLoop | report => exact hOwn.goOn fun _ => trivial
  | finishThrows =>
      rw [hFinish]
      exact hOwn.goOn fun _ => trivial
  | releaseWriter =>
      show DurationOwn (w.finishWriter env ans).1 _ _
      rw [hFinish]
      exact hOwn.goOn fun _ => trivial
  | finishes goesOn =>
      rw [hFinish]
      cases pc with
      | signalLost =>
          cases goesOn
          exact hOwn.goOn (fun hCounted => (Int.add_zero w.time.toInt).trans_le hCounted)
      | diskFull | closeFile =>
          cases goesOn
          exact hOwn.goOn id
      | afterLoop =>
          cases goesOn
          exact hOwn.goOn fun _ => trivial
      | _ => cases goesOn
  | split =>
      rw [hFinish]
      exact hOwn.goOn id
  | clearTime | resetCounts =>
      refine hOwn.goOn fun hCounted => ?_
      have hNone : w.history.dequeued = [] := hCounted
      simp [Counted, World.dequeuedTime, hNone]
  | leaveLoop isIdle => simp [hState] at isIdle
  | skipDiskCheck notCapturing | dontCapture notCapturing | exchangeFails notCapturing =>
      exact absurd hState notCapturing
  | keepCounts finished => simp [hState] at finished
  | enterFinished => cases hState'
  | timeOut => exact hOwn.goOn fun hCounted => (Int.add_zero w.time.toInt).trans_le hCounted
  | takeFrame =>
      refine ⟨hOwn.limit, fun hLimited => ?_, by simp [CapturePc.decision]⟩
      have hCounted : w.time.toInt ≤ w.dequeuedTime := hOwn.counted hLimited
      show w.time.toInt + _ ≤ _
      rw [World.dequeue_dequeuedTime hState]
      exact Int.add_le_add_right hCounted _
  | readState | newFile =>
      exact hOwn.goOn (counted_afterState rfl) rfl rfl (by simp [afterState_decision])
  | @frameSeen frame =>
      obtain ⟨shown, signal, delta, lastValid, hWorld, hLocals⟩ := frameSeen_eq env w l frame
      rw [hWorld, hLocals]
      exact hOwn.goOn fun hCounted => hCounted
  | addTime inHand =>
      refine hOwn.goOn fun hCounted => ?_
      have hAdded : w.time.toInt + l.frameTime ≤ w.dequeuedTime := hCounted
      have hLow := hRange rfl
      rw [CaptureLocals.frameTime, inHand] at hAdded hLow
      exact (Wrapping.toInt_add_le hLow).trans hAdded
  | timeUp limited reached =>
      have hRequested := hLimit.resolve_left limited
      rw [hRequested] at limited reached
      have hPositive : 0 < w.history.requested := Int64.lt_of_le_of_ne hOwn.limit limited.symm
      have hCounted : w.time.toInt ≤ w.dequeuedTime := hOwn.counted hPositive
      have hReached := (Int64.le_iff_toInt_le.mp reached).trans hCounted
      exact ⟨hOwn.limit, fun _ => hCounted, fun _ => ⟨hPositive, hReached⟩⟩
  | clearCaptureTime =>
      exact hOwn.goOn (fun hCounted => (Int.add_zero w.time.toInt).trans_le hCounted) rfl rfl fun _ => rfl
  | rollback => exact hOwn.goOn counted_resume rfl rfl (by simp [resume_decision])
  | _ => exact hOwn.goOn id

end Duration

section Signal

variable {env : Environment} {ans : Answer} {clock : Nat} {w w' : World} {l l' : CaptureLocals}
  {pc pc' : CapturePc}

theorem heldOwn_of_noted (h : pc.unnoted = false) : HeldOwn w clock l pc := by
  cases pc with
  | readClock | readState | newWatch | newFile | frameSeen => cases h
  | _ => exact trivial

theorem resume_unnoted (resume : Resume) : resume.pc.unnoted = false := by
  cases resume <;> rfl

/-- The thread goes on between two frames, or after it has noted one. -/
theorem SignalOwn.goOn (h : SignalOwn w clock l pc)
    (hLast : w'.history.lastDequeue = w.history.lastDequeue := by rfl)
    (hTimeout : w'.history.watchTimeout = w.history.watchTimeout := by rfl)
    (hWas : l'.wasCapturing = l.wasCapturing := by rfl)
    (hSignal : l'.signal = l.signal := by rfl)
    (hNoted : pc.unnoted = false := by rfl) (hNoted' : pc'.unnoted = false := by rfl)
    (hDecision : pc'.decision = some .signalLost → pc.decision = some .signalLost :=
      by simp [CapturePc.decision]) : SignalOwn w' clock l' pc' := by
  refine ⟨fun hWatch => ?_, heldOwn_of_noted hNoted', fun hDecided => ?_⟩
  · have hBefore : l.wasCapturing = true := by
      rcases hWatch with hWatch | rfl
      · exact hWas.symm.trans hWatch
      · cases hNoted'
    rw [hSignal, hTimeout, hLast]
    exact (h.watch (Or.inl hBefore)).imp_right fun hKept =>
      ⟨hKept.1, fun _ => hKept.2 (Or.inr hNoted)⟩
  · have hEvidence := h.decided (hDecision hDecided)
    rw [Evidence, hLast, hTimeout]
    exact hEvidence

theorem afterState_cases (l : CaptureLocals) :
    l.frame = none ∧ l.afterState = .noFrame ∨ l.frame ≠ none ∧ l.afterState = .frameSeen := by
  unfold CaptureLocals.afterState
  split_ifs with h
  · exact Or.inl ⟨h, rfl⟩
  · exact Or.inr ⟨h, rfl⟩

/-- The thread goes on to the frame in hand, or to the test for a lost signal,
with a watch set up for this capture. -/
theorem SignalOwn.afterState (hFrame : l'.frame = l.frame)
    (hWatch : l'.signal.timeout ≤ 0 ∨ l'.signal.timeout = w.history.watchTimeout ∧ (l.frame = none →
      ∀ noted, l'.signal.lastFrame = some noted →
        ∃ last, w.history.lastDequeue = some last ∧ last ≤ noted))
    (hHeld : l'.signal.timeout ≤ 0 ∨ Held w l' l'.now) : SignalOwn w clock l' l.afterState := by
  rcases afterState_cases l with ⟨hNone, hPc⟩ | ⟨hSome, hPc⟩
  · rw [hPc]
    exact ⟨fun _ => hWatch.imp_right fun h => ⟨h.1, fun _ => h.2 hNone⟩, trivial, by simp [CapturePc.decision]⟩
  · rw [hPc]
    refine ⟨fun _ => hWatch.imp_right fun h => ⟨h.1, ?_⟩, fun _ => hHeld, by simp [CapturePc.decision]⟩
    rintro (hNone | hNoted)
    · exact absurd (hFrame.symm.trans hNone) hSome
    · cases hNoted

/-- A lost signal was last there in this capture. -/
theorem SignalOwn.lost (h : SignalOwn w clock l .noFrame) (hFacts : CaptureFacts clock l .noFrame)
    (hCapturing : l.capturing = true) (hLost : l.signal.lost l.now = true) :
    Evidence w clock .signalLost := by
  obtain ⟨hOn, noted, hNoted, hSilent⟩ := (SignalWatch.lost_iff _ _).mp hLost
  have hWas : l.wasCapturing = true := (hFacts.same (Or.inl rfl)).symm.trans hCapturing
  obtain ⟨hTimeout, hLast⟩ := (h.watch (Or.inl hWas)).resolve_left (by omega)
  obtain ⟨last, hDequeued, hBefore⟩ := hLast (Or.inr rfl) noted hNoted
  have hNow := hFacts.now
  rw [hTimeout] at hOn hSilent
  exact ⟨last, hDequeued, hOn, by omega⟩

/-- The watch is told of the frame in hand. -/
theorem SignalOwn.note (h : SignalOwn w clock l .frameSeen) (hFacts : CaptureFacts clock l .frameSeen)
    (hFrame : l.frame ≠ none) (newDVTime : Int) (hHistory : w'.history = w.history) :
    SignalOwn w' clock
      ((if l.capturing then { l with signal := l.signal.frame l.now } else l).track newDVTime)
      .preview := by
  obtain ⟨delta, lastValid, hTracked⟩ := CaptureLocals.track_eq
    (if l.capturing then { l with signal := l.signal.frame l.now } else l) newDVTime
  rw [hTracked]
  refine ⟨fun hWatch => ?_, trivial, by simp [CapturePc.decision]⟩
  rw [hHistory]
  have hSame := hFacts.same (Or.inr rfl)
  cases hCapturing : l.capturing with
  | false => simp [hCapturing, ← hSame] at hWatch
  | true =>
      have hWas : l.wasCapturing = true := hSame.symm.trans hCapturing
      rw [if_pos rfl]
      rcases h.watch (Or.inl hWas) with hOff | ⟨hTimeout, -⟩
      · exact Or.inl hOff
      · refine (h.held hWas).imp_right fun hHeld => ⟨hTimeout, fun _ noted hNoted => ?_⟩
        obtain rfl : l.now = noted := Option.some.inj hNoted
        exact hHeld hFrame

/-- A step of the thread during a capture keeps the signal watch its own. -/
theorem CaptureMove.signalOwn (h : CaptureMove env ans clock w l pc w' (some (pc', l')))
    (hState : w.state = .capturing) (hState' : w'.state = .capturing)
    (hFacts : CaptureFacts clock l pc) (hOwn : SignalOwn w clock l pc) :
    SignalOwn w' clock l' pc' := by
  obtain ⟨files, hFinish⟩ := w.finishWriter_fst env ans
  cases h with
  | throws mayThrow => cases pc <;> first | exact hOwn.goOn | cases mayThrow
  | finishThrows finishes =>
      rw [hFinish]
      cases pc <;> first | exact hOwn.goOn | simp [CapturePc.finishNext] at finishes
  | releaseWriter =>
      show SignalOwn (w.finishWriter env ans).1 _ _ _
      rw [hFinish]
      exact hOwn.goOn
  | finishes goesOn =>
      rw [hFinish]
      cases pc <;> cases goesOn
      all_goals exact hOwn.goOn
  | split =>
      rw [hFinish]
      exact hOwn.goOn
  | timeOut =>
      refine ⟨fun hWatch => ?_, fun hFrame => absurd rfl hFrame, by simp [CapturePc.decision]⟩
      exact (hOwn.watch (hWatch.imp_right (by simp))).imp_right fun hKept =>
        ⟨hKept.1, fun _ => hKept.2 (Or.inr rfl)⟩
  | @takeFrame queue isSet waiting =>
      have hLast : (w.dequeue queue.takeLocked.2 queue.takeLocked.1 clock).history.lastDequeue =
          some clock := if_pos hState
      refine ⟨fun hWatch => ?_, fun _ => ⟨clock, hLast, le_refl _⟩, by simp [CapturePc.decision]⟩
      exact (hOwn.watch (hWatch.imp_right (by simp))).imp_right fun hKept => ⟨hKept.1, by simp [CapturePc.unnoted]⟩
  | readClock =>
      refine ⟨fun hWatch => ?_, hOwn.held, by simp [CapturePc.decision]⟩
      exact (hOwn.watch (hWatch.imp_right (by simp))).imp_right fun hKept =>
        ⟨hKept.1, fun hNoted => hKept.2 (hNoted.imp_right (by simp [CapturePc.unnoted]))⟩
  | noticeCapture capturing fresh => exact ⟨by simp [fresh], hOwn.held, by simp [CapturePc.decision]⟩
  | readState same =>
      exact .afterState rfl ((hOwn.watch (Or.inl (same hState))).imp_right fun hKept =>
        ⟨hKept.1, fun hNone => hKept.2 (Or.inl hNone)⟩) (Or.inr hOwn.held)
  | newWatch =>
      refine ⟨fun _ => Or.inr ⟨rfl, by simp⟩, Or.inr hOwn.held, by simp [CapturePc.decision]⟩
  | newFile =>
      exact .afterState rfl ((hOwn.watch (Or.inr rfl)).imp_right fun hKept =>
        ⟨hKept.1, fun hNone => hKept.2 (Or.inl hNone)⟩) hOwn.held
  | noticeLoss isSet isOpen capturing lost =>
      have hEvidence := hOwn.lost hFacts capturing lost
      exact ⟨fun hWatch => hOwn.watch (hWatch.imp_right (by simp)), trivial, fun _ => hEvidence⟩
  | frameSeen inHand =>
      obtain ⟨shown, hShown⟩ := w.timeChange_eq (recordingTime env _ = l.dvTime) _
      rw [hShown]
      obtain ⟨queue, span, -, hSpan, -⟩ := inHand
      exact hOwn.note hFacts (by simp [hSpan]) _ rfl
  | enterFinished => cases hState'
  | rollback =>
      exact hOwn.goOn rfl rfl rfl rfl rfl (resume_unnoted _) (by simp [resume_decision])
  | _ => exact hOwn.goOn

end Signal

section Disk

variable {env : Environment} {ans : Answer} {clock : Nat} {w w' : World} {l l' : CaptureLocals}
  {pc pc' : CapturePc}

/-- The thread goes on to a step that measures nothing. -/
theorem DiskOwn.goOn (h : DiskOwn w l pc)
    (hCaptureOf : w'.history.captureOf = w.history.captureOf := by rfl)
    (hMeasured : w'.history.measured = w.history.measured := by rfl)
    (hWas : l'.wasCapturing = l.wasCapturing := by rfl)
    (hFile : l'.captureFile = l.captureFile := by rfl)
    (hPc : pc' ≠ .frameSeen ∧ pc' ≠ .preview ∧ pc' ≠ .readDiskState ∧ pc' ≠ .checkDisk := by simp)
    (hDecision : pc'.decision = some .diskFull → pc.decision = some .diskFull :=
      by simp [CapturePc.decision]) : DiskOwn w' l' pc' where
  file := fun hCapturing => by
    rw [FileOwn, hFile, hCaptureOf]
    exact h.file (hWas.symm.trans hCapturing)
  due := by
    rintro (hNext | hNext | hNext)
    · exact absurd hNext hPc.1
    · exact absurd hNext hPc.2.1
    · exact absurd hNext hPc.2.2.1
  checks := fun hNext => absurd hNext hPc.2.2.2
  decided := fun hDecided => by
    rw [hMeasured, hCaptureOf]
    exact h.decided (hDecision hDecided)

/-- The thread goes on to the frame in hand. -/
theorem DiskOwn.approach (h : DiskOwn w l pc) (hPc : pc = .frameSeen ∨ pc = .preview)
    (hPc' : pc' = .preview ∨ pc' = .readDiskState) (hHistory : w'.history = w.history)
    (hWas : l'.wasCapturing = l.wasCapturing) (hFile : l'.captureFile = l.captureFile)
    (hCount : l'.framesSinceDiskCheck = l.framesSinceDiskCheck) : DiskOwn w' l' pc' := by
  have hSame : FileOwn w' l' ↔ FileOwn w l := by rw [FileOwn, hHistory, hFile, FileOwn]
  refine ⟨fun hCapturing => ?_, fun _ => ?_, ?_, ?_⟩
  · exact hSame.mpr (h.file (hWas.symm.trans hCapturing))
  · rw [hSame, hCount]
    exact h.due (hPc.imp_right Or.inl)
  · rcases hPc' with rfl | rfl <;> simp
  · rcases hPc' with rfl | rfl <;> simp [CapturePc.decision]

theorem DiskOwn.afterState (hFile : l'.wasCapturing = true → FileOwn w l')
    (hDue : FileOwn w l') : DiskOwn w l' l.afterState := by
  refine ⟨hFile, fun _ => Or.inl hDue, fun hPc => absurd hPc (afterState_ne l), fun hDecided => ?_⟩
  rw [afterState_decision] at hDecided
  cases hDecided

/-- A step of the thread during a capture keeps the disk check its own. -/
theorem CaptureMove.diskOwn (h : CaptureMove env ans clock w l pc w' (some (pc', l')))
    (hState : w.state = .capturing) (hState' : w'.state = .capturing)
    (hTarget : w.target = w.history.captureOf) (hOwn : DiskOwn w l pc) : DiskOwn w' l' pc' := by
  obtain ⟨files, hFinish⟩ := w.finishWriter_fst env ans
  cases h with
  | finishThrows =>
      rw [hFinish]
      exact hOwn.goOn
  | releaseWriter =>
      show DiskOwn (w.finishWriter env ans).1 _ _
      rw [hFinish]
      exact hOwn.goOn
  | finishes goesOn =>
      rw [hFinish]
      cases pc <;> cases goesOn
      all_goals exact hOwn.goOn
  | split =>
      rw [hFinish]
      exact hOwn.goOn
  | readState same =>
      have hFile : FileOwn w l := hOwn.file (same hState)
      exact .afterState (fun _ => hFile) hFile
  | newFile =>
      have hFile : FileOwn w { l with
          captureFile := w.target.filename
          framesSinceDiskCheck := kDiskCheckFrames
          wasCapturing := l.capturing } := by rw [FileOwn, hTarget]
      exact .afterState (fun _ => hFile) hFile
  | @frameSeen frame =>
      obtain ⟨shown, signal, delta, lastValid, hWorld, hLocals⟩ := frameSeen_eq env w l frame
      rw [hWorld, hLocals]
      exact hOwn.approach (Or.inl rfl) (Or.inl rfl) rfl rfl rfl rfl
  | preview => exact hOwn.approach (Or.inr rfl) (Or.inr rfl) rfl rfl rfl rfl
  | dueDiskCheck capturing due =>
      have hFile : FileOwn w l := (hOwn.due (Or.inr (Or.inr rfl))).resolve_right (not_lt.mpr due)
      exact ⟨hOwn.file, by simp, fun _ => hFile, by simp [CapturePc.decision]⟩
  | diskLow =>
      have hFile : captureDirectory l.captureFile = _ := hOwn.checks rfl
      exact ⟨hOwn.file, by simp, by simp, fun _ => congrArg some hFile⟩
  | enterFinished => cases hState'
  | rollback =>
      exact hOwn.goOn rfl rfl rfl rfl ⟨resume_ne _, resume_ne _, resume_ne _, resume_ne _⟩
        (by simp [resume_decision])
  | _ => exact hOwn.goOn

end Disk

end WinDV
