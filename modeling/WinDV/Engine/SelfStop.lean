import WinDV.Engine.Evidence

/-! Whether a capture that stops itself does so for its own reasons. The worker's
compare-exchange only sees that some capture is in progress. -/
namespace WinDV

open Transition

namespace Config

variable {env : Environment} {c c' : Config} {action : Action}

/-- A Start call sets Capturing while the worker carries nothing over from
before that it could stop the new capture for. -/
def StartsClean (entry : Config × Action) : Prop :=
  ∀ ans request, entry.2 = .control ans → entry.1.call = .busy request (.start .storeState) →
    ∀ pc l, entry.1.worker = .capture pc l →
      OwnEvidence (entry.1.world.beginCapture request.startArgs) entry.1.clock l pc

/-- The frame in hand does not take `m_time` below the range of its 64 bits,
where it would come out at the upper end. -/
def AddsInRange (entry : Config × Action) : Prop :=
  ∀ ans l, entry.2 = .worker ans → entry.1.worker = .capture .addTime l →
    -2 ^ 63 ≤ entry.1.world.time.toInt + l.frameTime

def ThreadFacts (c : Config) : Prop :=
  ∀ pc l, c.worker = .capture pc l → CaptureFacts c.clock l pc

theorem ThreadFacts.step (h : c.ThreadFacts) (hAgree : c.Agree)
    (hStep : c.step env action = some c') : c'.ThreadFacts := by
  intro pc l hThread
  have hClock := clock_le hStep
  rcases hAgree.capture_from hStep hThread with ⟨before, l', hThread'⟩ | ⟨-, -, rfl, rfl⟩
  · have hOld := h before l' hThread'
    rcases hAgree.capture_cases hThread' hStep with ⟨ans, w', t, rfl, move, rfl⟩ | ⟨hSame, -, -⟩
    · cases t with
      | none => cases hThread
      | some next =>
          cases hThread
          exact move.facts hOld
    · rw [hThread] at hSame
      cases hSame
      exact ⟨hOld.now.trans hClock, hOld.same, hOld.reasons⟩
  · exact ⟨Nat.zero_le _, fun _ => rfl, by simp [CapturePc.decision]⟩

theorem LeavesCapture.counted {w w' : World} (h : LeavesCapture w w') {l : CaptureLocals} {pc : CapturePc}
    (hCounted : Counted w l pc) : Counted w' l pc := by
  have hDequeued : w'.dequeuedTime = w.dequeuedTime := by
    rw [World.dequeuedTime, h.dequeued, World.dequeuedTime]
  cases pc <;> simp_all [Counted, h.time, h.dequeued]

theorem LeavesCapture.held {w w' : World} (h : LeavesCapture w w') {l : CaptureLocals}
    {bound bound' : Nat} (hBound : bound ≤ bound') (hHeld : Held w l bound) : Held w' l bound' := by
  intro hFrame
  obtain ⟨last, hLast, hBefore⟩ := hHeld hFrame
  exact ⟨last, h.lastDequeue.trans hLast, hBefore.trans hBound⟩

/-- The other threads leave what the worker goes by alone, and so does time. -/
theorem LeavesCapture.ownEvidence {w w' : World} (h : LeavesCapture w w') {clock clock' : Nat}
    (hClock : clock ≤ clock') {l : CaptureLocals} {pc : CapturePc}
    (hQueue : ∀ queue, w.queue = some queue → queue.closed = true → w'.queue = some queue)
    (hOwn : OwnEvidence w clock l pc) : OwnEvidence w' clock' l pc := by
  refine hOwn.imp (fun hLeaving => hLeaving.mono hQueue) ?_
  rintro ⟨hDuration, hSignal, hDisk⟩
  refine ⟨hDuration.goOn h.counted h.requested h.dequeued id, ⟨?_, ?_, ?_⟩, ⟨?_, ?_, ?_, ?_⟩⟩
  · rw [h.watchTimeout, h.lastDequeue]
    exact hSignal.watch
  · have hHeld := hSignal.held
    cases pc with
    | readClock => exact h.held hClock hHeld
    | readState | newWatch => exact h.held (le_refl _) hHeld
    | newFile => exact hHeld.imp_right (h.held (le_refl _))
    | frameSeen => exact fun hWas => (hHeld hWas).imp_right (h.held (le_refl _))
    | _ => trivial
  · intro hDecided
    obtain ⟨last, hLast, hOn, hSilent⟩ := hSignal.decided hDecided
    rw [Evidence, h.lastDequeue, h.watchTimeout]
    exact ⟨last, hLast, hOn, by omega⟩
  · rw [FileOwn, h.captureOf]
    exact hDisk.file
  · rw [FileOwn, h.captureOf]
    exact hDisk.due
  · rw [FileOwn, h.captureOf]
    exact hDisk.checks
  · rw [h.captureOf, h.measured]
    exact hDisk.decided

/-- One step of any thread; a Start call that sets Capturing does so clean, and
`m_time` stays above the lower end of its range. -/
theorem StartKept.ownEvidence_step (h : c.StartKept) (hFacts : c.ThreadFacts)
    (hOwn : c.DuringCapture OwnEvidence) (hStep : c.step env action = some c')
    (hClean : StartsClean (c, action)) (hRange : AddsInRange (c, action)) :
    c'.DuringCapture OwnEvidence := by
  apply h.during_step hStep hOwn
  · exact hClean
  · intro ans w' pc l pc' l' hAction hState hState' hThread move hBefore
    refine hBefore.imp move.leaving ?_
    rintro ⟨hDuration, hSignal, hDisk⟩
    exact ⟨move.durationOwn hState hState' (h.limit hState)
        (fun hPc => hRange ans l hAction (hPc ▸ hThread)) hDuration,
      move.signalOwn hState hState' (hFacts pc l hThread) hSignal,
      move.diskOwn hState hState' (h.target hState) hDisk⟩
  · intro w' clock pc l hState hState' hOther hClock hBefore
    exact (hOther.during_capture hState hState').ownEvidence hClock
      (fun _ hQueue hClosed => hOther.closed_queue hQueue hClosed) hBefore

/-- A step of the worker that ends a capture is the compare-exchange of a self-stop. -/
theorem self_stop_exchange {ans : Answer} (hStep : c.step env (.worker ans) = some c')
    (hCapturing : c.world.state = .capturing) (hFinished : c'.world.state = .finished) :
    ∃ reason resume l, c.worker = .capture (.exchange reason resume) l ∧
      c'.world = c.world.enterFinished reason ∧ c'.clock = c.clock := by
  cases step_move hStep with
  | capture thread move =>
      rcases move.state_cases with ⟨hSame, -, -⟩ | ⟨reason, resume, rfl, -, hWorld, -⟩
      · have hNow := hFinished.symm.trans (hSame.trans hCapturing)
        cases hNow
      · exact ⟨reason, resume, _, thread, hWorld, rfl⟩
  | record thread move =>
      rcases move.state_cases with ⟨hSame, -, -⟩ | ⟨-, hRecording, -, -⟩
      · have hNow := hFinished.symm.trans (hSame.trans hCapturing)
        cases hNow
      · rw [hCapturing] at hRecording
        cases hRecording

/-- In a run in which every capture begins clean and `m_time` does not wrap
around from below, a capture that the worker ends has ended on the evidence of
its own frames, its own watch or its own folder. -/
theorem self_stop_on_own_evidence {log : List (Config × Action)} {ans : Answer}
    (run : Runs (Config.step env) {} log c)
    (hClean : ∀ entry ∈ log, StartsClean entry ∧ AddsInRange entry)
    (hStep : c.step env (.worker ans) = some c') (hCapturing : c.world.state = .capturing)
    (hFinished : c'.world.state = .finished) :
    ∃ reason, c'.world.history.enteredBy = some reason ∧ Evidence c'.world c'.clock reason := by
  obtain ⟨hKept, hFacts, hOwn⟩ := run.invariant_of (fun entry => StartsClean entry ∧ AddsInRange entry)
    (fun c => c.StartKept ∧ c.ThreadFacts ∧ c.DuringCapture OwnEvidence)
    ⟨startKept_initial, by simp [ThreadFacts], by simp [DuringCapture]⟩
    (fun s a t hs hMeets hStep => ⟨hs.1.step hStep, hs.2.1.step hs.1.agree hStep,
      hs.1.ownEvidence_step hs.2.1 hs.2.2 hStep hMeets.1 hMeets.2⟩) hClean
  obtain ⟨reason, resume, l, hThread, hWorld, hClock⟩ := self_stop_exchange hStep hCapturing hFinished
  rw [hWorld, hClock]
  refine ⟨reason, rfl, ?_⟩
  rcases hOwn hCapturing _ l hThread with hLeaving | ⟨hDuration, hSignal, hDisk⟩
  · exact hLeaving.elim
  · have hReasons := (hFacts _ l hThread).reasons
    cases reason with
    | duration => exact hDuration.decided rfl
    | signalLost => exact hSignal.decided rfl
    | diskFull => exact hDisk.decided rfl
    | none => exact absurd rfl hReasons.1
    | endOfFiles => exact absurd rfl hReasons.2

/-- The test of a run whose captures begin while the worker is between two
iterations, has seen the pause and has reset its counts. -/
def atRestAtStart (c : Config) : Bool :=
  match c.call, c.worker with
  | .busy request (.start .storeState), .capture pc l =>
      pc == .loopHead && !l.wasCapturing && c.world.time == 0 && 0 ≤ request.startArgs.captureTime
  | _, _ => true

theorem StartsClean.of_atRest {entry : Config × Action} (h : entry.1.atRestAtStart = true) :
    StartsClean entry := by
  intro ans request _ hBusy pc l hThread
  simp only [atRestAtStart, hBusy, hThread, Bool.and_eq_true, beq_iff_eq, Bool.not_eq_true',
    decide_eq_true_eq] at h
  obtain ⟨⟨⟨rfl, hWas⟩, hTime⟩, hLimit⟩ := h
  have hCounted : (entry.1.world.time).toInt ≤ 0 := by
    rw [hTime]
    decide
  exact Or.inr ⟨⟨hLimit, fun _ => hCounted, by simp [CapturePc.decision]⟩,
    ⟨by simp [hWas], trivial, by simp [CapturePc.decision]⟩,
    ⟨by simp [hWas], by simp, by simp, by simp [CapturePc.decision]⟩⟩

/-- The frame that is about to be added has a length that is not negative. -/
def addsNoLess (c : Config) : Bool :=
  match c.worker with
  | .capture .addTime l => 0 ≤ l.frameTime
  | _ => true

theorem AddsInRange.of_addsNoLess {entry : Config × Action} (h : entry.1.addsNoLess = true) :
    AddsInRange entry := by
  intro ans l _ hThread
  have hLow := entry.1.world.time.le_toInt
  rw [addsNoLess, hThread] at h
  have hNotLess : 0 ≤ l.frameTime := of_decide_eq_true h
  omega

/-- A capture of 300 units and a frame of 400. -/
theorem self_stop_on_own_evidence_duration :
    ∃ log c c', Runs (Config.step .plain) {} log c ∧ c.step .plain (.worker {}) = some c' ∧
      c.world.state = .capturing ∧ c'.world.state = .finished ∧
      ∃ reason, c'.world.history.enteredBy = some reason ∧ Evidence c'.world c'.clock reason := by
  obtain ⟨log, c, run, hTest⟩ := exec_witness (Config.step .plain) {}
    (readyToCapture ++ perform (.startCapturing ⟨wide "tape", [], 0, 300⟩) 7 ++ receive 400 ++ work 20)
    (fun log c => (log.all fun entry => entry.1.atRestAtStart && entry.1.addsNoLess) && c.world.state == .capturing &&
      (c.step .plain (.worker {})).any fun c' => c'.world.state == .finished) (by decide +kernel)
  simp only [Bool.and_eq_true, beq_iff_eq, List.all_eq_true, Option.any_eq_true] at hTest
  obtain ⟨⟨hStarts, hCapturing⟩, c', hStep, hFinished⟩ := hTest
  exact ⟨log, c, c', run, hStep, hCapturing, hFinished, self_stop_on_own_evidence run
    (fun entry hEntry => ⟨.of_atRest (hStarts entry hEntry).1, .of_addsNoLess (hStarts entry hEntry).2⟩)
    hStep hCapturing hFinished⟩

/-- A capture stopped and another of 700 units started before the next frame:
the second stops itself after one frame of 400, as the first one's is counted. -/
theorem self_stop_on_earlier_evidence :
    ¬ ∀ c, Reachable (Config.step .plain) {} c → ∀ ans c', c.step .plain (.worker ans) = some c' →
      c.world.state = .capturing → c'.world.state = .finished →
      ∃ reason, c'.world.history.enteredBy = some reason ∧ Evidence c'.world c'.clock reason := by
  intro hOwn
  obtain ⟨log, c, run, hTest⟩ := exec_witness (Config.step .plain) {}
    (stoppedCapture ++ perform (.startCapturing ⟨wide "next", [], 0, 700⟩) 7 ++ receive 400 ++ work 15)
    (fun _ c => c.world.state == .capturing && (c.step .plain (.worker {})).any fun c' =>
      c'.world.state == .finished && c'.world.history.enteredBy == some .duration &&
        c'.world.history.requested == 700 && c'.world.dequeuedTime == 400) (by decide +kernel)
  simp only [Bool.and_eq_true, beq_iff_eq, Option.any_eq_true] at hTest
  obtain ⟨hCapturing, c', hStep, ⟨⟨hFinished, hEntered⟩, hRequested⟩, hDequeued⟩ := hTest
  obtain ⟨reason, hReason, hEvidence⟩ := hOwn c ⟨log, run⟩ _ c' hStep hCapturing hFinished
  obtain rfl := Option.some.inj (hEntered.symm.trans hReason)
  rw [Evidence, hRequested, hDequeued] at hEvidence
  exact absurd hEvidence.2 (by decide)

end Config

end WinDV
