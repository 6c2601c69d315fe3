import WinDV.Core.FrameQueueHold
import WinDV.Engine.Playback
import WinDV.Engine.SelfStop

/-! The tape over every run of the engine: what stands on it, what has to
happen before the next frame, and how it ends. -/
namespace WinDV

open Transition Stutter

/-- The thread is a record thread that has a frame. -/
def Worker.holdsFrame : Worker → Bool
  | .record pc _ => pc.holdsFrame
  | _ => false

namespace Config

/-- The record thread gets a frame from the queue. -/
def TakesFrame (entry : Config × Action) : Prop :=
  entry.2.isWorker = true ∧ ∃ pc l queue, entry.1.worker = .record pc l ∧
    (pc = .firstFrame ∨ pc = .nextFrame) ∧ entry.1.world.queue = some queue ∧ 0 < queue.load

/-- The record thread hands a frame to `m_dvOutput`. -/
def SendsFrame (frame : Frame) (entry : Config × Action) : Prop :=
  ∃ ans l queue span, entry.2 = .worker ans ∧ ans.failure = none ∧
    entry.1.worker = .record .output l ∧ entry.1.world.queue = some queue ∧ l.frame = some span ∧
    frame = queue.view span

/-- The record thread reads `m_state` and finds Recording. -/
def ReadsRecording (entry : Config × Action) : Prop :=
  entry.2.isWorker = true ∧ (∃ l, entry.1.worker = .record .readState l) ∧
    entry.1.world.state = .recording

/-- The frame has been sent since it was taken. -/
def SentSince (log : List (Config × Action)) (frame : Frame) : Prop :=
  ∃ before sending after, log = before ++ sending :: after ∧ SendsFrame frame sending ∧
    ∀ entry ∈ after, ¬ TakesFrame entry

/-- The frame has been sent since it was taken, and Recording was read after that. -/
def ReleasedSince (log : List (Config × Action)) (frame : Frame) : Prop :=
  ∃ before reading after, log = before ++ reading :: after ∧ SentSince before frame ∧
    ReadsRecording reading ∧ ∀ entry ∈ reading :: after, ¬ TakesFrame entry

/-- Finished is entered with EndOfFiles. -/
def EntersEndOfFiles (env : Environment) (entry : Config × Action) : Prop :=
  ∃ c', entry.1.step env entry.2 = some c' ∧ entry.1.world.state ≠ .finished ∧
    c'.world.state = .finished ∧ c'.world.history.enteredBy = some .endOfFiles

/-- The tape at the end of a run. -/
structure RecordsInOrder (env : Environment) (log : List (Config × Action)) (c : Config) : Prop where
  /-- The frames sent are the first of those put into the queue, each as often as its count says. -/
  shown : ∃ frames counts, frames <+: c.world.history.accepted ∧
    counts.length = frames.length ∧ (∀ count ∈ counts, 1 ≤ count) ∧
    c.world.history.sent = expand counts frames
  moves_on : ∀ before after : List (Config × Action), ∀ entry l, log = before ++ entry :: after →
    TakesFrame entry → entry.1.worker = .record .nextFrame l →
    ∃ frame, entry.1.world.history.taken.getLast? = some frame ∧ ReleasedSince before frame
  ends : ∀ entry ∈ log, EntersEndOfFiles env entry →
    entry.1.world.Drained ∧ ∃ counts : List Nat,
      counts.length = entry.1.world.history.accepted.length ∧ (∀ count ∈ counts, 1 ≤ count) ∧
      entry.1.world.history.sent = expand counts entry.1.world.history.accepted

section Log

variable {log : List (Config × Action)} {frame : Frame} {entry : Config × Action}

theorem SentSince.append (h : SentSince log frame) (hEntry : ¬ TakesFrame entry) :
    SentSince (log ++ [entry]) frame := by
  obtain ⟨before, sending, after, rfl, hSends, hAfter⟩ := h
  refine ⟨before, sending, after ++ [entry], by simp, hSends, ?_⟩
  intro other hOther
  rcases List.mem_append.mp hOther with hOther | hOther
  · exact hAfter other hOther
  · rwa [List.mem_singleton.mp hOther]

theorem ReleasedSince.append (h : ReleasedSince log frame) (hEntry : ¬ TakesFrame entry) :
    ReleasedSince (log ++ [entry]) frame := by
  obtain ⟨before, reading, after, rfl, hSent, hReads, hAfter⟩ := h
  refine ⟨before, reading, after ++ [entry], by simp, hSent, hReads, ?_⟩
  intro other hOther
  rw [← List.cons_append] at hOther
  rcases List.mem_append.mp hOther with hOther | hOther
  · exact hAfter other hOther
  · rwa [List.mem_singleton.mp hOther]

theorem SentSince.read (h : SentSince log frame) (hReads : ReadsRecording entry) :
    ReleasedSince (log ++ [entry]) frame := by
  refine ⟨log, entry, [], rfl, h, hReads, ?_⟩
  intro other hOther
  rw [List.mem_singleton.mp hOther]
  rintro ⟨-, pc, l, queue, hThread, hPc, -⟩
  obtain ⟨-, ⟨l', hReading⟩, -⟩ := hReads
  rw [hReading] at hThread
  cases hThread
  rcases hPc with hPc | hPc <;> cases hPc

end Log

variable {env : Environment} {c c' : Config} {log : List (Config × Action)} {action : Action}
  {pc : RecordPc} {l : RecordLocals} {frame : Frame}

/-- What the log says of the frame in hand, from its sending to the next `Get`. -/
def Progress (log : List (Config × Action)) (frame : Frame) : RecordPc → Prop
  | .readState => SentSince log frame
  | .countFrame | .addTime | .nextFrame => ReleasedSince log frame
  | _ => True

theorem Progress.append {entry : Config × Action} (h : Progress log frame pc)
    (hEntry : ¬ TakesFrame entry) : Progress (log ++ [entry]) frame pc := by
  cases pc with
  | readState => exact SentSince.append h hEntry
  | countFrame | addTime | nextFrame => exact ReleasedSince.append h hEntry
  | _ => trivial

theorem not_takesFrame (hThread : c.worker = .record pc l) (hFirst : pc ≠ .firstFrame)
    (hNext : pc ≠ .nextFrame) : ¬ TakesFrame (c, action) := by
  rintro ⟨-, pc', l', queue, hThread', hPc, -⟩
  rw [hThread] at hThread'
  cases hThread'
  rcases hPc with hPc | hPc
  · exact hFirst hPc
  · exact hNext hPc

/-- A step of the record thread, in its log. -/
theorem Playback.progress_move {ans : Answer} {w' : World} {pc' : RecordPc} {l' : RecordLocals}
    (h : c.Playback) (hThread : c.worker = .record pc l)
    (move : RecordMove env ans c.clock c.world l pc w' (some (pc', l')))
    (hProgress : ∀ frame, c.world.history.taken.getLast? = some frame → Progress log frame pc)
    (hLast : w'.history.taken.getLast? = some frame) :
    Progress (log ++ [(c, .worker ans)]) frame pc' := by
  cases move with
  | output isSet inHand success =>
      obtain ⟨done, held, hPlaying⟩ := h.phase _ _ hThread
      have hHeld : some held = some frame := by
        rw [← hLast]
        show _ = c.world.history.taken.getLast?
        simp [hPlaying.taken]
      obtain rfl := Option.some.inj hHeld
      obtain rfl := hPlaying.holds.eq isSet inHand
      exact ⟨log, _, [], rfl, ⟨ans, l, _, _, rfl, success, hThread, isSet, inHand, rfl⟩, by simp⟩
  | goOn recording =>
      have hSent : SentSince log frame := hProgress frame hLast
      exact hSent.read ⟨rfl, ⟨l, hThread⟩, recording⟩
  | countFrame | addTime =>
      have hReleased : ReleasedSince log frame := hProgress frame hLast
      exact hReleased.append (not_takesFrame hThread (by simp) (by simp))
  | _ => trivial

/-- What the log says of the frame in hand, in every run. -/
theorem run_progress (run : Runs (Config.step env) {} log c) (hThread : c.worker = .record pc l)
    (hLast : c.world.history.taken.getLast? = some frame) : Progress log frame pc := by
  induction run generalizing pc l frame with
  | zero => cases hThread
  | @succ log before c action prior last ih =>
      have hPlayback := playback_run prior
      rcases record_from last hThread with ⟨pc', l', hThread'⟩ | ⟨-, rfl, -, -⟩
      · rcases hPlayback.agree.record_cases hThread' last with
          ⟨ans, w', t, rfl, move, rfl⟩ | ⟨hWorker, hBeside, hOther⟩
        · cases t with
          | none => cases hThread
          | some thread =>
              cases hThread
              exact hPlayback.progress_move hThread' move (fun _ hFrame => ih hThread' hFrame) hLast
        · rw [hWorker] at hThread
          cases hThread
          rw [hBeside.taken] at hLast
          apply (ih hThread' hLast).append
          rintro ⟨hIsWorker, -⟩
          cases action with
          | worker ans => exact hOther ans rfl
          | _ => cases hIsWorker
      · trivial

/-- Only the record thread ends with EndOfFiles, at its compare-exchange. -/
theorem ThreadFacts.enters_exchange (hFacts : c.ThreadFacts)
    (hEnters : EntersEndOfFiles env (c, action)) : ∃ l, c.worker = .record .exchange l := by
  obtain ⟨c', hStep, hNot, hFinished, hReason⟩ := hEnters
  cases step_move hStep with
  | control busy step =>
      rcases (callStep_steps step).move.state with hSame | hOther
      · exact absurd (hSame.symm.trans hFinished) hNot
      · exact absurd hFinished hOther
  | capture thread move =>
      rcases move.state_cases with ⟨hSame, -, -⟩ | ⟨reason, resume, rfl, -, rfl, -⟩
      · exact absurd (hSame.symm.trans hFinished) hNot
      · obtain rfl := Option.some.inj hReason
        exact absurd rfl (hFacts _ _ thread).reasons.2
  | record thread move =>
      rcases move.state_cases with ⟨hSame, -, -⟩ | ⟨rfl, -, -, -⟩
      · exact absurd (hSame.symm.trans hFinished) hNot
      · exact ⟨_, thread⟩
  | callback thread move => exact absurd (move.keeps.state.symm.trans hFinished) hNot
  | begin | deliver | tick | setOptions | takeError => exact absurd hFinished hNot

theorem threadFacts_run (run : Runs (Config.step env) {} log c) : c.ThreadFacts := by
  have hBoth := run.invariant (fun c => c.Agree ∧ c.ThreadFacts)
    ⟨agree_initial, by simp [ThreadFacts]⟩ fun _ _ _ h hStep => ⟨h.1.step hStep, h.2.step h.1 hStep⟩
  exact hBoth.2

/-- The record thread shows the frames put into the queue in order, each at
least once, and moves on only when it has read Recording after sending one. -/
theorem tape_skips_nothing (run : Runs (Config.step env) {} log c) : RecordsInOrder env log c where
  shown := by
    have hPlayback := playback_run run
    obtain ⟨frames, hFrames, hRepeats⟩ := hPlayback.recorded
    obtain ⟨counts, hLength, hPos, hSent⟩ := hRepeats.counts
    exact ⟨frames, counts, hFrames.trans hPlayback.accounted.taken_prefix, hLength, hPos, hSent⟩
  moves_on := by
    rintro before after ⟨held, action⟩ l rfl hTakes hThread
    obtain ⟨middle, hBefore, hRest⟩ := run.unappend
    obtain ⟨rfl, next, hStep, -⟩ := hRest.uncons
    obtain ⟨done, frame, hShown⟩ := (playback_run hBefore).phase _ _ hThread
    have hTaken : held.world.history.taken = done ++ [frame] := hShown.taken
    have hLast : held.world.history.taken.getLast? = some frame := by simp [hTaken]
    exact ⟨frame, hLast, run_progress hBefore hThread hLast⟩
  ends := by
    intro entry hEntry hEnters
    obtain ⟨before, after, next, rfl, hBefore, -, -⟩ := run.split hEntry
    have hPlayback := playback_run hBefore
    obtain ⟨l, hThread⟩ := (threadFacts_run hBefore).enters_exchange hEnters
    obtain ⟨hDrained, done, frame, hShown⟩ := hPlayback.phase _ _ hThread
    refine ⟨hDrained, ?_⟩
    obtain ⟨queue, hQueue, -, hEmpty⟩ := hDrained
    have hAll := hPlayback.accounted.waiting queue hQueue
    have hNone : queue.contents = [] := List.length_eq_zero_iff.mp (by simpa using hEmpty)
    rw [hNone, List.append_nil] at hAll
    rw [hAll, hShown.taken]
    exact hShown.sent.counts

/-- Two frames. The first is shown while recording is paused, and the last
goes on being shown after the end of the files. -/
theorem tape_skips_nothing_two :
    ∃ log c, (c.world.history.sent.map Frame.duration = [1, 1, 2, 2]) ∧
      c.world.stopReason = .endOfFiles ∧ RecordsInOrder .plain log c := by
  obtain ⟨log, c, run, hTest⟩ := exec_witness (Config.step .plain) {}
    (perform .buildRecording 17 ++ receive 1 ++ receive 2 ++ [.deliver .endOfStream, .callback] ++
      work 9 ++ perform .startRecording 2 ++ work 22)
    (fun _ c => c.world.history.sent.map Frame.duration == [1, 1, 2, 2] &&
      c.world.stopReason == .endOfFiles) (by decide +kernel)
  simp only [Bool.and_eq_true, beq_iff_eq] at hTest
  exact ⟨log, c, hTest.1, hTest.2, tape_skips_nothing run⟩

/-- What the record thread reads through its span is the frame that last left
the queue. -/
theorem Playback.inHand (h : c.Playback) (hThread : c.worker = .record pc l)
    (hPc : pc.holdsFrame = true) :
    ∃ queue span, c.world.queue = some queue ∧ l.frame = some span ∧
      c.world.history.taken.getLast? = some (queue.view span) := by
  have hHolds : ∃ done frame, c.world.history.taken = done ++ [frame] ∧ c.world.Holds l.frame frame := by
    have hPhase := h.phase pc l hThread
    cases pc with
    | notifyStarted | firstFrame | report | notifyStopped => cases hPc
    | clearCounter | clearTime | loopHead | frameSeen | preview | output =>
        obtain ⟨done, frame, hPlaying⟩ := hPhase
        exact ⟨done, frame, hPlaying.taken, hPlaying.holds⟩
    | readState | countFrame | addTime | nextFrame =>
        obtain ⟨done, frame, hShown⟩ := hPhase
        exact ⟨done, frame, hShown.taken, hShown.holds⟩
    | storeReason | exchange | rollback =>
        obtain ⟨-, done, frame, hShown⟩ := hPhase
        exact ⟨done, frame, hShown.taken, hShown.holds⟩
  obtain ⟨done, frame, hTaken, queue, span, hQueue, hSpan, -, rfl⟩ := hHolds
  exact ⟨queue, span, hQueue, hSpan, by simp [hTaken]⟩

/-- A frame handed out stays intact until the next one is, in every run of the
queue; and so does the frame the record loop goes on sending, in every run of
the engine. -/
theorem handed_out_frame_stays_intact :
    (∀ capacity frameSize (earlier later : List (FrameQueue × FrameQueue.Action)) before queue action
        span, Runs FrameQueue.act (.new capacity frameSize) (earlier ++ (before, action) :: later) queue →
      FrameQueue.handedOut before action = some span →
      (∀ entry ∈ later, FrameQueue.handedOut entry.1 entry.2 = none) →
      FrameQueue.Intact before span later queue) ∧
    (∀ env log c pc l, Runs (Config.step env) {} log c → c.worker = .record pc l →
      pc.holdsFrame = true → ∃ queue span, c.world.queue = some queue ∧ l.frame = some span ∧
        c.world.history.taken.getLast? = some (queue.view span)) := by
  constructor
  · intro capacity frameSize earlier later before queue action span run hOut hNone
    exact FrameQueue.run_intact run hOut hNone
  · intro env log c pc l run hThread hPc
    exact (playback_run run).inHand hThread hPc

/-- A queue of three that is filled after its first frame was handed out, and
a record loop that goes on sending its last frame. -/
theorem handed_out_frame_stays_intact_full :
    (∃ before span later queue, FrameQueue.load queue = 3 ∧
      FrameQueue.Intact before span later queue) ∧
    ∃ (c : Config) (queue : FrameQueue) (span : FrameQueue.Span), c.world.state = .finished ∧
      c.world.queue = some queue ∧ c.world.history.taken.getLast? = some (queue.view span) := by
  constructor
  · obtain ⟨log, queue, run, hTest⟩ := exec_witness FrameQueue.act (.new 3 4)
      [.put ⟨0, [9, 9, 9, 9]⟩, .get, .put ⟨0, [0, 0, 0, 0]⟩, .put ⟨0, [1, 1, 1, 1]⟩,
        .put ⟨0, [2, 2, 2, 2]⟩]
      (fun log queue =>
        (log.tail.head?.any fun entry => (FrameQueue.handedOut entry.1 entry.2).isSome) &&
          ((log.drop 2).all fun other => FrameQueue.handedOut other.1 other.2 == none) &&
          queue.load == 3) (by decide)
    rcases log with _ | ⟨first, _ | ⟨⟨before, action⟩, later⟩⟩
    · cases hTest
    · cases hTest
    · simp only [List.tail_cons, List.head?_cons, Option.any_some, List.drop_succ_cons, List.drop_zero,
        Bool.and_eq_true, Option.isSome_iff_exists, List.all_eq_true, beq_iff_eq] at hTest
      obtain ⟨⟨⟨span, hOut⟩, hNone⟩, hLoad⟩ := hTest
      exact ⟨before, span, later, queue, hLoad, handed_out_frame_stays_intact.1 3 4 [first] later before
        queue action span run hOut hNone⟩
  · obtain ⟨log, c, run, hTest⟩ := exec_witness (Config.step .plain) {}
      (perform .buildRecording 17 ++ receive 1 ++ [.deliver .endOfStream, .callback] ++ work 4 ++
        perform .startRecording 2 ++ work 14)
      (fun _ c => c.world.state == .finished && c.worker.holdsFrame) (by decide +kernel)
    rw [Bool.and_eq_true, beq_iff_eq] at hTest
    obtain ⟨hFinished, hHolds⟩ := hTest
    cases hThread : c.worker with
    | record pc l =>
        rw [hThread] at hHolds
        obtain ⟨queue, span, hQueue, -, hLast⟩ :=
          handed_out_frame_stays_intact.2 .plain log c pc l run hThread hHolds
        exact ⟨c, queue, span, hFinished, hQueue, hLast⟩
    | absent | capture | returned =>
        rw [hThread] at hHolds
        cases hHolds

end Config

end WinDV
