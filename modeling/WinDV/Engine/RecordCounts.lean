import WinDV.Engine.PlaybackRuns
import WinDV.Library.Wrapping

/-! What the record thread counts. It counts the frame in hand before it asks
for the next one, so a frame that turns out to be the last has been counted
when the attempt to finish is made; if that attempt fails, the frame is sent
and counted once more. -/
namespace WinDV

open Transition

/-- The frame in hand, if there is one. -/
def RecordLocals.inHand (l : RecordLocals) (w : World) : List Frame :=
  match w.queue, l.frame with
  | some queue, some span => [queue.view span]
  | _, _ => []

namespace Config

/-- The frame that is counted again because an attempt to finish finds that
recording does not go on. -/
def countsAgain (entry : Config × Action) : List Frame :=
  match entry.2, entry.1.worker with
  | .worker _, .record .exchange l => if entry.1.world.state = .recording then [] else l.inHand entry.1.world
  | _, _ => []

/-- A Build call begins its pipeline. -/
def beginsPipeline (entry : Config × Action) : Bool :=
  match entry.2, entry.1.call with
  | .control _, .busy _ (.build .takeError) => true
  | _, _ => false

/-- The frames of the present pipeline that are counted again. -/
def countedAgain (log : List (Config × Action)) : List Frame := givenSince countsAgain beginsPipeline log

end Config

namespace World

/-- Recording goes on, or can go on. -/
def Recordable (w : World) : Prop := w.state = .recordPaused ∨ w.state = .recording

/-- `m_counter` and `m_time` are those of `frames` and of the frames counted
`again`, in their 32 and 64 bits. -/
structure Counts (w : World) (again frames : List Frame) : Prop where
  counter : w.counter = .ofInt (frames.length + again.length)
  time : w.time = .ofInt (totalDuration frames + totalDuration again)

/-- What the record thread has counted of the frames taken, by pc. -/
def CountPhase (w : World) (again : List Frame) : RecordPc → Prop
  | .notifyStarted | .firstFrame => again = []
  | .clearCounter => again = [] ∧ w.history.taken.dropLast = []
  | .clearTime => again = [] ∧ w.history.taken.dropLast = [] ∧ w.counter = 0
  | .loopHead | .frameSeen | .preview | .output | .readState | .countFrame | .rollback =>
      w.Counts again w.history.taken.dropLast
  | .addTime => ∀ frame, w.history.taken.getLast? = some frame →
      Counts { w with time := w.time + frame.duration } again w.history.taken
  | .nextFrame | .storeReason | .exchange => w.Counts again w.history.taken
  | .report _ | .notifyStopped => True

variable {w w' : World} {again frames done : List Frame} {frame : Frame} {pc : RecordPc}

theorem Counts.same (h : w.Counts again frames) (hCounter : w'.counter = w.counter)
    (hTime : w'.time = w.time) : w'.Counts again frames :=
  ⟨hCounter.trans h.counter, hTime.trans h.time⟩

/-- One more frame is counted. -/
theorem Counts.count (h : w.Counts again done) :
    Counts { w with counter := w.counter + 1, time := w.time + frame.duration } again (done ++ [frame]) where
  counter := by
    show w.counter + 1 = _
    rw [h.counter, List.length_append, List.length_singleton, Nat.cast_add, Nat.cast_one, add_right_comm]
    exact (Int32.ofInt_add (done.length + again.length) 1).symm
  time := by
    show w.time + frame.duration = _
    rw [h.time, totalDuration_concat, add_right_comm,
      Int64.ofInt_add (totalDuration done + totalDuration again), Int64.ofInt_toInt]

/-- After a failed attempt the last frame is still to be counted again. -/
theorem Counts.fail (h : w.Counts again (done ++ [frame])) : w.Counts (again ++ [frame]) done where
  counter := by
    rw [h.counter, List.length_append, List.length_append, List.length_singleton, Nat.cast_add,
      Nat.cast_add, add_right_comm, add_assoc]
  time := by rw [h.time, totalDuration_concat, totalDuration_concat, add_right_comm, add_assoc]

/-- The counters show each frame counted once exactly if that fits and what has
been counted again does not show. -/
theorem Counts.once_iff (h : w.Counts again frames) :
    (w.counter.toInt = frames.length ∧ w.time.toInt = totalDuration frames) ↔
      (frames.length < 2 ^ 31 ∧ -2 ^ 63 ≤ totalDuration frames ∧ totalDuration frames < 2 ^ 63) ∧
        2 ^ 32 ∣ again.length ∧ 2 ^ 64 ∣ totalDuration again := by
  rw [h.counter, h.time, Wrapping.toInt_ofInt32_add_eq_iff, Wrapping.toInt_ofInt64_add_eq_iff]
  omega

theorem CountPhase.same (h : w.CountPhase again pc) (hCounter : w'.counter = w.counter)
    (hTime : w'.time = w.time) (hTaken : w'.history.taken = w.history.taken) :
    w'.CountPhase again pc := by
  cases pc with
  | notifyStarted | firstFrame => exact h
  | clearCounter =>
      show again = [] ∧ w'.history.taken.dropLast = []
      rw [hTaken]
      exact h
  | clearTime =>
      show again = [] ∧ w'.history.taken.dropLast = [] ∧ w'.counter = 0
      rw [hTaken, hCounter]
      exact h
  | loopHead | frameSeen | preview | output | readState | countFrame | rollback =>
      show w'.Counts again w'.history.taken.dropLast
      rw [hTaken]
      exact Counts.same h hCounter hTime
  | addTime =>
      intro frame hLast
      rw [hTaken] at hLast ⊢
      exact (h frame hLast).same hCounter (congrArg (· + frame.duration) hTime)
  | nextFrame | storeReason | exchange =>
      show w'.Counts again w'.history.taken
      rw [hTaken]
      exact Counts.same h hCounter hTime
  | report | notifyStopped => trivial

end World

section Thread

variable {env : Environment} {ans : Answer} {clock : Nat} {w w' : World} {l l' : RecordLocals}
  {pc pc' : RecordPc} {again : List Frame}

/-- A step of the record thread that is not a failed attempt to finish. -/
theorem RecordMove.counts (h : RecordMove env ans clock w l pc w' (some (pc', l')))
    (hPhase : RecordPhase w l pc) (hLive : w'.Recordable)
    (hFails : ¬ (pc = .exchange ∧ w.state ≠ .recording)) (hCounts : w.CountPhase again pc) :
    w'.CountPhase again pc' := by
  cases h with
  | notifyStarted => exact hCounts
  | firstFrame =>
      refine ⟨hCounts, ?_⟩
      show (w.history.taken ++ _).dropLast = []
      rw [List.dropLast_concat, hPhase.taken]
  | clearCounter => exact ⟨hCounts.1, hCounts.2, rfl⟩
  | clearTime =>
      obtain ⟨rfl, hTaken, hCounter⟩ := hCounts
      show World.Counts _ [] w.history.taken.dropLast
      rw [hTaken]
      exact ⟨hCounter, rfl⟩
  | frameSeen =>
      obtain ⟨shown, hShown⟩ := w.timeChange_eq (recordingTime env _ = l.dvTime) _
      rw [hShown]
      exact World.CountPhase.same hCounts rfl rfl rfl
  | stayInLoop | preview | goOn | sendAgain | output | endOfFiles | storeReason =>
      exact World.CountPhase.same hCounts rfl rfl rfl
  | countFrame =>
      intro frame hLast
      obtain ⟨done, held, hShown⟩ := hPhase
      have hBefore : w.Counts again w.history.taken.dropLast := hCounts
      have hTaken : w.history.taken = done ++ [held] := hShown.taken
      rw [hTaken, List.dropLast_concat] at hBefore
      obtain rfl : held = frame := by simpa [hTaken] using hLast
      rw [hTaken]
      exact hBefore.count
  | @addTime span inHand =>
      obtain ⟨done, frame, hShown⟩ := hPhase
      obtain ⟨queue, held, -, hSpan, -, rfl⟩ := hShown.holds
      obtain rfl := Option.some.inj (inHand.symm.trans hSpan)
      exact hCounts (queue.view span) (by simp [hShown.taken])
  | nextFrame =>
      show World.Counts _ again (w.history.taken ++ _).dropLast
      rw [List.dropLast_concat]
      exact World.Counts.same hCounts rfl rfl
  | enterFinished => rcases hLive with hLive | hLive <;> cases hLive
  | exchangeFails notRecording => exact absurd ⟨rfl, notRecording⟩ hFails
  | rollback => exact World.Counts.same hCounts rfl rfl
  | noFrames | leaveLoop | outputFails | report => trivial

/-- A failed attempt to finish. -/
theorem World.CountPhase.fail (hPhase : RecordPhase w l .exchange) (h : w.CountPhase again .exchange) :
    w.CountPhase (again ++ l.inHand w) .rollback := by
  obtain ⟨-, done, frame, hShown⟩ := hPhase
  obtain ⟨queue, span, isSet, hSpan, -, hFrame⟩ := hShown.holds
  have hInHand : l.inHand w = [frame] := by rw [RecordLocals.inHand, isSet, hSpan, hFrame]
  have hCounts : w.Counts again w.history.taken := h
  show w.Counts _ w.history.taken.dropLast
  rw [hShown.taken, List.dropLast_concat, hInHand]
  rw [hShown.taken] at hCounts
  exact hCounts.fail

end Thread

namespace Config

variable {env : Environment} {c c' : Config} {action : Action} {log : List (Config × Action)}
  {request : Request} {pc : RecordPc} {l : RecordLocals} {again : List Frame}

/-- What the counters rest on, with the frames of the pipeline counted again. -/
structure Tally (again : List Frame) (c : Config) : Prop where
  counts : ∀ pc l, c.worker = .record pc l → c.world.Recordable → c.world.CountPhase again pc
  building : ∀ request pc, c.call = .busy request (.build pc) → pc ≠ .takeError → again = []

theorem tally_initial : ({} : Config).Tally [] where
  counts := fun _ _ hThread => by cases hThread
  building := fun _ _ _ _ => rfl

/-- A frame is counted again only where the record thread attempts to finish. -/
theorem countsAgain_eq_nil (h : ∀ ans l, action = .worker ans → c.worker ≠ .record .exchange l) :
    countsAgain (c, action) = [] := by
  cases action with
  | worker ans =>
      cases hWorker : c.worker with
      | record pc l =>
          cases pc with
          | exchange => exact absurd hWorker (h ans l rfl)
          | _ => simp [countsAgain, hWorker]
      | _ => simp [countsAgain, hWorker]
  | _ => rfl

theorem Agree.not_beginsPipeline (h : c.Agree) (hWorker : c.worker ≠ .absent) :
    beginsPipeline (c, action) = false := by
  cases action with
  | control ans =>
      cases hCall : c.call with
      | busy request callPc =>
          cases callPc with
          | build pc => exact absurd (h.build_absent hCall) hWorker
          | _ => simp [beginsPipeline, hCall]
      | _ => simp [beginsPipeline, hCall]
  | _ => rfl

/-- The controlling thread leaves the counters of a running record thread alone. -/
theorem Agree.control_counts (h : c.Agree) (hThread : c.worker = .record pc l) {callPc : CallPc}
    (hBusy : c.call = .busy request callPc) {ans : Answer} (hSteps : Steps env ans c request callPc c') :
    c'.world.counter = c.world.counter ∧ c'.world.time = c.world.time ∧
      (c'.world.Recordable → c.world.Recordable) := by
  obtain ⟨hBuild, hRelease, hClear⟩ := h.worker_call (by simp [hThread]) hBusy
  have hMove := hSteps.move
  generalize c'.world = w' at hMove ⊢
  generalize c'.worker = t' at hMove
  cases hMove with
  | release => exact absurd rfl hRelease
  | clearStatus => exact absurd rfl hClear
  | takeError | createQueue | setPaused | startWorker => exact absurd rfl (hBuild _)
  | setIdle | storeState | stopCapturing => exact ⟨rfl, rfl, by rintro (hLive | hLive) <;> cases hLive⟩
  | startRecording paused => exact ⟨rfl, rfl, fun _ => Or.inl paused⟩
  | stopRecording recording => exact ⟨rfl, rfl, fun _ => Or.inr recording⟩
  | _ => exact ⟨rfl, rfl, id⟩

/-- So do all the other threads. -/
theorem Agree.beside_counts (h : c.Agree) (hThread : c.worker = .record pc l)
    (hStep : c.step env action = some c') (hOther : ∀ ans, action ≠ .worker ans) :
    c'.world.counter = c.world.counter ∧ c'.world.time = c.world.time ∧
      (c'.world.Recordable → c.world.Recordable) := by
  cases step_move hStep with
  | control busy step => exact h.control_counts hThread busy (callStep_steps step)
  | capture | record => exact absurd rfl (hOther _)
  | callback thread move =>
      cases move with
      | _ => exact ⟨rfl, rfl, id⟩
  | begin | deliver | tick | setOptions | takeError => exact ⟨rfl, rfl, id⟩

/-- A Build call that has begun its pipeline begins it now, or has done so. -/
theorem building_from (hStep : c.step env action = some c') {buildPc : BuildPc}
    (hBusy : c'.call = .busy request (.build buildPc)) (hPc : buildPc ≠ .takeError) :
    beginsPipeline (c, action) = true ∨
      ∃ r before, c.call = .busy r (.build before) ∧ before ≠ .takeError := by
  cases step_move hStep with
  | begin => exact absurd (Call.busy.inj hBusy).2 entry_ne_build
  | @control ans r callPc _ busy step =>
      rcases callStep_build step hBusy with rfl | ⟨before, rfl⟩
      · exact absurd (callStep_destroy_build step hBusy) hPc
      · by_cases hFirst : before = .takeError
        · subst hFirst
          exact Or.inl (by simp [beginsPipeline, busy])
        · exact Or.inr ⟨r, before, busy, hFirst⟩
  | capture | record | deliver | callback | tick | setOptions | takeError =>
      exact Or.inr ⟨request, buildPc, hBusy, hPc⟩

/-- No attempt to finish is made inside a Build call. -/
theorem Agree.build_countsAgain (h : c.Agree) {buildPc : BuildPc} (hBusy : c.call = .busy request (.build buildPc)) :
    countsAgain (c, action) = [] := by
  apply countsAgain_eq_nil
  intro _ l _ hThread
  rw [h.build_absent hBusy] at hThread
  cases hThread

theorem begins_countsAgain (h : beginsPipeline (c, action) = true) : countsAgain (c, action) = [] := by
  cases action with
  | control ans => rfl
  | _ => cases h

/-- A step beside or of a record thread. -/
theorem Playback.counts_step (hPlayback : c.Playback) (h : c.Tally again)
    (hStep : c.step env action = some c') (hThread : c.worker = .record pc l) {pc' : RecordPc}
    {l' : RecordLocals} (hThread' : c'.worker = .record pc' l') (hLive : c'.world.Recordable) :
    c'.world.CountPhase (again ++ countsAgain (c, action)) pc' := by
  rcases hPlayback.agree.record_cases hThread hStep with
    ⟨ans, w', t, rfl, move, rfl⟩ | ⟨hWorker, hBeside, hOther⟩
  · cases t with
    | none => cases hThread'
    | some next =>
        cases hThread'
        have hPhase := hPlayback.phase _ _ hThread
        have hBefore : c.world.Recordable := by
          rcases move.state with hSame | ⟨hRecording, -⟩
          · exact hLive.imp hSame.symm.trans hSame.symm.trans
          · exact Or.inr hRecording
        have hCounts := h.counts _ _ hThread hBefore
        by_cases hFails : pc = .exchange ∧ c.world.state ≠ .recording
        · obtain ⟨rfl, hNot⟩ := hFails
          have hAgain : countsAgain (c, .worker ans) = l.inHand c.world := by
            simp [countsAgain, hThread, hNot]
          rw [hAgain]
          cases move with
          | enterFinished recording => exact absurd recording hNot
          | exchangeFails => exact hCounts.fail hPhase
        · have hNone : countsAgain (c, .worker ans) = [] := by
            cases pc with
            | exchange =>
                have hRecording : c.world.state = .recording := not_not.mp fun hNot => hFails ⟨rfl, hNot⟩
                simp [countsAgain, hThread, hRecording]
            | _ => simp [countsAgain, hThread]
          rw [hNone, List.append_nil]
          exact move.counts hPhase hLive hFails hCounts
  · rw [hWorker] at hThread'
    cases hThread'
    rw [countsAgain_eq_nil fun ans _ hAction => absurd hAction (hOther ans), List.append_nil]
    obtain ⟨hCounter, hTime, hBefore⟩ := hPlayback.agree.beside_counts hThread hStep hOther
    exact (h.counts _ _ hThread (hBefore hLive)).same hCounter hTime hBeside.taken

theorem Playback.tally_step (hPlayback : c.Playback) (h : c.Tally again)
    (hStep : c.step env action = some c') :
    c'.Tally ((if beginsPipeline (c, action) then [] else again) ++ countsAgain (c, action)) where
  counts := by
    intro pc' l' hThread' hLive
    rcases record_from hStep hThread' with ⟨pc, l, hThread⟩ | ⟨-, rfl, rfl, request, hBusy⟩
    · rw [hPlayback.agree.not_beginsPipeline (by simp [hThread]), if_neg Bool.false_ne_true]
      exact hPlayback.counts_step h hStep hThread hThread' hLive
    · rw [hPlayback.agree.build_countsAgain hBusy, h.building _ _ hBusy (by simp), ite_self]
      rfl
  building := by
    intro request buildPc hBusy hPc
    rcases building_from hStep hBusy hPc with hBegins | ⟨r, before, hNow, hLater⟩
    · rw [if_pos hBegins, List.nil_append]
      exact begins_countsAgain hBegins
    · rw [hPlayback.agree.build_countsAgain hNow, h.building r before hNow hLater, ite_self]
      rfl

theorem tally_run (run : Runs (Config.step env) {} log c) :
    c.Playback ∧ c.Tally (countedAgain log) :=
  run.invariant_given countsAgain beginsPipeline (fun again c => c.Playback ∧ c.Tally again)
    ⟨playback_initial, tally_initial⟩
    fun _ _ _ _ h hStep => ⟨h.1.step hStep, h.1.tally_step h.2 hStep⟩

/-- When recording finishes with the end of the files, the counters show each
frame counted once exactly if they have room for that and no frame has been
counted again in this pipeline, or so many that their counts have wrapped
around to where they were. -/
theorem record_counts_once_iff (run : Runs (Config.step env) {} log c)
    (hStep : c.step env action = some c') (hEnters : EntersEndOfFiles env (c, action)) :
    (c'.world.counter.toInt = c'.world.history.accepted.length ∧
      c'.world.time.toInt = totalDuration c'.world.history.accepted) ↔
    (c'.world.history.accepted.length < 2 ^ 31 ∧ -2 ^ 63 ≤ totalDuration c'.world.history.accepted ∧
      totalDuration c'.world.history.accepted < 2 ^ 63) ∧
      2 ^ 32 ∣ (countedAgain log).length ∧ 2 ^ 64 ∣ totalDuration (countedAgain log) := by
  obtain ⟨hPlayback, hTally⟩ := tally_run run
  obtain ⟨l, hThread⟩ := (threadFacts_run run).enters_exchange hEnters
  obtain ⟨⟨queue, hQueue, -, hEmpty⟩, -⟩ := hPlayback.phase _ _ hThread
  have hTaken : c.world.history.accepted = c.world.history.taken := by
    have hNone : queue.contents = [] := List.length_eq_zero_iff.mp (by simpa using hEmpty)
    rw [hPlayback.accounted.waiting queue hQueue, hNone, List.append_nil]
  obtain ⟨next, hNext, hNot, hFinished, -⟩ := hEnters
  obtain rfl := Option.some.inj (hNext.symm.trans hStep)
  cases step_move hStep with
  | control busy step =>
      rcases (callStep_steps step).move.state with hSame | hOther
      · exact absurd (hSame.symm.trans hFinished) hNot
      · exact absurd hFinished hOther
  | capture thread =>
      rw [hThread] at thread
      cases thread
  | record thread move =>
      obtain ⟨rfl, rfl⟩ := Worker.record.inj (hThread.symm.trans thread)
      cases move with
      | exchangeFails => exact absurd hFinished hNot
      | enterFinished recording =>
          have hCounts : c.world.Counts _ c.world.history.taken :=
            hTally.counts _ _ hThread (Or.inr recording)
          rw [← hTaken] at hCounts
          exact hCounts.once_iff
  | callback thread move => exact absurd (move.keeps.state.symm.trans hFinished) hNot
  | begin | deliver | tick | setOptions | takeError => exact absurd hFinished hNot

/-- Two frames, with a pause after the first has been counted. -/
theorem record_counts_once_two :
    ∃ log c c', Runs (Config.step .plain) {} log c ∧ c.step .plain (.worker {}) = some c' ∧
      c'.world.state = .finished ∧ c'.world.history.accepted.map Frame.duration = [1, 2] ∧
      c'.world.counter.toInt = c'.world.history.accepted.length ∧
      c'.world.time.toInt = totalDuration c'.world.history.accepted := by
  obtain ⟨log, c, run, hTest⟩ := exec_witness (Config.step .plain) {}
    (perform .buildRecording 17 ++ receive 1 ++ receive 2 ++ [.deliver .endOfStream, .callback] ++
      perform .startRecording 3 ++ work 12 ++ perform .stopRecording 2 ++ work 5 ++
      perform .startRecording 3 ++ work 9)
    (fun log c => (log.all fun entry => countsAgain entry == []) && c.world.state == .recording &&
      (c.step .plain (.worker {})).any fun c' => c'.world.state == .finished &&
        c'.world.history.enteredBy == some .endOfFiles &&
        c'.world.history.accepted.map Frame.duration == [1, 2] &&
        totalDuration c'.world.history.accepted == 3) (by decide +kernel)
  simp only [Bool.and_eq_true, beq_iff_eq, List.all_eq_true, Option.any_eq_true] at hTest
  obtain ⟨⟨hNever, hRecording⟩, c', hStep, ⟨⟨hFinished, hEntered⟩, hFrames⟩, hTotal⟩ := hTest
  have hEnters : EntersEndOfFiles .plain (c, .worker {}) :=
    ⟨c', hStep, by simp [hRecording], hFinished, hEntered⟩
  have hTwo : c'.world.history.accepted.length = 2 := by simpa using congrArg List.length hFrames
  have hNone : countedAgain log = [] := givenSince_eq_nil hNever
  obtain ⟨hCounter, hTime⟩ := (record_counts_once_iff run hStep hEnters).mpr (by
    rw [hTwo, hTotal, hNone]
    decide)
  exact ⟨log, c, c', run, hStep, hFinished, hFrames, hCounter, hTime⟩

/-- One frame. Recording is paused while the record thread waits for another;
then the files end, and recording goes on. -/
theorem record_counts_last_twice :
    ¬ ∀ log c action c', Runs (Config.step .plain) {} log c → c.step .plain action = some c' →
      EntersEndOfFiles .plain (c, action) →
        c'.world.counter.toInt = c'.world.history.accepted.length ∧
          c'.world.time.toInt = totalDuration c'.world.history.accepted := by
  intro hOnce
  obtain ⟨log, c, run, hTest⟩ := exec_witness (Config.step .plain) {}
    (perform .buildRecording 17 ++ receive 1 ++ perform .startRecording 3 ++ work 11 ++
      perform .stopRecording 2 ++ [.deliver .endOfStream, .callback] ++ work 4 ++
      perform .startRecording 3 ++ work 9)
    (fun _ c => c.world.state == .recording && (c.step .plain (.worker {})).any fun c' =>
      c'.world.state == .finished && c'.world.history.enteredBy == some .endOfFiles &&
        c'.world.history.accepted.length == 1 && c'.world.counter == 2) (by decide +kernel)
  simp only [Bool.and_eq_true, beq_iff_eq, Option.any_eq_true] at hTest
  obtain ⟨hRecording, c', hStep, ⟨⟨hFinished, hEntered⟩, hLength⟩, hCounter⟩ := hTest
  have hSame := (hOnce log c _ c' run hStep ⟨c', hStep, by simp [hRecording], hFinished, hEntered⟩).1
  rw [hCounter, hLength] at hSame
  cases hSame

end Config

end WinDV
