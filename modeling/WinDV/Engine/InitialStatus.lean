import WinDV.Engine.Alive
import WinDV.Library.Wrapping

/-! What the front end can read once `Destroy` has returned, against what it
reads of a new engine. `Destroy` resets most of the status itself and leaves
the rest to the worker, which resets it on its way out or while it is paused. -/
namespace WinDV

open Transition

/-- What the getters return, with the length requested of a capture. -/
structure Status where
  state : EngineState
  dropped : Int32
  queueLoad : Nat
  counter : Int32
  fileFrameCount : Int32
  time : Int64
  dvTime : Int
  framesReceived : Int32
  stopReason : StopReason
  captureTime : Int64
  deriving DecidableEq, Repr

namespace World

/-- `GetQueueLoad`. -/
def queueLoad (w : World) : Nat := (w.queue.map FrameQueue.load).getD 0

def status (w : World) : Status where
  state := w.state
  dropped := w.dropped
  queueLoad := w.queueLoad
  counter := w.counter
  fileFrameCount := w.fileFrameCount
  time := w.time
  dvTime := w.dvTime
  framesReceived := w.framesReceived
  stopReason := w.stopReason
  captureTime := w.captureTime

end World

namespace Config

/-- The status of a new engine, with nothing left of a pipeline. -/
structure AsNew (c : Config) : Prop where
  status : c.world.status = World.status {}
  pipeline : c.pipeline = {}
  queue : c.world.queue = none
  aviWriter : c.world.aviWriter = none
  worker : c.worker = .absent

/-- The capture loop opens a file and sets its frame count to 0. -/
def OpensFile (entry : Config × Action) : Prop :=
  ∃ ans l, entry.2 = .worker ans ∧ entry.1.worker = .capture .openWriter l ∧ ans.failure = none

/-- The capture loop handles a frame while it is paused, and resets the counts. -/
def ResetsCounts (entry : Config × Action) : Prop :=
  entry.2.isWorker = true ∧ ∃ l, entry.1.worker = .capture .resetCounts l

end Config

/-- The steps of the loop from the file that is finished to the counts that are reset. -/
def CapturePc.fileClosed : CapturePc → Bool
  | .rereadDropped | .readFinished | .resetCounts => true
  | _ => false

namespace World

/-- The file frame count counts from the opening of a file to the next reset. -/
structure FileCounted (w : World) (opened : Prop) : Prop where
  counting : opened → 0 ≤ w.fileFrameCount
  uncounted : ¬ opened → w.fileFrameCount = -1
  writer : w.aviWriter ≠ none → opened

variable {w w' : World} {opened opened' : Prop}

theorem FileCounted.same (h : w.FileCounted opened) (hOpened : opened' ↔ opened)
    (hCount : w'.fileFrameCount = w.fileFrameCount := by rfl)
    (hWriter : w'.aviWriter = none ∨ w'.aviWriter = w.aviWriter := by exact Or.inr rfl) :
    w'.FileCounted opened' := by
  rw [propext hOpened]
  refine ⟨?_, ?_, fun hOpen => ?_⟩
  · rw [hCount]
    exact h.counting
  · rw [hCount]
    exact h.uncounted
  · rcases hWriter with hNone | hSame
    · exact absurd hNone hOpen
    · rw [hSame] at hOpen
      exact h.writer hOpen

theorem FileCounted.finish (env : Environment) (ans : Answer) (h : w.FileCounted opened)
    (hOpened : opened' ↔ opened) : (w.finishWriter env ans).1.FileCounted opened' := by
  obtain ⟨files, hFinish⟩ := w.finishWriter_fst env ans
  rw [hFinish]
  exact h.same hOpened rfl (Or.inl rfl)

end World

section Thread

variable {env : Environment} {ans : Answer} {clock : Nat} {w w' : World} {l : CaptureLocals}
  {pc : CapturePc} {t : CaptureThread} {opened : Prop}

/-- A file takes a frame only while it has fewer than `m_maxAVIFrames`. -/
theorem CaptureMove.roomToCount {l' : CaptureLocals}
    (h : CaptureMove env ans clock w l pc w' (some (.writeFrame, l'))) :
    w'.fileFrameCount.toInt + 1 < 2 ^ 31 := by
  generalize hThread : some (CapturePc.writeFrame, l') = t at h
  cases h with
  | sameFile isOpen same =>
      have hNotFull := (Bool.or_eq_false_iff.mp same).1
      have hLess := Int32.lt_iff_toInt_lt.mp (Int32.not_le.mp (of_decide_eq_false hNotFull))
      have hMost := w.options.maxAVIFrames.toInt_lt
      omega
  | openWriter =>
      show (0 : Int32).toInt + 1 < 2 ^ 31
      decide
  | finishes goesOn =>
      cases hThread
      cases pc <;> cases goesOn
  | readState | newFile =>
      unfold CaptureLocals.afterState at hThread
      split_ifs at hThread <;> cases hThread
  | @enterFinished reason resume | @rollback resume => cases resume <;> cases hThread
  | _ => cases hThread

theorem finishNext_ne {next : CapturePc} (goesOn : pc.finishNext = some next) :
    pc ≠ .openWriter ∧ pc ≠ .resetCounts := by
  constructor
  · rintro rfl
    cases goesOn
  · rintro rfl
    cases goesOn

/-- A step of the capture thread. -/
theorem CaptureMove.fileCounted (h : CaptureMove env ans clock w l pc w' t)
    (hCounted : w.FileCounted opened) (hClosed : pc.fileClosed = true → w.aviWriter = none)
    (hRoom : pc = .writeFrame → w.fileFrameCount.toInt + 1 < 2 ^ 31) :
    w'.FileCounted (pc = .openWriter ∧ ans.failure = none ∨ opened ∧ pc ≠ .resetCounts) := by
  cases h with
  | throws mayThrow failure =>
      apply hCounted.same
      have hNot : pc ≠ .resetCounts := by
        rintro rfl
        cases mayThrow
      simp [failure, hNot]
  | finishThrows finishes =>
      apply hCounted.finish
      rcases finishes with finishes | rfl
      · obtain ⟨next, hNext⟩ := Option.isSome_iff_exists.mp finishes
        simp [finishNext_ne hNext]
      · simp
  | finishes goesOn =>
      apply hCounted.finish
      simp [finishNext_ne goesOn]
  | split | releaseWriter =>
      apply hCounted.finish
      simp
  | frameSeen =>
      obtain ⟨shown, hShown⟩ := w.timeChange_eq (recordingTime env _ = l.dvTime) _
      rw [hShown]
      apply hCounted.same
      simp
  | openWriter success =>
      exact ⟨fun _ => Int32.le_refl 0, fun hNot => absurd (Or.inl ⟨rfl, success⟩) hNot,
        fun _ => Or.inl ⟨rfl, success⟩⟩
  | writeFrame isOpen =>
      have hOpened : opened := hCounted.writer (by simp [isOpen])
      have hCount := hCounted.counting hOpened
      refine ⟨fun _ => ?_, fun hNot => absurd (Or.inr ⟨hOpened, by simp⟩) hNot,
        fun _ => Or.inr ⟨hOpened, by simp⟩⟩
      show 0 ≤ w.fileFrameCount + 1
      rw [Int32.le_iff_toInt_le, Int32.toInt_zero] at hCount ⊢
      rw [Wrapping.toInt_succ (hRoom rfl)]
      omega
  | passFrame isOpen =>
      have hOpened : opened := hCounted.writer (by simp [isOpen])
      exact ⟨fun _ => hCounted.counting hOpened, fun hNot => absurd (Or.inr ⟨hOpened, by simp⟩) hNot,
        fun _ => Or.inr ⟨hOpened, by simp⟩⟩
  | resetCounts =>
      refine ⟨by simp, fun _ => rfl, fun hOpen => ?_⟩
      exact absurd (hClosed rfl) hOpen
  | _ =>
      apply hCounted.same
      simp

/-- The file that was finished is not opened again before the counts are reset. -/
theorem CaptureMove.fileClosed {l' : CaptureLocals} {pc' : CapturePc}
    (h : CaptureMove env ans clock w l pc w' (some (pc', l')))
    (hClosed : pc.fileClosed = true → w.aviWriter = none) (hPc : pc'.fileClosed = true) :
    w'.aviWriter = none := by
  cases h with
  | finishes => exact w.finishWriter_aviWriter env ans
  | rereadDropped | dropCounts => exact hClosed rfl
  | readState | newFile =>
      unfold CaptureLocals.afterState at hPc
      split_ifs at hPc <;> cases hPc
  | @enterFinished reason resume => cases resume <;> cases hPc
  | @rollback resume => cases resume <;> cases hPc
  | _ => cases hPc

/-- What a step of the controlling thread does to the status the worker keeps. -/
theorem CallMove.statusKept {worker worker' : Worker} {request : Request} {callPc : CallPc}
    (h : CallMove env ans w worker request callPc w' worker') (hCounted : w.FileCounted opened) :
    w'.FileCounted opened ∧ w'.dvTime = w.dvTime := by
  cases h with
  | release =>
      have hFinished : (w.finishWriter env ans).1.FileCounted opened := hCounted.finish env ans Iff.rfl
      obtain ⟨files, hFinish⟩ := w.finishWriter_fst env ans
      rw [World.release, World.resetWriter]
      exact ⟨hFinished.same Iff.rfl, by rw [hFinish]⟩
  | _ => exact ⟨hCounted.same Iff.rfl, rfl⟩

theorem RecordMove.statusKept {l : RecordLocals} {pc : RecordPc} {t : RecordThread}
    (h : RecordMove env ans clock w l pc w' t) :
    w'.fileFrameCount = w.fileFrameCount ∧ w'.aviWriter = w.aviWriter ∧ (t = none → w'.dvTime = 0) := by
  cases h with
  | frameSeen =>
      obtain ⟨shown, hShown⟩ := w.timeChange_eq (recordingTime env _ = l.dvTime) _
      rw [hShown]
      exact ⟨rfl, rfl, by simp⟩
  | notifyStopped => exact ⟨rfl, rfl, fun _ => rfl⟩
  | _ => exact ⟨rfl, rfl, by simp⟩

theorem CaptureMove.dvTime_returned (h : CaptureMove env ans clock w l pc w' none) : w'.dvTime = 0 := by
  cases h
  rfl

theorem CallbackMove.statusKept {callback : Callback} {next : Option Callback}
    (h : CallbackMove w callback w' next) :
    w'.fileFrameCount = w.fileFrameCount ∧ w'.aviWriter = w.aviWriter ∧ w'.dvTime = w.dvTime := by
  cases h with
  | _ => exact ⟨rfl, rfl, rfl⟩

end Thread

namespace Config

variable {env : Environment} {c c' : Config} {action : Action} {log : List (Config × Action)}
  {request : Request} {opened : Prop}

/-- What the status after `Destroy` rests on, from a file opened and not
followed by a reset of the counts on. -/
structure StatusKept (opened : Prop) (c : Config) : Prop where
  agree : c.Agree
  counted : c.world.FileCounted opened
  closed : ∀ pc l, c.worker = .capture pc l → pc.fileClosed = true → c.world.aviWriter = none
  dvTime : c.worker = .absent ∨ c.worker = .returned → c.world.dvTime = 0
  released : ∀ request, c.call = .busy request (.destroy .clearStatus) → c.world.aviWriter = none

theorem statusKept_initial : ({} : Config).StatusKept False where
  agree := agree_initial
  counted := ⟨False.elim, fun _ => rfl, fun hOpen => absurd rfl hOpen⟩
  closed := fun _ _ hThread => by cases hThread
  dvTime := fun _ => rfl
  released := fun _ hBusy => by cases hBusy

theorem not_opensFile (h : action.isWorker = false) : ¬ OpensFile (c, action) := by
  rintro ⟨ans, l, hWorker, -⟩
  have hAction : action = .worker ans := hWorker
  rw [hAction] at h
  cases h

theorem not_resetsCounts (h : action.isWorker = false) : ¬ ResetsCounts (c, action) := by
  rintro ⟨hWorker, -⟩
  rw [h] at hWorker
  cases hWorker

/-- Only the worker opens files and resets the counts. -/
theorem opened_iff (h : action.isWorker = false) :
    (OpensFile (c, action) ∨ opened ∧ ¬ ResetsCounts (c, action)) ↔ opened := by
  simp [not_opensFile h, not_resetsCounts h]

theorem opensFile_iff {ans : Answer} {pc : CapturePc} {l : CaptureLocals} (hThread : c.worker = .capture pc l) :
    OpensFile (c, .worker ans) ↔ pc = .openWriter ∧ ans.failure = none := by
  simp [OpensFile, hThread]

theorem resetsCounts_iff {ans : Answer} {pc : CapturePc} {l : CaptureLocals}
    (hThread : c.worker = .capture pc l) : ResetsCounts (c, .worker ans) ↔ pc = .resetCounts := by
  simp [ResetsCounts, Action.isWorker, hThread]

/-- The status is cleared once everything has been released. -/
theorem callStep_clearStatus {ans : Answer} {callPc : CallPc} {next : Request}
    (h : callStep env ans c request callPc = .next c')
    (hCall : c'.call = .busy next (.destroy .clearStatus)) : callPc = .destroy .release := by
  rcases callStep_phase h hCall with hSame | ⟨-, hBuild⟩
  · cases callPc with
    | destroy pc =>
        cases pc with
        | release => rfl
        | _ =>
            simp only [callStep, destroyStep] at h
            repeat' split at h
            all_goals
              cases h
              try cases hCall
    | _ => cases hSame
  · cases hBuild

theorem entry_ne_clearStatus : request.entry ≠ .destroy .clearStatus := by
  cases request <;> simp [Request.entry]

/-- A step of the controlling thread. -/
theorem StatusKept.control {ans : Answer} {callPc : CallPc} (h : c.StatusKept opened)
    (hAgree : c'.Agree) (hBusy : c.call = .busy request callPc)
    (hStep : callStep env ans c request callPc = .next c') : c'.StatusKept opened := by
  have hMove := (callStep_steps hStep).move
  obtain ⟨hCounted, hTime⟩ := hMove.statusKept h.counted
  have hWriter := hMove.aviWriter
  refine ⟨hAgree, hCounted, ?_, ?_, ?_⟩
  · intro pc l hThread hPc
    rw [hThread] at hMove
    generalize hWorker : Worker.capture pc l = worker' at hMove
    generalize c'.world = w' at hMove hWriter ⊢
    cases hMove with
    | startWorker =>
        unfold Request.thread at hWorker
        split_ifs at hWorker
        cases hWorker
        cases hPc
    | join => cases hWorker
    | _ => exact hWriter (h.closed pc l hWorker.symm hPc)
  · intro hGone
    rw [hTime]
    apply h.dvTime
    generalize c'.world = w' at hMove
    generalize c'.worker = worker' at hMove hGone
    cases hMove with
    | startWorker =>
        unfold Request.thread at hGone
        split_ifs at hGone
        · simp at hGone
        · simp at hGone
    | join returned => exact Or.inr returned
    | _ => exact hGone
  · intro next hCall
    obtain rfl := callStep_clearStatus hStep hCall
    obtain rfl := Outcome.next.inj hStep
    exact c.world.finishWriter_aviWriter env ans

/-- The frame count of the open file does not wrap around. -/
def RoomToCount (c : Config) : Prop :=
  ∀ l, c.worker = .capture .writeFrame l → c.world.fileFrameCount.toInt + 1 < 2 ^ 31

theorem RoomToCount.step (h : c.RoomToCount) (hAgree : c.Agree) (hStep : c.step env action = some c') :
    c'.RoomToCount := by
  intro l hThread
  rcases hAgree.capture_from hStep hThread with ⟨pc, l', hThread'⟩ | ⟨-, -, hPc, -⟩
  · rcases hAgree.capture_cases hThread' hStep with ⟨ans, w', t, rfl, move, rfl⟩ | ⟨hSame, hBeside, -⟩
    · cases t with
      | none => cases hThread
      | some next =>
          obtain ⟨next, held⟩ := next
          cases hThread
          exact move.roomToCount
    · rw [hThread] at hSame
      cases hSame
      rw [hBeside.keeps.2.2.2]
      exact h l hThread'
  · cases hPc

theorem StatusKept.step (h : c.StatusKept opened) (hRoom : c.RoomToCount)
    (hStep : c.step env action = some c') :
    c'.StatusKept (OpensFile (c, action) ∨ opened ∧ ¬ ResetsCounts (c, action)) := by
  have hAgree := h.agree.step hStep
  cases step_move hStep with
  | begin =>
      rw [propext (opened_iff rfl)]
      exact ⟨hAgree, h.counted, h.closed, h.dvTime, fun _ hCall =>
        absurd (Call.busy.inj hCall).2 entry_ne_clearStatus⟩
  | control busy step =>
      rw [propext (opened_iff rfl)]
      exact h.control hAgree busy step
  | @capture ans pc l w' t thread move =>
      rw [propext (opensFile_iff thread), propext (not_congr (resetsCounts_iff thread))]
      have hCounted := move.fileCounted h.counted (h.closed pc l thread) fun hPc => hRoom l (hPc ▸ thread)
      refine ⟨hAgree, hCounted, ?_, ?_, ?_⟩
      · intro pc' l' hThread hPc
        cases t with
        | none => cases hThread
        | some next =>
            cases hThread
            exact move.fileClosed (h.closed pc l thread) hPc
      · cases t with
        | none => exact fun _ => move.dvTime_returned
        | some next => exact fun hGone => by rcases hGone with hGone | hGone <;> cases hGone
      · intro request hCall
        exact absurd rfl (h.agree.worker_call (by simp [thread]) hCall).2.2
  | @record ans pc l w' t thread move =>
      have hNone : (OpensFile (c, .worker ans) ∨ opened ∧ ¬ ResetsCounts (c, .worker ans)) ↔ opened := by
        simp [OpensFile, ResetsCounts, thread]
      obtain ⟨hCount, hWriter, hTime⟩ := move.statusKept
      refine ⟨hAgree, h.counted.same hNone hCount (Or.inr hWriter), ?_, ?_, ?_⟩
      · cases t <;> exact fun _ _ hThread => by cases hThread
      · cases t with
        | none => exact fun _ => hTime rfl
        | some next => exact fun hGone => by rcases hGone with hGone | hGone <;> cases hGone
      · intro request hCall
        exact absurd rfl (h.agree.worker_call (by simp [thread]) hCall).2.2
  | callback thread move =>
      obtain ⟨hCount, hWriter, hTime⟩ := move.statusKept
      refine ⟨hAgree, h.counted.same (opened_iff rfl) hCount (Or.inr hWriter), ?_, ?_, ?_⟩
      · exact fun pc l hThread hPc => hWriter.trans (h.closed pc l hThread hPc)
      · exact fun hGone => hTime.trans (h.dvTime hGone)
      · exact fun request hCall => hWriter.trans (h.released request hCall)
  | deliver | tick | setOptions | takeError =>
      rw [propext (opened_iff rfl)]
      exact ⟨hAgree, h.counted.same Iff.rfl, h.closed, h.dvTime, h.released⟩

theorem statusKept_run (run : Runs (Config.step env) {} log c) :
    c.StatusKept (Since OpensFile ResetsCounts log) := by
  have hKept := run.invariant_since OpensFile ResetsCounts
    (fun opened c => c.StatusKept opened ∧ c.RoomToCount) ⟨statusKept_initial, fun _ hNone => by cases hNone⟩
    fun _ _ _ _ h hStep => ⟨h.1.step h.2 hStep, h.2.step h.1.agree hStep⟩
  exact hKept.1

/-- When `Destroy` returns, to its caller or in a Build call, the engine is as
new exactly if the counts have been reset since the last file was opened. -/
theorem destroy_restores_status_iff {ans : Answer} (run : Runs (Config.step env) {} log c)
    (hCall : c.call = .busy request (.destroy .clearStatus))
    (hStep : c.step env (.control ans) = some c') :
    c'.AsNew ↔ ¬ Since OpensFile ResetsCounts log := by
  have hKept := statusKept_run run
  have hAt := hKept.agree.call
  rw [hCall] at hAt
  obtain ⟨hStopped, hPipeline, hNoQueue⟩ := hAt
  have hState : c.world.state = .idle := hStopped.state
  have hQueue : c.world.queue = none := Option.not_isSome_iff_eq_none.mp (Bool.eq_false_iff.mp hNoQueue)
  have hWorker : c.worker = .absent := isAbsent_iff.mp hStopped.noWorker
  have hTime := hKept.dvTime (Or.inl hWorker)
  have hKind : c'.world = c.world.clearStatus ∧ c'.pipeline = c.pipeline ∧ c'.worker = c.worker := by
    rw [step_iff] at hStep
    simp only [outcome, hCall] at hStep
    obtain rfl := Outcome.next.inj hStep
    split_ifs <;> exact ⟨rfl, rfl, rfl⟩
  obtain ⟨hWorld, hSame, hThread⟩ := hKind
  constructor
  · rintro hNew hOpened
    have hCount := hKept.counted.counting hOpened
    have hNone : c'.world.fileFrameCount = -1 := congrArg Status.fileFrameCount hNew.status
    rw [hWorld] at hNone
    have hNone' : c.world.fileFrameCount = -1 := hNone
    rw [hNone'] at hCount
    exact absurd hCount (by decide)
  · intro hNot
    have hCount := hKept.counted.uncounted hNot
    refine ⟨?_, hSame.trans hPipeline, ?_, ?_, hThread.trans hWorker⟩
    · rw [hWorld]
      simp [World.status, World.clearStatus, World.queueLoad, hState, hQueue, hCount, hTime]
    · rw [hWorld]
      exact hQueue
    · rw [hWorld]
      exact hKept.released request hCall

/-- The capture thread is about to open a file. -/
def atOpenWriter (c : Config) : Bool :=
  match c.worker with
  | .capture .openWriter _ => true
  | _ => false

/-- The calls up to the last step of `Destroy`, and the worker on its way out. -/
def destroyed : List Action := perform .destroy 4 ++ work 4 ++ [.control {}, .control {}]

/-- The preview of one frame. -/
theorem destroy_restores_status_preview :
    ∃ log c c', Runs (Config.step .plain) {} log c ∧ c.step .plain (.control {}) = some c' ∧
      c.world.framesReceived = 1 ∧ c'.AsNew := by
  obtain ⟨log, c, run, hTest⟩ := exec_witness (Config.step .plain) {}
    (readyToCapture ++ receive 400 ++ work 12 ++ destroyed)
    (fun log c => (log.all fun entry => !entry.1.atOpenWriter) &&
      c.call == .busy .destroy (.destroy .clearStatus) && c.world.framesReceived == 1 &&
      (c.step .plain (.control {})).isSome) (by decide +kernel)
  simp only [Bool.and_eq_true, beq_iff_eq, List.all_eq_true, Bool.not_eq_true',
    Option.isSome_iff_exists] at hTest
  obtain ⟨⟨⟨hNever, hCall⟩, hReceived⟩, c', hStep⟩ := hTest
  refine ⟨log, c, c', run, hStep, hReceived, (destroy_restores_status_iff run hCall hStep).mpr ?_⟩
  intro hSince
  obtain ⟨entry, hEntry, ans, l, -, hThread, -⟩ := hSince.exists_entry
  have hNot := hNever entry hEntry
  rw [atOpenWriter, hThread] at hNot
  cases hNot

/-- A capture of one frame: `Destroy` leaves its file frame count behind. -/
theorem destroy_leaves_file_count :
    ¬ ∀ log c request ans c', Runs (Config.step .plain) {} log c →
      c.call = .busy request (.destroy .clearStatus) → c.step .plain (.control ans) = some c' →
      c'.AsNew := by
  intro hAsNew
  obtain ⟨log, c, run, hTest⟩ := exec_witness (Config.step .plain) {}
    (readyToCapture ++ perform (.startCapturing ⟨wide "tape", [], 0, 0⟩) 7 ++ receive 400 ++ work 19 ++
      destroyed)
    (fun _ c => c.call == .busy .destroy (.destroy .clearStatus) &&
      (c.step .plain (.control {})).any fun c' => c'.world.fileFrameCount == 1) (by decide +kernel)
  simp only [Bool.and_eq_true, beq_iff_eq, Option.any_eq_true] at hTest
  obtain ⟨hCall, c', hStep, hCount⟩ := hTest
  have hNone : c'.world.fileFrameCount = -1 :=
    congrArg Status.fileFrameCount (hAsNew log c _ _ c' run hCall hStep).status
  rw [hCount] at hNone
  cases hNone

end Config

end WinDV
