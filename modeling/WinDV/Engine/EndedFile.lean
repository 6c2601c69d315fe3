import WinDV.Engine.Alive

/-! Whether an ended capture's file is closed. An iteration of the capture loop
that finds the engine not capturing closes the file, unless it got no frame. -/
namespace WinDV

open Transition

/-- The pc's inside an iteration of the capture loop. -/
def CapturePc.inBody : CapturePc → Bool
  | .getMediaType | .readDropped | .clearCounter | .clearTime | .loopHead | .afterLoop | .report _
  | .releaseWriter | .notifyStopped => false
  | _ => true

namespace Config

/-- The capture thread is about to test `m_state` for the next iteration. -/
def atLoopHead (c : Config) : Bool :=
  match c.worker with
  | .capture .loopHead _ => true
  | _ => false

def inBody (c : Config) : Bool :=
  match c.worker with
  | .capture pc _ => pc.inBody
  | _ => false

theorem atLoopHead_iff {c : Config} : c.atLoopHead = true ↔ ∃ l, c.worker = .capture .loopHead l := by
  unfold atLoopHead
  split <;> simp_all

/-- A complete iteration of the capture loop, with the steps the other threads
take meanwhile. -/
structure Iteration (env : Environment) (c : Config) (log : List (Config × Action))
    (c' : Config) : Prop where
  run : Runs (Config.step env) c log c'
  starts : c.atLoopHead = true
  first : (log.head?.any fun entry => entry.2.isWorker) = true
  body : ∀ entry ∈ log.tail, entry.1.inBody = true
  ends : c'.atLoopHead = true

/-- The step enters Capturing for a Start call. -/
def StartsCapture (c : Config) : Action → Prop
  | .control _ => ∃ request, c.call = .busy request (.start .storeState)
  | _ => False

/-- The step is a `GetFor` that returns a frame. -/
def takesFrame (c : Config) (action : Action) : Bool :=
  action.isWorker && match c.worker with
    | .capture .getFrame _ => c.world.queue.any fun queue => 0 < queue.load
    | _ => false

/-- No file is open, and the one that was has been finished and has its final name. -/
def Closed (env : Environment) (before : Option AVIWriter) (w : World) : Prop :=
  w.aviWriter = none ∧ ∀ writer, before = some writer →
    ∃ ans file, writer.finish env ans = .ok file ∧ file ∈ w.history.files

end Config

open Config

section Iteration

variable {env : Environment} {ans : Answer} {clock : Nat} {w w' : World} {l : CaptureLocals}
  {pc : CapturePc} {t : CaptureThread} {before : Option AVIWriter} {taken : Prop}

/-- A `FinishWriter` that returns has saved the file that was open. -/
theorem World.finishWriter_closed (h : (w.finishWriter env ans).2 = none) :
    Closed env w.aviWriter (w.finishWriter env ans).1 := by
  refine ⟨w.finishWriter_aviWriter env ans, fun writer hWriter => ?_⟩
  unfold World.finishWriter at h ⊢
  cases hFinish : writer.finish env ans with
  | error message => simp [hWriter, hFinish] at h
  | ok file => exact ⟨ans, file, hFinish, by simp [hWriter, hFinish]⟩

variable (env before taken) in
/-- An iteration that does not capture, by pc. `taken` says whether it has got
a frame, `before` is the file that was open when it started. -/
def NotCapturing (w : World) (l : CaptureLocals) : CapturePc → Prop
  | .getFrame => w.aviWriter = before ∧ ¬ taken
  | .readClock | .readState => w.aviWriter = before ∧ (l.frame ≠ none ↔ taken)
  | .noFrame => w.aviWriter = before ∧ ¬ taken ∧ l.capturing = false
  | .frameSeen | .preview | .readDiskState | .readWriteState | .closeFile =>
      w.aviWriter = before ∧ taken
  | .rereadDropped | .readFinished | .resetCounts => Closed env before w ∧ taken
  | .loopHead => Closed env before w ∧ taken ∨ w.aviWriter = before ∧ ¬ taken
  | .afterLoop | .report _ | .releaseWriter | .notifyStopped => True
  | _ => False

theorem NotCapturing.same {pc : CapturePc} (h : NotCapturing env before taken w l pc)
    (hWriter : w'.aviWriter = w.aviWriter) (hFiles : w'.history.files = w.history.files) :
    NotCapturing env before taken w' l pc := by
  cases pc <;> simp_all [NotCapturing, Closed]

/-- Where an iteration that does not capture goes after it has read the state. -/
theorem NotCapturing.afterState {capturing wasCapturing : Bool}
    (h : NotCapturing env before taken w l .readState) (hCapturing : capturing = false) :
    NotCapturing env before taken w
      { l with capturing := capturing, wasCapturing := wasCapturing } l.afterState := by
  unfold CaptureLocals.afterState
  split_ifs with hFrame
  · exact ⟨h.1, fun hTaken => h.2.mpr hTaken hFrame, hCapturing⟩
  · exact ⟨h.1, h.2.mp hFrame⟩

/-- A step of the capture thread inside an iteration that does not capture. -/
theorem CaptureMove.notCapturing {taken' : Prop} (h : CaptureMove env ans clock w l pc w' t)
    (hState : w.state ≠ .capturing) (hBody : pc.inBody = true)
    (hFacts : NotCapturing env before taken w l pc)
    (hTaken : taken' ↔ taken ∨ pc = .getFrame ∧ ∃ queue, w.queue = some queue ∧ 0 < queue.load) :
    ∃ pc' l', t = some (pc', l') ∧ NotCapturing env before taken' w' l' pc' := by
  by_cases hGet : pc = .getFrame
  · subst hGet
    cases h with
    | throws mayThrow => cases mayThrow
    | finishThrows finishes => simp [CapturePc.finishNext] at finishes
    | finishes goesOn => cases goesOn
    | timeOut isSet empty =>
        refine ⟨_, _, rfl, hFacts.1, ?_⟩
        have hNone : ¬ taken' := by
          rw [hTaken]
          rintro (h | ⟨-, queue, hQueue, hLoad⟩)
          · exact hFacts.2 h
          · obtain rfl := Option.some.inj (isSet.symm.trans hQueue)
            exact absurd empty hLoad.ne'
        simp [hNone]
    | takeFrame isSet waiting =>
        refine ⟨_, _, rfl, hFacts.1, ?_⟩
        simp [hTaken.mpr (Or.inr ⟨rfl, _, isSet, waiting⟩)]
  · obtain rfl : taken' = taken := propext (by simp [hTaken, hGet])
    cases h with
    | throws => exact ⟨_, _, rfl, trivial⟩
    | finishThrows => exact ⟨_, _, rfl, trivial⟩
    | finishes goesOn success =>
        cases pc with
        | closeFile =>
            cases goesOn
            refine ⟨_, _, rfl, ?_, hFacts.2⟩
            rw [← hFacts.1]
            exact World.finishWriter_closed success
        | signalLost | diskFull => exact hFacts.elim
        | afterLoop => cases hBody
        | _ => cases goesOn
    | timeOut | takeFrame => exact absurd rfl hGet
    | getMediaType | readDropped | clearCounter | clearTime | leaveLoop | stayInLoop | report
    | releaseWriter | notifyStopped => cases hBody
    | readClock => exact ⟨_, _, rfl, hFacts⟩
    | noticeCapture capturing => exact absurd capturing hState
    | readState => exact ⟨_, _, rfl, hFacts.afterState (by simp [hState])⟩
    | breakLoop => exact ⟨_, _, rfl, trivial⟩
    | noticeLoss isSet isOpen capturing =>
        have hNot : l.capturing = false := hFacts.2.2
        rw [capturing] at hNot
        cases hNot
    | waitOn => exact ⟨_, _, rfl, Or.inr ⟨hFacts.1, hFacts.2.1⟩⟩
    | frameSeen =>
        obtain ⟨shown, hShown⟩ := w.timeChange_eq (recordingTime env _ = l.dvTime) _
        refine ⟨_, _, rfl, ?_⟩
        rw [hShown]
        exact hFacts
    | preview | skipDiskCheck | dontCapture => exact ⟨_, _, rfl, hFacts⟩
    | countToDiskCheck capturing | dueDiskCheck capturing | capture capturing =>
        exact absurd capturing hState
    | rereadDropped => exact ⟨_, _, rfl, hFacts⟩
    | keepCounts => exact ⟨_, _, rfl, Or.inl hFacts⟩
    | dropCounts => exact ⟨_, _, rfl, hFacts⟩
    | resetCounts => exact ⟨_, _, rfl, Or.inl hFacts⟩
    | _ => exact hFacts.elim

end Iteration

namespace Config

variable {env : Environment} {c c' : Config} {before : Option AVIWriter}

/-- The engine does not capture, and the worker is inside an iteration. -/
def MidIteration (env : Environment) (before : Option AVIWriter) (taken : Prop) (c : Config) : Prop :=
  c.Agree ∧ c.world.state ≠ .capturing ∧
    ∃ pc l, c.worker = .capture pc l ∧ NotCapturing env before taken c.world l pc

/-- One step of any thread inside the iteration. -/
theorem MidIteration.step {taken taken' : Prop} {action : Action} (h : c.MidIteration env before taken)
    (hStep : c.step env action = some c') (hBody : c.inBody = true)
    (noStart : ¬ c.StartsCapture action) (hTaken : taken' ↔ taken ∨ c.takesFrame action = true) :
    c'.MidIteration env before taken' := by
  obtain ⟨hAgree, hState, pc, l, hThread, hFacts⟩ := h
  refine ⟨hAgree.step hStep, ?_⟩
  rcases hAgree.capture_cases hThread hStep with ⟨ans, w', t, rfl, move, rfl⟩ | ⟨hWorker, hOther, hAction⟩
  · have hPc : pc.inBody = true := by simpa only [inBody, hThread] using hBody
    have hTakes : c.takesFrame (.worker ans) = true ↔
        pc = .getFrame ∧ ∃ queue, c.world.queue = some queue ∧ 0 < queue.load := by
      simp only [takesFrame, hThread]
      cases pc <;> simp [Action.isWorker, Option.any_eq_true]
    obtain ⟨pc', l', rfl, hFacts'⟩ :=
      move.notCapturing hState hPc hFacts (hTaken.trans (or_congr_right hTakes))
    refine ⟨?_, pc', l', rfl, hFacts'⟩
    rcases move.state with hSame | ⟨hCapturing, _⟩
    · exact fun hNow => hState (hSame.symm.trans hNow)
    · exact absurd hCapturing hState
  · have hNone : ¬ c.takesFrame action = true := by
      cases action with
      | worker ans => exact absurd rfl (hAction ans)
      | _ => simp [takesFrame, Action.isWorker]
    obtain ⟨hWriter, hFiles, -, -⟩ := hOther.keeps
    obtain rfl : taken' = taken := propext (hTaken.trans (or_iff_left hNone))
    refine ⟨fun hNow => ?_, pc, l, hWorker, hFacts.same hWriter hFiles⟩
    rcases hOther.state hNow with hCapturing | ⟨ans, request, rfl, hBusy⟩
    · exact hState hCapturing
    · exact noStart ⟨request, hBusy⟩

/-- All steps of an iteration after its first. -/
theorem MidIteration.run {log : List (Config × Action)} (h : c.MidIteration env before False)
    (run : Runs (Config.step env) c log c') (hBody : ∀ entry ∈ log, entry.1.inBody = true)
    (noStart : ∀ entry ∈ log, ¬ entry.1.StartsCapture entry.2) :
    c'.MidIteration env before (∃ entry ∈ log, entry.1.takesFrame entry.2 = true) := by
  induction run with
  | zero => simpa using h
  | @succ log middle finish action prior last ih =>
      have hMiddle := ih (fun entry hEntry => hBody entry (List.mem_append_left _ hEntry))
        fun entry hEntry => noStart entry (List.mem_append_left _ hEntry)
      have hLast : (middle, action) ∈ log ++ [(middle, action)] := by simp
      apply hMiddle.step last (hBody _ hLast) (noStart _ hLast)
      simp only [List.mem_append, List.mem_singleton, or_and_right, exists_or, exists_eq_left]

/-- The first step of an iteration that does not capture. -/
theorem Agree.iteration_starts {ans : Answer} {l : CaptureLocals} (h : c.Agree)
    (hThread : c.worker = .capture .loopHead l) (hState : c.world.state ≠ .capturing)
    (hStep : c.step env (.worker ans) = some c') : c'.MidIteration env c.world.aviWriter False := by
  refine ⟨h.step hStep, ?_⟩
  rcases h.capture_cases hThread hStep with ⟨_, w', t, hAction, move, rfl⟩ | ⟨-, -, hAction⟩
  · cases hAction
    cases move with
    | throws mayThrow => cases mayThrow
    | finishThrows finishes => simp [CapturePc.finishNext] at finishes
    | finishes goesOn => cases goesOn
    | leaveLoop => exact ⟨hState, _, _, rfl, trivial⟩
    | stayInLoop => exact ⟨hState, _, _, rfl, rfl, not_false⟩
  · exact absurd rfl (hAction ans)

/-- After an iteration that started outside a capture, with no Start in it, the
file that was open is saved exactly if the iteration got a frame, or no file
was open. -/
theorem iteration_closes_file_iff {log : List (Config × Action)}
    (h : Reachable (Config.step env) {} c) (iteration : c.Iteration env log c')
    (notCapturing : c.world.state ≠ .capturing)
    (noStart : ∀ entry ∈ log, ¬ entry.1.StartsCapture entry.2) :
    Closed env c.world.aviWriter c'.world ↔
      c.world.aviWriter = none ∨ ∃ entry ∈ log, entry.1.takesFrame entry.2 = true := by
  have hAgree : c.Agree := h.invariant Agree agree_initial fun s a t hs hStep => hs.step hStep
  obtain ⟨run, hStarts, hFirst, hBody, hEnds⟩ := iteration
  cases log with
  | nil => simp at hFirst
  | cons entry rest =>
      obtain ⟨hEntry, next, hStep, hRest⟩ := run.uncons
      obtain ⟨first, action⟩ := entry
      obtain rfl : first = c := hEntry
      cases action with
      | worker ans =>
          obtain ⟨l, hThread⟩ := atLoopHead_iff.mp hStarts
          obtain ⟨l', hThread'⟩ := atLoopHead_iff.mp hEnds
          have hRestStart : ∀ entry ∈ rest, ¬ entry.1.StartsCapture entry.2 :=
            fun entry hIn => noStart entry (List.mem_cons_of_mem _ hIn)
          obtain ⟨-, -, pc, l, hLast, hFacts⟩ :=
            (hAgree.iteration_starts hThread notCapturing hStep).run hRest hBody hRestStart
          rw [hThread'] at hLast
          cases hLast
          have hTaken : (∃ entry ∈ (first, Action.worker ans) :: rest, entry.1.takesFrame entry.2 = true) ↔
              ∃ entry ∈ rest, entry.1.takesFrame entry.2 = true := by
            simp [takesFrame, hThread]
          rw [hTaken]
          rcases hFacts with ⟨hClosed, hTook⟩ | ⟨hSame, hNone⟩
          · exact iff_of_true hClosed (Or.inr hTook)
          · rw [or_iff_left hNone]
            constructor
            · intro hClosed
              exact hSame.symm.trans hClosed.1
            · intro hBefore
              exact ⟨hSame.trans hBefore, fun writer hWriter => by simp [hBefore] at hWriter⟩
      | _ => simp [Action.isWorker] at hFirst

/-- The iteration test for runs of the worker alone. -/
def isIteration (c : Config) (log : List (Config × Action)) (c' : Config) : Bool :=
  c.atLoopHead && (log.head?.any fun entry => entry.2.isWorker) &&
    (log.tail.all fun entry => entry.1.inBody) && c'.atLoopHead

theorem Iteration.of_work {log : List (Config × Action)} {steps : Nat}
    (run : Runs (Config.step env) c log c') (hActions : log.map Prod.snd = work steps)
    (hTest : isIteration c log c' = true) :
    c.Iteration env log c' ∧ ∀ entry ∈ log, ¬ entry.1.StartsCapture entry.2 := by
  simp only [isIteration, Bool.and_eq_true, List.all_eq_true] at hTest
  obtain ⟨⟨⟨hStarts, hFirst⟩, hBody⟩, hEnds⟩ := hTest
  refine ⟨⟨run, hStarts, hFirst, hBody, hEnds⟩, fun entry hEntry => ?_⟩
  have hAction := hActions ▸ List.mem_map_of_mem (f := Prod.snd) hEntry
  rw [List.eq_of_mem_replicate hAction]
  exact not_false

/-- The next frame closes the file of a stopped capture. -/
theorem iteration_closes_file_next_frame :
    ∃ log c log' c', Runs (Config.step .plain) {} log c ∧ c.Iteration .plain log' c' ∧
      c.world.aviWriter.isSome = true ∧ Closed .plain c.world.aviWriter c'.world := by
  obtain ⟨log, c, log', c', run, run', hActions, hTest⟩ := exec_witness_then (Config.step .plain) {}
    (stoppedCapture ++ receive 400) (work 12)
    (fun c log c' => c.world.state == .capturePaused && c.world.aviWriter.isSome &&
      (log.any fun entry => entry.1.takesFrame entry.2) && isIteration c log c') (by decide +kernel)
  simp only [Bool.and_eq_true, beq_iff_eq, List.any_eq_true] at hTest
  obtain ⟨⟨⟨hState, hOpen⟩, hTakes⟩, hIteration⟩ := hTest
  obtain ⟨iteration, noStart⟩ := Iteration.of_work run' hActions hIteration
  exact ⟨log, c, log', c', run, iteration, hOpen,
    (iteration_closes_file_iff ⟨log, run⟩ iteration (by simp [hState]) noStart).mpr (Or.inr hTakes)⟩

/-- A stopped capture and a `GetFor` that times out: the file stays open. -/
theorem iteration_leaves_file_open :
    ¬ ∀ c, Reachable (Config.step .plain) {} c → ∀ log c', c.Iteration .plain log c' →
      c.world.state ≠ .capturing → (∀ entry ∈ log, ¬ entry.1.StartsCapture entry.2) →
      Closed .plain c.world.aviWriter c'.world := by
  intro hCloses
  obtain ⟨log, c, log', c', run, run', hActions, hTest⟩ := exec_witness_then (Config.step .plain) {}
    stoppedCapture (work 5)
    (fun c log c' => c.world.state == .capturePaused && c'.world.aviWriter.isSome &&
      isIteration c log c') (by decide +kernel)
  simp only [Bool.and_eq_true, beq_iff_eq] at hTest
  obtain ⟨⟨hState, hOpen⟩, hIteration⟩ := hTest
  obtain ⟨iteration, noStart⟩ := Iteration.of_work run' hActions hIteration
  have hClosed := hCloses c ⟨log, run⟩ log' c' iteration (by simp [hState]) noStart
  rw [hClosed.1] at hOpen
  cases hOpen

end Config

end WinDV
