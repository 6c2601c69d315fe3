import WinDV.Engine.StartCall

/-! Which capture a frame is written for. A file belongs to the session of the
target it was opened with; the worker closes it on some paths only, and a Start
call may come before it has. -/
namespace WinDV

open Transition

/-- The capture thread stays in its loop, but closes the open file or ends the
capture before it writes another frame. -/
def ClosesFirst (w : World) (l : CaptureLocals) : CapturePc → Prop
  | .signalLost | .diskFull | .closeFile | .clearCaptureTime | .storeReason _ _ | .exchange _ _ => True
  | .noFrame => l.capturing = true ∧ l.signal.lost l.now = true
  | .countFrame | .addTime | .readCaptureTime => w.Drained
  | _ => False

/-- What the capture thread writes, it writes for the target: a file it is
about to open, and one that is open unless it is closed first. -/
structure WritesFor (target : CaptureTarget) (w : World) (l : CaptureLocals) (pc : CapturePc) :
    Prop where
  opens : pc = .openWriter → l.target = target
  isOpen : ∀ writer, w.aviWriter = some writer →
    writer.BuiltFrom target ∨ Leaving w l pc ∨ ClosesFirst w l pc

section Moves

variable {env : Environment} {ans : Answer} {clock : Nat} {w w' : World} {l l' : CaptureLocals}
  {pc pc' : CapturePc} {target : CaptureTarget}

/-- A closed queue is all of the world that closing the file depends on. -/
theorem WritesFor.mono (h : WritesFor target w l pc) (hWriter : w'.aviWriter = w.aviWriter)
    (hQueue : ∀ queue, w.queue = some queue → queue.closed = true → w'.queue = some queue) :
    WritesFor target w' l pc where
  opens := h.opens
  isOpen := fun writer hOpen => by
    refine (h.isOpen writer (hWriter.symm.trans hOpen)).imp_right ?_
    rintro (hLeaving | hCloses)
    · exact Or.inl (hLeaving.mono hQueue)
    · right
      have hDrained : w.Drained → w'.Drained := by
        rintro ⟨queue, hSet, hClosed, hEmpty⟩
        exact ⟨queue, hQueue queue hSet hClosed, hClosed, hEmpty⟩
      cases pc with
      | countFrame | addTime | readCaptureTime => exact hDrained hCloses
      | _ => exact hCloses

/-- The thread has closed the file. -/
theorem WritesFor.closed (hOpens : pc' ≠ .openWriter) (hNone : w'.aviWriter = none) :
    WritesFor target w' l' pc' where
  opens := fun hPc => absurd hPc hOpens
  isOpen := fun writer hOpen => by simp [hNone] at hOpen

/-- The thread goes on without touching the file. -/
theorem WritesFor.goOn (h : WritesFor target w l pc)
    (move : CaptureMove env ans clock w l pc w' (some (pc', l'))) (hOpens : pc' ≠ .openWriter)
    (hCloses : ClosesFirst w l pc → Leaving w' l' pc' ∨ ClosesFirst w' l' pc')
    (hWriter : w'.aviWriter = w.aviWriter := by rfl) : WritesFor target w' l' pc' where
  opens := fun hPc => absurd hPc hOpens
  isOpen := fun writer hOpen => by
    refine (h.isOpen writer (hWriter.symm.trans hOpen)).imp_right ?_
    rintro (hLeaving | hBefore)
    · exact Or.inl (move.leaving hLeaving)
    · exact hCloses hBefore

/-- A step of the capture thread while the target stays and the capture goes on. -/
theorem CaptureMove.writesFor
    (h : CaptureMove env ans clock w l pc w' (some (pc', l'))) (hTarget : w.target = target)
    (hState : w.state = .capturing) (hState' : w'.state = .capturing) (hWrites : WritesFor target w l pc) : WritesFor target w' l' pc' := by
  have move := h
  cases h with
  | finishThrows => exact .closed (by simp) (w.finishWriter_aviWriter env ans)
  | finishes goesOn =>
      refine .closed ?_ (w.finishWriter_aviWriter env ans)
      rintro rfl
      cases pc <;> simp [CapturePc.finishNext] at goesOn
  | split => exact .closed (by simp) (w.finishWriter_aviWriter env ans)
  | releaseWriter => exact .closed (by simp) (w.finishWriter_aviWriter env ans)
  | throws => exact hWrites.goOn move (by simp) fun _ => Or.inl trivial
  | readState | newFile => exact hWrites.goOn move (afterState_ne l) False.elim
  | noticeLoss => exact hWrites.goOn move (by simp) fun _ => Or.inr trivial
  | waitOn isSet isOpen notLost =>
      refine hWrites.goOn move (by simp) ?_
      rintro ⟨hCapturing, hLost⟩
      rw [notLost hCapturing] at hLost
      cases hLost
  | breakLoop => exact hWrites.goOn move (by simp) fun _ => Or.inl trivial
  | frameSeen =>
      obtain ⟨shown, hShown⟩ := w.timeChange_eq (recordingTime env _ = l.dvTime) _
      exact hWrites.goOn move (by simp) False.elim (by rw [hShown])
  | copyTarget => exact ⟨fun _ => hTarget, hWrites.isOpen⟩
  | openWriter =>
      refine ⟨by simp, fun writer hOpen => Or.inl ?_⟩
      obtain rfl := Option.some.inj hOpen
      exact hWrites.opens rfl ▸ AVIWriter.new_builtFrom env ans l.target _ _
  | writeFrame isOpen =>
      have hBuilt := (hWrites.isOpen _ isOpen).resolve_right (by simp [Leaving, ClosesFirst])
      refine ⟨by simp, fun writer hOpen => Or.inl ?_⟩
      obtain rfl := Option.some.inj hOpen
      exact (hBuilt.handleFrame _).stampTime _
  | passFrame isOpen =>
      have hBuilt := (hWrites.isOpen _ isOpen).resolve_right (by simp [Leaving, ClosesFirst])
      refine ⟨by simp, fun writer hOpen => Or.inl ?_⟩
      obtain rfl := Option.some.inj hOpen
      exact hBuilt.stampTime _
  | countFrame | addTime => exact hWrites.goOn move (by simp) Or.inr
  | timeLeft => exact hWrites.goOn move (by simp) Or.inl
  | timeUp | clearCaptureTime | storeReason => exact hWrites.goOn move (by simp) fun _ => Or.inr trivial
  | rollback => exact hWrites.goOn move (resume_ne _) False.elim
  | enterFinished => cases hState'
  | exchangeFails notCapturing => exact absurd hState notCapturing
  | _ => exact hWrites.goOn move (by simp) False.elim

end Moves

namespace Config

variable {env : Environment} {c c' : Config} {action : Action}

/-- A Start call sets Capturing while the worker has nothing left to write for
an earlier target: any file still open is closed before the next frame is
written, and none is about to be opened. -/
def StartsFresh (entry : Config × Action) : Prop :=
  ∀ ans request, entry.2 = .control ans → entry.1.call = .busy request (.start .storeState) →
    ∀ pc l, entry.1.worker = .capture pc l →
      WritesFor (request.startArgs.target (entry.1.world.history.captures + 1)) entry.1.world l pc

/-- The step hands a frame to the open writer. -/
def handsFrame (c : Config) (action : Action) : Bool :=
  action.isWorker && match c.worker with
    | .capture .writeFrame l => l.counter % (max c.world.options.everyNth 1).toInt = 0
    | _ => false

/-- The other threads leave the worker's way to the end of a file alone. -/
theorem Interferes.writesFor {w' : World} {target : CaptureTarget} {pc : CapturePc} {l : CaptureLocals}
    (h : c.Interferes action w') (hWrites : WritesFor target c.world l pc) : WritesFor target w' l pc :=
  hWrites.mono h.keeps.1 fun _ hQueue hClosed => h.closed_queue hQueue hClosed

/-- One step of any thread; a Start call that sets Capturing does so fresh. -/
theorem StartKept.writesFor_step (h : c.StartKept)
    (hWrites : c.DuringCapture fun w _ => WritesFor w.history.captureOf w)
    (hStep : c.step env action = some c') (hFresh : StartsFresh (c, action)) :
    c'.DuringCapture fun w _ => WritesFor w.history.captureOf w := by
  apply h.during_step hStep hWrites
  · intro ans request hAction hBusy pc l hThread
    exact (hFresh ans request hAction hBusy pc l hThread).mono rfl fun _ hQueue _ => hQueue
  · intro ans w' pc l pc' l' _ hState hState' _ move hWrites
    rw [move.keeps.captureOf]
    exact move.writesFor (h.target hState) hState hState' hWrites
  · intro w' _ pc l hState hState' hOther _ hWrites
    rw [(hOther.during_capture hState hState').captureOf]
    exact hOther.writesFor hWrites

theorem handsFrame_thread (h : c.handsFrame action = true) : ∃ l, c.worker = .capture .writeFrame l := by
  unfold handsFrame at h
  rw [Bool.and_eq_true] at h
  revert h
  split
  · exact fun _ => ⟨_, by assumption⟩
  · simp

/-- In a run in which no Start call meets an unfinished file of an earlier
capture, every frame is written to a file opened for the capture in progress. -/
theorem frame_goes_to_own_capture {log : List (Config × Action)}
    (run : Runs (Config.step env) {} log c) (hFresh : ∀ entry ∈ log, StartsFresh entry)
    (hHands : c.handsFrame action = true) (hState : c.world.state = .capturing) :
    ∃ writer, c.world.aviWriter = some writer ∧ writer.BuiltFrom c.world.history.captureOf ∧
      writer.session = c.world.history.captures := by
  obtain ⟨hKept, hWrites⟩ := run.invariant_of StartsFresh
    (fun c => c.StartKept ∧ c.DuringCapture fun w _ => WritesFor w.history.captureOf w)
    ⟨startKept_initial, by simp [DuringCapture]⟩
    (fun s a t hs hMeets hStep => ⟨hs.1.step hStep, hs.1.writesFor_step hs.2 hStep hMeets⟩) hFresh
  obtain ⟨l, hThread⟩ := handsFrame_thread hHands
  have hReady := (hKept.agree.capture_ready hThread).2
  obtain ⟨writer, hOpen⟩ := Option.isSome_iff_exists.mp (hReady.writer rfl)
  have hBuilt : writer.BuiltFrom c.world.history.captureOf :=
    ((hWrites hState _ l hThread).isOpen writer hOpen).resolve_right (by simp [Leaving, ClosesFirst])
  exact ⟨writer, hOpen, hBuilt, hBuilt.2.2.2.trans hKept.numbered⟩

/-- The test of a run whose Start calls find no open file and no worker about
to open one. -/
def noFileAtStart (c : Config) : Bool :=
  match c.call, c.worker with
  | .busy _ (.start .storeState), .capture pc _ => c.world.aviWriter.isNone && pc != .openWriter
  | _, _ => true

theorem StartsFresh.of_noFile {entry : Config × Action} (h : entry.1.noFileAtStart = true) :
    StartsFresh entry := by
  intro ans request _ hBusy pc l hThread
  simp only [noFileAtStart, hBusy, hThread, Bool.and_eq_true, Option.isNone_iff_eq_none, bne_iff_ne] at h
  exact .closed h.2 h.1

/-- The second capture of a pipeline, begun after the first one's file is saved. -/
theorem frame_goes_to_own_capture_second :
    ∃ log c, Runs (Config.step .plain) {} log c ∧ c.world.history.captures = 2 ∧
      c.handsFrame (.worker {}) = true ∧ ∃ writer, c.world.aviWriter = some writer ∧
        writer.BuiltFrom c.world.history.captureOf ∧ writer.session = c.world.history.captures := by
  obtain ⟨log, c, run, hTest⟩ := exec_witness (Config.step .plain) {}
    (stoppedCapture ++ receive 400 ++ work 12 ++ perform (.startCapturing ⟨wide "next", [], 0, 0⟩) 7 ++
      receive 400 ++ work 14)
    (fun log c => (log.all fun entry => entry.1.noFileAtStart) && c.world.history.captures == 2 &&
      c.world.state == .capturing && c.handsFrame (.worker {})) (by decide +kernel)
  simp only [Bool.and_eq_true, beq_iff_eq, List.all_eq_true] at hTest
  obtain ⟨⟨⟨hStarts, hCaptures⟩, hState⟩, hHands⟩ := hTest
  exact ⟨log, c, run, hCaptures, hHands, frame_goes_to_own_capture run
    (fun entry hEntry => .of_noFile (hStarts entry hEntry)) hHands hState⟩

/-- A capture stopped and another started before the next frame: that frame
goes to the file of the first. -/
theorem frame_goes_to_earlier_capture :
    ¬ ∀ c, Reachable (Config.step .plain) {} c → ∀ action, c.handsFrame action = true →
      c.world.state = .capturing → ∃ writer, c.world.aviWriter = some writer ∧
        writer.BuiltFrom c.world.history.captureOf ∧ writer.session = c.world.history.captures := by
  intro hOwn
  obtain ⟨log, c, run, hTest⟩ := exec_witness (Config.step .plain) {}
    (stoppedCapture ++ perform (.startCapturing ⟨wide "next", [], 0, 0⟩) 7 ++ receive 400 ++ work 9)
    (fun _ c => c.world.history.captures == 2 && c.world.state == .capturing &&
      c.handsFrame (.worker {}) && c.world.aviWriter.any fun writer => writer.session == 1)
    (by decide +kernel)
  simp only [Bool.and_eq_true, beq_iff_eq, Option.any_eq_true] at hTest
  obtain ⟨⟨⟨hCaptures, hState⟩, hHands⟩, writer, hOpen, hFirst⟩ := hTest
  obtain ⟨writer', hOpen', -, hSession⟩ := hOwn c ⟨log, run⟩ _ hHands hState
  obtain rfl := Option.some.inj (hOpen.symm.trans hOpen')
  omega

end Config

end WinDV
