import WinDV.Engine.TimedCapture

/-! Where the frames in the files come from. On its way from the source a frame is
in a callback, in the queue, in the hand of the capture thread and in a file, and the
frames that are further on came first. -/
namespace WinDV

open Transition

/-- The frame a callback has not put into the queue yet. -/
def incoming : Option Callback → List Frame
  | some (.handleFrame frame) | some (.putFrame frame) => [frame]
  | _ => []

/-- The frame a step of the source hands to `HandleFrame`. -/
def Action.frames : Action → List Frame
  | .deliver (.frame frame) => [frame]
  | _ => []

/-- The frames the source has delivered in a run. -/
def delivered (log : List (Config × Action)) : List Frame := log.flatMap fun entry => entry.2.frames

theorem incoming_callback (event : SourceEvent) :
    incoming (some event.callback) = (Action.deliver event).frames := by
  cases event <;> rfl

/-- The frames in the queue. -/
def World.waiting (w : World) : List Frame :=
  match w.queue with
  | some queue => queue.contents
  | none => []

theorem World.waiting_same {w w' : World} (h : w'.queue = w.queue) : w'.waiting = w.waiting := by
  rw [World.waiting, h]
  rfl

/-- The first of them is the one the queue hands out. -/
theorem World.QueueValid.waiting_eq {w : World} {queue : FrameQueue} (valid : w.QueueValid)
    (isSet : w.queue = some queue) (waiting : 0 < queue.load) :
    w.waiting = queue.view queue.takeLocked.1 :: queue.takeLocked.2.contents := by
  rw [World.waiting, isSet]
  exact FrameQueue.takeLocked_contents (valid queue isSet) waiting

/-- The steps of the capture loop between `GetFor` and the write. -/
def CapturePc.unwritten : CapturePc → Bool
  | .readClock | .readState | .newWatch | .newFile | .frameSeen | .preview | .readDiskState | .checkDisk
  | .diskFull | .storeReason _ .readWriteState | .exchange _ .readWriteState | .rollback .readWriteState
  | .readWriteState | .splitFile | .copyTarget | .openWriter | .writeFrame => true
  | _ => false

/-- The frame in the hand of the capture thread that has not been written. -/
def Carries (w : World) (l : CaptureLocals) (pc : CapturePc) (pending : List Frame) : Prop :=
  pc.unwritten = true → InHandOr w l pending

namespace World

variable {env : Environment} {ans : Answer} {w w' : World}

/-- A file that is finished keeps its frames, or it is lost. -/
theorem finishWriter_written_sublist (env : Environment) (ans : Answer) (w : World) :
    (w.finishWriter env ans).1.written.Sublist w.written := by
  unfold finishWriter
  cases hWriter : w.aviWriter with
  | none => exact List.Sublist.refl _
  | some writer =>
      cases hFinish : writer.finish env ans with
      | error message =>
          simp only [hFinish, written, hWriter]
          simp
      | ok file =>
          have hFile : file.writer = writer := by
            unfold AVIWriter.finish at hFinish
            cases hMove : ans.moveFailure with
            | some detail => simp [hMove] at hFinish
            | none =>
                simp only [hMove, Except.ok.injEq] at hFinish
                rw [← hFinish]
          simp only [hFinish, written, hWriter]
          simp [hFile]

/-- Another file does not take anything to those that are there. -/
theorem open_written_sublist {target : CaptureTarget} {dvTime : Int} {type2AVI : Bool} {count : Int32} :
    (written { w with
      aviWriter := some (AVIWriter.new env ans target dvTime type2AVI)
      fileFrameCount := count }).Sublist w.written := by
  simp [written, AVIWriter.new]

end World

section Moves

variable {env : Environment} {ans : Answer} {clock : Nat} {w w' : World} {l l' : CaptureLocals}
  {pc next : CapturePc} {t : CaptureThread} {pending : List Frame}

/-- What a step of the capture thread has done with the frames. -/
def Moved (w : World) (pending : List Frame) (w' : World) (t : CaptureThread) : Prop :=
  ∃ pending', (∀ pc' l', t = some (pc', l') → Carries w' l' pc' pending') ∧
    (w'.written ++ pending' ++ w'.waiting).Sublist (w.written ++ pending ++ w.waiting)

/-- The frame in hand stays there. -/
theorem Carries.stays (h : Carries w l pc pending) (hPc : next.unwritten = true → pc.unwritten = true)
    (hWritten : w'.written.Sublist w.written) (hQueue : w'.queue = w.queue := by rfl)
    (hFrame : l'.frame = l.frame := by rfl) : Moved w pending w' (some (next, l')) := by
  refine ⟨pending, ?_, ?_⟩
  · rintro _ _ ⟨⟩ hUnwritten
    exact (h (hPc hUnwritten)).same hQueue hFrame
  · rw [World.waiting_same hQueue]
    exact (hWritten.append_right _).append_right _

/-- There is none in hand, or it is let go. -/
theorem Moved.drops (hPc : next.unwritten = false) (hWritten : w'.written.Sublist w.written)
    (hQueue : w'.queue = w.queue := by rfl) : Moved w pending w' (some (next, l')) := by
  refine ⟨[], ?_, ?_⟩
  · rintro _ _ ⟨⟩ hUnwritten
    rw [hPc] at hUnwritten
    cases hUnwritten
  · rw [World.waiting_same hQueue, List.append_nil]
    exact (hWritten.trans (List.sublist_append_left _ _)).append_right _

/-- The frame in hand is written. -/
theorem Carries.writes {frame : Frame} (h : Carries w l pc pending) (hPc : pc.unwritten = true)
    (inHand : InHand w l frame) (hNext : next.unwritten = false)
    (hWritten : w'.written = w.written ++ [frame]) (hQueue : w'.queue = w.queue := by rfl) :
    Moved w pending w' (some (next, l')) := by
  have hPending : pending = [frame] := by
    rcases h hPc with ⟨hNone, -⟩ | ⟨held, rfl, hHolding⟩
    · obtain ⟨_, _, -, hSpan, -⟩ := inHand
      rw [hNone] at hSpan
      cases hSpan
    · rw [hHolding.eq_of_inHand inHand]
  refine ⟨[], ?_, ?_⟩
  · rintro _ _ ⟨⟩ hUnwritten
    rw [hNext] at hUnwritten
    cases hUnwritten
  · rw [hWritten, World.waiting_same hQueue, hPending, List.append_nil]

theorem CaptureMove.moved (h : CaptureMove env ans clock w l pc w' t) (valid : w.QueueValid)
    (hCarries : Carries w l pc pending) : Moved w pending w' t := by
  have hKept : w.written.Sublist w.written := List.Sublist.refl _
  have hFinish := w.finishWriter_written_sublist env ans
  have hQueue := w.finishWriter_queue env ans
  cases h with
  | throws | getMediaType | readDropped | clearCounter | clearTime | leaveLoop | stayInLoop | breakLoop
  | noticeLoss | waitOn | dontCapture | countFrame | addTime | timeUp | timeLeft | clearCaptureTime
  | updateDropped | rereadDropped | keepCounts | dropCounts | resetCounts | report =>
      exact .drops rfl hKept
  | finishThrows => exact .drops rfl hFinish hQueue
  | finishes goesOn =>
      apply hCarries.stays _ hFinish hQueue
      cases pc with
      | signalLost | closeFile | afterLoop =>
          cases goesOn
          exact fun hNot => by cases hNot
      | diskFull => exact fun _ => rfl
      | _ => cases goesOn
  | split => exact hCarries.stays (fun _ => rfl) hFinish hQueue
  | releaseWriter => exact .drops rfl hFinish hQueue
  | notifyStopped =>
      refine ⟨[], by simp, ?_⟩
      rw [List.append_nil]
      exact (hKept.trans (List.sublist_append_left _ _)).append_right _
  | timeOut =>
      refine ⟨[], ?_, ?_⟩
      · rintro _ _ ⟨⟩ _
        exact Or.inl ⟨rfl, rfl⟩
      · rw [List.append_nil]
        exact (hKept.trans (List.sublist_append_left _ _)).append_right _
  | @takeFrame queue isSet waiting =>
      refine ⟨[queue.view queue.takeLocked.1], ?_, ?_⟩
      · rintro _ _ ⟨⟩ _
        exact Or.inr ⟨_, rfl, valid.holding isSet⟩
      · rw [valid.waiting_eq isSet waiting, List.append_assoc, List.append_assoc]
        exact (List.sublist_append_right pending _).append_left _
  | readClock | readState | noticeCapture | newWatch | newFile | preview | skipDiskCheck
  | countToDiskCheck | dueDiskCheck | diskLow | diskFine | capture | noFile | sameFile | copyTarget =>
      exact hCarries.stays (fun _ => rfl) hKept
  | frameSeen inHand =>
      obtain ⟨shown, signal, delta, lastValid, hWorld, hLocals⟩ := frameSeen_eq env w l _
      rw [hWorld, hLocals]
      exact hCarries.stays (fun _ => rfl) hKept
  | openWriter => exact hCarries.stays (fun _ => rfl) World.open_written_sublist
  | writeFrame isOpen inHand =>
      exact hCarries.writes rfl inHand rfl (World.written_handleFrame isOpen rfl rfl)
  | @passFrame writer frame isOpen =>
      apply Moved.drops rfl
      simp [World.written, isOpen]
  | @storeReason reason resume | @exchangeFails reason resume =>
      apply hCarries.stays _ hKept
      cases resume with
      | readWriteState => exact fun _ => rfl
      | loopHead | updateDropped => exact fun hNot => by cases hNot
  | @enterFinished reason resume | @rollback resume =>
      apply hCarries.stays _ hKept
      cases resume with
      | readWriteState => exact fun _ => rfl
      | loopHead | updateDropped => exact fun hNot => by cases hNot

end Moves

section Others

variable {env : Environment} {ans : Answer} {clock : Nat} {w w' : World}

/-- What a step beside the capture thread does with the frames: those written
and those on their way to the capture thread get fewer at most, but for the `gained`. -/
structure Passed (w : World) (callback : Option Callback) (gained : List Frame) (w' : World)
    (callback' : Option Callback) : Prop where
  written : w'.written.Sublist w.written
  coming : (w'.waiting ++ incoming callback').Sublist (w.waiting ++ incoming callback ++ gained)

theorem Passed.of_waiting {callback : Option Callback} (hWritten : w'.written.Sublist w.written)
    (hWaiting : w'.waiting.Sublist w.waiting) : Passed w callback [] w' callback where
  written := hWritten
  coming := by
    rw [List.append_nil]
    exact hWaiting.append_right _

/-- Closing the queue leaves its frames in it. -/
theorem World.closeQueue_waiting (w : World) : w.closeQueue.waiting = w.waiting := by
  unfold World.waiting World.closeQueue
  cases w.queue <;> rfl

theorem CallMove.passed {worker worker' : Worker} {request : Request} {pc : CallPc}
    {callback : Option Callback} (h : CallMove env ans w worker request pc w' worker') :
    Passed w callback [] w' callback := by
  cases h with
  | closeQueue => exact .of_waiting (List.Sublist.refl _) (by rw [World.closeQueue_waiting])
  | release => exact .of_waiting (w.finishWriter_written_sublist env ans) (List.nil_sublist _)
  | createQueue => exact .of_waiting (List.Sublist.refl _) (List.nil_sublist _)
  | _ => exact .of_waiting (List.Sublist.refl _) (List.Sublist.refl _)

/-- The record thread takes frames away and writes none. -/
theorem RecordMove.passed {l : RecordLocals} {pc : RecordPc} {t : RecordThread}
    {callback : Option Callback} (h : RecordMove env ans clock w l pc w' t) (valid : w.QueueValid) :
    Passed w callback [] w' callback := by
  cases h with
  | @firstFrame queue isSet waiting | @nextFrame queue isSet waiting =>
      have hFewer : queue.takeLocked.2.contents.Sublist w.waiting := by
        rw [valid.waiting_eq isSet waiting]
        exact List.sublist_cons_self _ _
      exact .of_waiting (List.Sublist.refl _) hFewer
  | frameSeen =>
      obtain ⟨shown, hShown⟩ := w.timeChange_eq (recordingTime env _ = l.dvTime) _
      rw [hShown]
      exact .of_waiting (List.Sublist.refl _) (List.Sublist.refl _)
  | _ => exact .of_waiting (List.Sublist.refl _) (List.Sublist.refl _)

/-- A callback puts its frame behind those in the queue, or drops it. -/
theorem CallbackMove.passed {callback : Callback} {next : Option Callback}
    (h : CallbackMove w callback w' next) (valid : w.QueueValid) :
    Passed w (some callback) [] w' next := by
  refine ⟨?_, ?_⟩
  · cases h <;> exact List.Sublist.refl _
  · rw [List.append_nil]
    cases h with
    | count => exact List.Sublist.refl _
    | @stored queue queue' frame isSet put =>
        have hWaiting : w.waiting = queue.contents := by rw [World.waiting, isSet]
        show (queue'.contents ++ []).Sublist (w.waiting ++ [frame])
        rw [hWaiting, FrameQueue.put_contents (valid queue isSet) put, List.append_nil]
    | close closes =>
        rw [World.closeQueue_waiting]
        exact (List.Sublist.refl _).append (List.nil_sublist _)
    | oversized | refused | reportOversized | sourceError =>
        exact (List.Sublist.refl _).append (List.nil_sublist _)

end Others

namespace Config

variable {env : Environment} {c c' : Config} {action : Action} {frames : List Frame}

/-- No step but those of the capture thread moves a frame past the queue. -/
theorem step_passed (hStep : c.step env action = some c') (valid : c.world.QueueValid)
    (other : ∀ pc l ans, c.worker = .capture pc l → action ≠ .worker ans) :
    Passed c.world c.callback (action.frames) c'.world c'.callback := by
  cases step_move hStep with
  | control busy step =>
      have hSteps := callStep_steps step
      rw [hSteps.callback]
      exact hSteps.move.passed
  | capture thread => exact absurd rfl (other _ _ _ thread)
  | record thread move => exact move.passed valid
  | @deliver event running free =>
      refine ⟨List.Sublist.refl _, ?_⟩
      have hNone : incoming none = [] := rfl
      rw [free, hNone, List.append_nil]
      show (c.world.waiting ++ incoming (some event.callback)).Sublist _
      rw [incoming_callback]
  | callback thread move =>
      rw [thread]
      exact move.passed valid
  | begin | tick | setOptions | takeError =>
      exact .of_waiting (List.Sublist.refl _) (List.Sublist.refl _)

/-- The frames in the files, in hand, in the queue and in the callback, in this
order, are delivered ones in the order of their delivery. -/
def Flows (c : Config) (frames : List Frame) : Prop :=
  ∃ pending, (∀ pc l, c.worker = .capture pc l → Carries c.world l pc pending) ∧
    (c.world.written ++ pending ++ (c.world.waiting ++ incoming c.callback)).Sublist frames

/-- No other thread takes the frame out of the hand of the capture thread. -/
theorem Interferes.carries {w' : World} {l : CaptureLocals} {pc : CapturePc} {pending : List Frame}
    (h : c.Interferes action w') (valid : c.world.QueueValid)
    (hCarries : Carries c.world l pc pending) : Carries w' l pc pending := by
  intro hUnwritten
  rcases hCarries hUnwritten with hNone | ⟨frame, hPending, hHolding⟩
  · exact Or.inl hNone
  · exact Or.inr ⟨frame, hPending, h.holding valid hHolding⟩

theorem Flows.step (h : c.Flows frames) (hAgree : c.Agree) (valid : c.world.QueueValid)
    (hStep : c.step env action = some c') : c'.Flows (frames ++ action.frames) := by
  obtain ⟨pending, hCarries, hFlow⟩ := h
  -- What `step_passed` says, put behind the frames that are further on.
  have hBeside (kept : List Frame) (hKept : kept.Sublist pending)
      (hPassed : Passed c.world c.callback (action.frames) c'.world c'.callback) :
      (c'.world.written ++ kept ++ (c'.world.waiting ++ incoming c'.callback)).Sublist
        (frames ++ action.frames) := by
    have hAll := (hPassed.written.append hKept).append hPassed.coming
    rw [← List.append_assoc (c.world.written ++ pending)] at hAll
    exact hAll.trans (hFlow.append_right _)
  by_cases hCapture : ∃ pc l, c.worker = .capture pc l
  · obtain ⟨pc, l, hThread⟩ := hCapture
    rcases hAgree.capture_cases hThread hStep with
      ⟨ans, w', t, rfl, move, rfl⟩ | ⟨hSame, hInterferes, hAction⟩
    · obtain ⟨pending', hCarries', hMoved⟩ := move.moved valid (hCarries pc l hThread)
      refine ⟨pending', ?_, ?_⟩
      · intro pc' l' hThread'
        apply hCarries'
        cases t with
        | none => cases hThread'
        | some thread =>
            cases hThread'
            rfl
      · have hAll := hMoved.append_right (incoming c.callback)
        simp only [List.append_assoc] at hAll hFlow
        simp only [Action.frames, captureResult, List.append_assoc, List.append_nil]
        exact hAll.trans hFlow
    · refine ⟨pending, ?_, ?_⟩
      · intro pc' l' hThread'
        rw [hSame] at hThread'
        cases hThread'
        exact hInterferes.carries valid (hCarries pc l hThread)
      · exact hBeside pending (List.Sublist.refl _)
          (step_passed hStep valid fun _ _ ans _ => hAction ans)
  · refine ⟨[], ?_, ?_⟩
    · intro pc l hThread
      rcases hAgree.capture_from hStep hThread with ⟨before, l', hBefore⟩ | ⟨-, -, rfl, -⟩
      · exact absurd ⟨before, l', hBefore⟩ hCapture
      · intro hUnwritten
        cases hUnwritten
    · exact hBeside [] (List.nil_sublist _)
        (step_passed hStep valid fun pc l ans hThread => absurd ⟨pc, l, hThread⟩ hCapture)

/-- Whatever the threads and the source do, each frame in a file is one that
the source delivered, none is there twice, and they are in the order of their
delivery, from one file and one capture to the next. Those in the queue come after. -/
theorem captured_frames_arrive {log : List (Config × Action)} (run : Runs (Config.step env) {} log c) :
    (c.world.written ++ c.world.waiting).Sublist (delivered log) := by
  have hFlows : c.Agree ∧ c.world.QueueValid ∧ c.Flows (delivered log) := by
    induction run with
    | zero =>
        refine ⟨agree_initial, ?_, [], ?_, List.Sublist.refl _⟩
        · intro queue hNone
          cases hNone
        · intro pc l hNone
          cases hNone
    | @succ log middle finish action prior last ih =>
        obtain ⟨hAgree, hValid, hFlows⟩ := ih
        refine ⟨hAgree.step last, queueValid_step hValid last, ?_⟩
        have hDelivered : delivered (log ++ [(middle, action)]) = delivered log ++ action.frames := by
          simp [delivered]
        rw [hDelivered]
        exact hFlows.step hAgree hValid last
  obtain ⟨-, -, pending, -, hFlow⟩ := hFlows
  have hHandled := List.sublist_append_left c.world.written pending
  have hComing := List.sublist_append_left c.world.waiting (incoming c.callback)
  exact (hHandled.append hComing).trans hFlow

/-- A capture that is stopped with its first frame in a file and two more to come. -/
theorem captured_frames_arrive_stopped :
    ∃ log c, Runs (Config.step .plain) {} log c ∧ c.world.written.length = 1 ∧
      c.world.waiting.length = 2 ∧ (c.world.written ++ c.world.waiting).Sublist (delivered log) := by
  obtain ⟨log, c, run, hTest⟩ := exec_witness (Config.step .plain) {}
    (stoppedCapture ++ receive 400 ++ receive 500)
    (fun _ c => c.world.written.length == 1 && c.world.waiting.length == 2) (by decide +kernel)
  simp only [Bool.and_eq_true, beq_iff_eq] at hTest
  obtain ⟨hWritten, hWaiting⟩ := hTest
  exact ⟨log, c, run, hWritten, hWaiting, captured_frames_arrive run⟩

end Config

end WinDV
