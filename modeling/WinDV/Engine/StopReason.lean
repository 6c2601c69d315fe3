import WinDV.Engine.Pipeline

/-! Whether whoever sees Finished also sees why. The worker stores the reason
before it enters Finished; a Start call that stores None in between, or later,
takes the reason away. -/
namespace WinDV

open Transition

/-- The steps the capture thread can be at once the state is Finished: on no
path to `FinishOnItsOwn`. -/
def CapturePc.Quiet (l : CaptureLocals) : CapturePc → Prop
  | .loopHead | .getFrame | .readClock | .readState | .frameSeen | .preview | .readDiskState
  | .readWriteState | .updateDropped | .closeFile | .rereadDropped | .readFinished | .afterLoop
  | .report _ | .releaseWriter | .notifyStopped => True
  | .noFrame => l.capturing = false
  | _ => False

def RecordPc.Quiet : RecordPc → Prop
  | .loopHead | .frameSeen | .preview | .output | .readState | .report _ | .notifyStopped => True
  | _ => False

/-- The thread is past the store of its reason, and the reason is still there
unless it has been cleared since. -/
structure CaptureReason (w : World) (l : CaptureLocals) (pc : CapturePc) : Prop where
  storing : ∀ reason resume, pc = .storeReason reason resume → reason ≠ .none
  stored : ∀ reason resume, pc = .exchange reason resume →
    reason ≠ .none ∧ (w.history.reasonCleared = false → w.stopReason = reason)
  quiet : w.state = .finished → pc.Quiet l

structure RecordReason (w : World) (pc : RecordPc) : Prop where
  stored : pc = .exchange → w.history.reasonCleared = false → w.stopReason = .endOfFiles
  quiet : w.state = .finished → pc.Quiet

namespace Config

def WorkerReason (c : Config) : Prop :=
  match c.worker with
  | .absent | .returned => True
  | .capture pc l => CaptureReason c.world l pc
  | .record pc _ => RecordReason c.world pc

/-- What holds in every run. -/
structure Reasoned (c : Config) : Prop where
  agree : c.Agree
  cleared : c.world.history.reasonCleared = true → c.world.stopReason = .none
  worker : c.WorkerReason

/-- Finished comes with the reason of the call that entered it. -/
def Explained (c : Config) : Prop :=
  c.world.state = .finished →
    c.world.history.enteredBy = some c.world.stopReason ∧ c.world.stopReason ≠ .none

instance (c : Config) : Decidable c.Explained := inferInstanceAs (Decidable (_ → _ ∧ _))

/-- The step stores `StopReason::None` for a Start call. -/
def ClearsReason (c : Config) : Action → Prop
  | .control _ => ∃ request, c.call = .busy request (.start .clearReason) ∨
      c.call = .busy request (.control .clearReason)
  | _ => False

/-- The step is a compare-exchange of `FinishOnItsOwn` that succeeds. -/
def EntersFinished (c : Config) : Action → Prop
  | .worker _ =>
      (∃ reason resume l, c.worker = .capture (.exchange reason resume) l ∧
        c.world.state = .capturing) ∨
      (∃ l, c.worker = .record .exchange l ∧ c.world.state = .recording)
  | _ => False

/-- No Start call stores None once the state is Finished, and none has done so
between the two stores of a `FinishOnItsOwn` that succeeds. -/
def KeepsReason (entry : Config × Action) : Prop :=
  (entry.1.ClearsReason entry.2 → entry.1.world.state ≠ .finished) ∧
    (entry.1.EntersFinished entry.2 → entry.1.world.history.reasonCleared = false)

theorem reasoned_initial : ({} : Config).Reasoned where
  agree := agree_initial
  cleared := fun _ => rfl
  worker := trivial

end Config

section Worker

variable {env : Environment} {ans : Answer} {clock : Nat} {w w' : World}

/-- Only two of its steps store a reason. -/
theorem CaptureMove.stopReason {l : CaptureLocals} {pc : CapturePc} {t : CaptureThread}
    (h : CaptureMove env ans clock w l pc w' t) :
    (w'.stopReason = w.stopReason ∧ w'.history.reasonCleared = w.history.reasonCleared) ∨
    (∃ reason resume, pc = .storeReason reason resume ∧ w' = w.storeReason reason) ∨
    ∃ resume, pc = .rollback resume ∧ w' = w.storeReason .none := by
  have hFinish : (w.finishWriter env ans).1.stopReason = w.stopReason ∧
      (w.finishWriter env ans).1.history.reasonCleared = w.history.reasonCleared := by
    obtain ⟨files, hFiles⟩ := w.finishWriter_fst env ans
    rw [hFiles]
    exact ⟨rfl, rfl⟩
  cases h with
  | finishThrows | finishes | split | releaseWriter => exact Or.inl hFinish
  | storeReason => exact Or.inr (Or.inl ⟨_, _, rfl, rfl⟩)
  | rollback => exact Or.inr (Or.inr ⟨_, rfl, rfl⟩)
  | frameSeen =>
      left
      split_ifs
      · exact ⟨rfl, rfl⟩
      · exact ⟨rfl, rfl⟩
  | _ => exact Or.inl ⟨rfl, rfl⟩

theorem RecordMove.stopReason {l : RecordLocals} {pc : RecordPc} {t : RecordThread}
    (h : RecordMove env ans clock w l pc w' t) :
    (w'.stopReason = w.stopReason ∧ w'.history.reasonCleared = w.history.reasonCleared) ∨
    (pc = .storeReason ∧ w' = w.storeReason .endOfFiles) ∨
    pc = .rollback ∧ w' = w.storeReason .none := by
  cases h with
  | storeReason => exact Or.inr (Or.inl ⟨rfl, rfl⟩)
  | rollback => exact Or.inr (Or.inr ⟨rfl, rfl⟩)
  | frameSeen =>
      left
      split_ifs
      · exact ⟨rfl, rfl⟩
      · exact ⟨rfl, rfl⟩
  | _ => exact Or.inl ⟨rfl, rfl⟩

theorem resume_quiet (l : CaptureLocals) (resume : Resume) : resume.pc.Quiet l := by
  cases resume <;> trivial

/-- In Finished the capture thread stays away from `FinishOnItsOwn`. -/
theorem CaptureMove.quiet {l l' : CaptureLocals} {pc pc' : CapturePc}
    (h : CaptureMove env ans clock w l pc w' (some (pc', l')))
    (hQuiet : w.state = .finished → pc.Quiet l) (hState : w'.state = .finished) : pc'.Quiet l' := by
  rcases h.state_cases with hSame | ⟨_, resume, _, _, _, hNext⟩
  · rw [hSame.1] at hState
    have hOld := hQuiet hState
    cases h with
    | finishes goesOn =>
        cases pc <;> simp only [CapturePc.finishNext, Option.some.injEq, reduceCtorEq] at goesOn
        all_goals
          subst goesOn
          exact hOld
    | readState =>
        unfold CaptureLocals.afterState
        split_ifs
        · simp [CapturePc.Quiet, hState]
        · trivial
    | noticeLoss _ _ capturing =>
        have hNot : l.capturing = false := hOld
        rw [hNot] at capturing
        cases capturing
    | noticeCapture capturing | capture capturing | countToDiskCheck capturing
    | dueDiskCheck capturing | enterFinished capturing =>
        rw [hState] at capturing
        cases capturing
    | dropCounts notFinished => exact absurd hState notFinished
    | _ => trivial
  · obtain ⟨rfl, rfl⟩ := Prod.mk.inj (Option.some.inj hNext)
    exact resume_quiet _ resume

theorem RecordMove.quiet {l l' : RecordLocals} {pc pc' : RecordPc}
    (h : RecordMove env ans clock w l pc w' (some (pc', l')))
    (hQuiet : w.state = .finished → pc.Quiet) (hState : w'.state = .finished) : pc'.Quiet := by
  rcases h.state_cases with hSame | ⟨_, _, _, hNext⟩
  · rw [hSame.1] at hState
    have hOld := hQuiet hState
    cases h with
    | goOn recording | enterFinished recording =>
        rw [hState] at recording
        cases recording
    | _ => trivial
  · obtain ⟨rfl, rfl⟩ := Prod.mk.inj (Option.some.inj hNext)
    trivial

/-- The capture thread knows its reason, and is quiet in Finished. -/
theorem CaptureMove.reason {l l' : CaptureLocals} {pc pc' : CapturePc}
    (h : CaptureMove env ans clock w l pc w' (some (pc', l'))) (hReason : CaptureReason w l pc) :
    CaptureReason w' l' pc' := by
  refine ⟨?_, ?_, h.quiet hReason.quiet⟩
  · intro reason resume hPc
    cases h with
    | finishes goesOn =>
        cases pc <;> simp only [CapturePc.finishNext, Option.some.injEq, reduceCtorEq] at goesOn
        all_goals
          rw [hPc] at goesOn
          cases goesOn <;> decide
    | clearCaptureTime =>
        cases hPc
        decide
    | readState | newFile => exact absurd hPc (afterState_ne l)
    | enterFinished | rollback => exact absurd hPc (resume_ne _)
    | _ => cases hPc
  · intro reason resume hPc
    cases h with
    | finishes goesOn =>
        rw [hPc] at goesOn
        cases pc <;> simp [CapturePc.finishNext] at goesOn
    | storeReason =>
        cases hPc
        exact ⟨hReason.storing _ _ rfl, fun _ => rfl⟩
    | readState | newFile => exact absurd hPc (afterState_ne l)
    | enterFinished | rollback => exact absurd hPc (resume_ne _)
    | _ => cases hPc

theorem RecordMove.reason {l l' : RecordLocals} {pc pc' : RecordPc}
    (h : RecordMove env ans clock w l pc w' (some (pc', l'))) (hReason : RecordReason w pc) :
    RecordReason w' pc' := by
  refine ⟨?_, h.quiet hReason.quiet⟩
  rintro rfl
  cases h with
  | storeReason => exact fun _ => rfl

end Worker

namespace Config

variable {env : Environment} {c c' : Config} {action : Action}

/-- What the worker knows of its reason survives the steps of other threads
that do not touch the reason without saying so. -/
theorem WorkerReason.other (h : c.WorkerReason) (hWorker : c'.worker = c.worker)
    (hState : c'.world.state = c.world.state ∨ c'.world.state ≠ .finished)
    (hReason : c'.world.history.reasonCleared = false →
      c.world.history.reasonCleared = false ∧ c'.world.stopReason = c.world.stopReason) :
    c'.WorkerReason := by
  have hFinished : c'.world.state = .finished → c.world.state = .finished := by
    intro hFinished
    rcases hState with hSame | hNot
    · exact hSame ▸ hFinished
    · exact absurd hFinished hNot
  unfold WorkerReason at h ⊢
  rw [hWorker]
  cases hThread : c.worker with
  | absent => trivial
  | returned => trivial
  | capture pc l =>
      rw [hThread] at h
      refine ⟨h.storing, fun reason resume hPc => ?_, fun hState => h.quiet (hFinished hState)⟩
      obtain ⟨hNone, hStored⟩ := h.stored reason resume hPc
      refine ⟨hNone, fun hCleared => ?_⟩
      rw [(hReason hCleared).2]
      exact hStored (hReason hCleared).1
  | record pc l =>
      rw [hThread] at h
      refine ⟨fun hPc hCleared => ?_, fun hState => h.quiet (hFinished hState)⟩
      rw [(hReason hCleared).2]
      exact h.stored hPc (hReason hCleared).1

/-- The reason under the controlling thread: a Start call clears it, and
`Destroy` resets it once no worker is left. -/
theorem control_reason {ans : Answer} {w' : World} {worker' : Worker} {request : Request} {pc : CallPc}
    (h : CallMove env ans c.world c.worker request pc w' worker') :
    (w'.stopReason = c.world.stopReason ∧
      w'.history.reasonCleared = c.world.history.reasonCleared ∧
      w'.history.enteredBy = c.world.history.enteredBy) ∨
    ((pc = .start .clearReason ∨ pc = .control .clearReason) ∧ w' = c.world.clearReason) ∨
    pc = .destroy .clearStatus ∧ w' = c.world.clearStatus := by
  cases h with
  | clearReason clears => exact Or.inr (Or.inl ⟨clears, rfl⟩)
  | clearStatus => exact Or.inr (Or.inr ⟨rfl, rfl⟩)
  | release =>
      obtain ⟨files, hFiles⟩ := c.world.finishWriter_fst env ans
      left
      unfold World.release World.resetWriter
      rw [hFiles]
      exact ⟨rfl, rfl, rfl⟩
  | _ => exact Or.inl ⟨rfl, rfl, rfl⟩

/-- A new thread is nowhere near `FinishOnItsOwn`, and not started in Finished. -/
theorem thread_reason {w : World} (request : Request) (hState : w.state = request.pausedState) :
    ({ world := w, worker := request.thread } : Config).WorkerReason := by
  have hNot : w.state ≠ .finished := by
    rw [hState]
    unfold Request.pausedState
    split_ifs <;> simp
  unfold WorkerReason Request.thread
  by_cases hRequest : request = .buildCapturing
  · rw [if_pos hRequest]
    exact ⟨by simp, by simp, fun hFinished => absurd hFinished hNot⟩
  · rw [if_neg hRequest]
    exact ⟨by simp, fun hFinished => absurd hFinished hNot⟩

theorem Reasoned.control {ans : Answer} {request : Request} {pc : CallPc} (h : c.Reasoned)
    (hBusy : c.call = .busy request pc) (hSteps : Steps env ans c request pc c')
    (hAgree : c'.Agree) : c'.Reasoned := by
  have hCall := h.agree.call
  rw [hBusy] at hCall
  have hMove := hSteps.move
  refine ⟨hAgree, ?_, ?_⟩
  · rcases control_reason hMove with ⟨hSame, hCleared, _⟩ | ⟨_, hClear⟩ | ⟨_, hClear⟩
    · rw [hSame, hCleared]
      exact h.cleared
    · intro _
      rw [hClear]
      rfl
    · intro _
      rw [hClear]
      rfl
  · cases hWorker : c'.worker with
    | absent =>
        unfold WorkerReason
        rw [hWorker]
        trivial
    | returned =>
        unfold WorkerReason
        rw [hWorker]
        trivial
    | _ =>
        by_cases hSame : c'.worker = c.worker
        · apply h.worker.other hSame hMove.state
          rcases control_reason hMove with ⟨hReason, hCleared, _⟩ | ⟨_, hClear⟩ | ⟨hPc, hClear⟩
          · rw [hCleared]
            exact fun hFalse => ⟨hFalse, hReason⟩
          · rw [hClear]
            intro hFalse
            cases hFalse
          · -- No worker is left when the status is cleared.
            rw [hPc] at hCall
            have hAbsent := isAbsent_iff.mp hCall.1.noWorker
            rw [hSame, hAbsent] at hWorker
            cases hWorker
        · have hStart : pc = .build .startWorker ∧ c'.world = c.world ∧ c'.worker = request.thread := by
            generalize hw : c'.world = w' at hMove
            generalize ht : c'.worker = t' at hMove
            rw [ht] at hSame hWorker
            cases hMove with
            | startWorker => exact ⟨rfl, rfl, rfl⟩
            | join => cases hWorker
            | _ => exact absurd rfl hSame
          obtain ⟨rfl, hWorld, hThread⟩ := hStart
          have hReason := thread_reason request (w := c'.world) (by rw [hWorld]; exact hCall.1)
          unfold WorkerReason at hReason ⊢
          rwa [hThread]

theorem Reasoned.step (h : c.Reasoned) (hStep : c.step env action = some c') : c'.Reasoned := by
  have hAgree := h.agree.step hStep
  cases step_move hStep with
  | begin | deliver | tick => exact ⟨hAgree, h.cleared, h.worker⟩
  | setOptions | takeError =>
      exact ⟨hAgree, h.cleared, h.worker.other rfl (Or.inl rfl) fun hFalse => ⟨hFalse, rfl⟩⟩
  | control busy step => exact h.control busy (callStep_steps step) hAgree
  | @capture ans pc l w' t thread move =>
      have hReason := h.worker
      unfold WorkerReason at hReason
      rw [thread] at hReason
      refine ⟨hAgree, ?_, ?_⟩
      · rcases move.stopReason with ⟨hSame, hCleared⟩ | ⟨_, _, _, rfl⟩ | ⟨_, _, rfl⟩
        · simp only [captureResult, hSame, hCleared]
          exact h.cleared
        · exact fun hTrue => (by cases hTrue)
        · exact fun hTrue => (by cases hTrue)
      · cases t with
        | none => trivial
        | some next => exact move.reason hReason
  | @record ans pc l w' t thread move =>
      have hReason := h.worker
      unfold WorkerReason at hReason
      rw [thread] at hReason
      refine ⟨hAgree, ?_, ?_⟩
      · rcases move.stopReason with ⟨hSame, hCleared⟩ | ⟨_, rfl⟩ | ⟨_, rfl⟩
        · simp only [recordResult, hSame, hCleared]
          exact h.cleared
        · exact fun hTrue => (by cases hTrue)
        · exact fun hTrue => (by cases hTrue)
      · cases t with
        | none => trivial
        | some next => exact move.reason hReason
  | @callback callback w' next thread move =>
      have hKeeps := move.keeps
      obtain ⟨reported, accepted, hHistory⟩ := hKeeps.history
      refine ⟨hAgree, ?_, ?_⟩
      · simp only [callbackResult, hKeeps.stopReason, hHistory]
        exact h.cleared
      · refine h.worker.other rfl (Or.inl hKeeps.state) ?_
        simp only [callbackResult, hHistory]
        exact fun hFalse => ⟨hFalse, hKeeps.stopReason⟩

/-- Steps that touch neither reason nor state explain Finished as before. -/
theorem Explained.other (h : c.Explained)
    (hState : c'.world.state = c.world.state ∨ c'.world.state ≠ .finished)
    (hReason : c'.world.stopReason = c.world.stopReason)
    (hEntered : c'.world.history.enteredBy = c.world.history.enteredBy) : c'.Explained := by
  intro hFinished
  rcases hState with hSame | hNot
  · rw [hEntered, hReason]
    exact h (hSame ▸ hFinished)
  · exact absurd hFinished hNot

theorem keepsReason_of_not (hClears : ¬ c.ClearsReason action)
    (hEnters : ¬ c.EntersFinished action) : KeepsReason (c, action) :=
  ⟨fun h => absurd h hClears, fun h => absurd h hEnters⟩

theorem control_explained {ans : Answer} {request : Request} {pc : CallPc} (h : c.Reasoned)
    (hGood : c.Explained) (hBusy : c.call = .busy request pc)
    (hStep : callStep env ans c request pc = .next c') :
    c'.Explained ↔ KeepsReason (c, .control ans) := by
  by_cases hClears : pc = .start .clearReason ∨ pc = .control .clearReason
  · have hWorld : c'.world = c.world.clearReason := by
      rcases hClears with rfl | rfl
      · obtain rfl := Outcome.next.inj hStep
        rfl
      · obtain rfl := Outcome.next.inj hStep
        rfl
    have hCleared : c.ClearsReason (.control ans) := by
      refine ⟨request, ?_⟩
      rw [hBusy]
      exact hClears.imp (fun hPc => by rw [hPc]) (fun hPc => by rw [hPc])
    constructor
    · intro hExplained
      refine ⟨fun _ hFinished => ?_, fun hEnters => hEnters.elim⟩
      have hNone := (hExplained (by rw [hWorld]; exact hFinished)).2
      exact hNone (by rw [hWorld]; rfl)
    · intro hKeeps hFinished
      rw [hWorld] at hFinished
      exact absurd hFinished (hKeeps.1 hCleared)
  · have hMove := (callStep_steps hStep).move
    refine iff_of_true ?_ (keepsReason_of_not ?_ id)
    · rcases control_reason hMove with ⟨hReason, _, hEntered⟩ | ⟨hPc, _⟩ | ⟨hPc, hWorld⟩
      · exact hGood.other hMove.state hReason hEntered
      · exact absurd hPc hClears
      · intro hFinished
        have hCall := h.agree.call
        rw [hBusy, hPc] at hCall
        have hIdle : c.world.state = .idle := hCall.1.state
        rw [hWorld] at hFinished
        change c.world.state = .finished at hFinished
        rw [hIdle] at hFinished
        cases hFinished
    · rintro ⟨request', hPc⟩
      rw [hBusy] at hPc
      refine hClears (hPc.imp (fun hPc => ?_) fun hPc => ?_)
      · cases hPc
        rfl
      · cases hPc
        rfl

/-- The second store of a `FinishOnItsOwn` that succeeds: the reason the first one has
stored is there unless a Start call has cleared it. -/
theorem explained_entered {ans : Answer} {reason : StopReason} (h : c.Reasoned)
    (hEnters : c.EntersFinished (.worker ans)) (hState : c'.world.state = .finished)
    (hEntered : c'.world.history.enteredBy = some reason) (hSame : c'.world.stopReason = c.world.stopReason)
    (hNone : reason ≠ .none) (hStored : c.world.history.reasonCleared = false → c.world.stopReason = reason) :
    c'.Explained ↔ KeepsReason (c, .worker ans) := by
  constructor
  · intro hExplained
    refine ⟨fun hClears => hClears.elim, fun _ => ?_⟩
    by_contra hCleared
    rw [Bool.not_eq_false] at hCleared
    apply (hExplained hState).2
    rw [hSame]
    exact h.cleared hCleared
  · intro hKeeps _
    rw [hEntered, hSame, hStored (hKeeps.2 hEnters)]
    exact ⟨rfl, hNone⟩

theorem capture_explained {ans : Answer} {pc : CapturePc} {l : CaptureLocals} {w' : World}
    {t : CaptureThread} (h : c.Reasoned) (hGood : c.Explained) (hThread : c.worker = .capture pc l)
    (hMove : CaptureMove env ans c.clock c.world l pc w' t) :
    (c.captureResult (w', t)).Explained ↔ KeepsReason (c, .worker ans) := by
  have hReason := h.worker
  unfold WorkerReason at hReason
  rw [hThread] at hReason
  rcases hMove.state_cases with ⟨hState, hEntered, hNotExchange⟩ | ⟨reason, resume, rfl, hState, rfl, _⟩
  · refine iff_of_true ?_ (keepsReason_of_not id ?_)
    · rcases hMove.stopReason with ⟨hSame, _⟩ | ⟨reason, resume, rfl, rfl⟩ | ⟨resume, rfl, rfl⟩
      · exact hGood.other (Or.inl hState) hSame hEntered
      · exact fun hFinished => (hReason.quiet hFinished).elim
      · exact fun hFinished => (hReason.quiet hFinished).elim
    · rintro (⟨reason, resume, l', hPc, hCapturing⟩ | ⟨l', hPc, _⟩)
      · rw [hThread] at hPc
        cases hPc
        exact hNotExchange ⟨hCapturing, reason, resume, rfl⟩
      · rw [hThread] at hPc
        cases hPc
  · obtain ⟨hNone, hStored⟩ := hReason.stored reason resume rfl
    have hEnters : c.EntersFinished (.worker ans) := Or.inl ⟨reason, resume, l, hThread, hState⟩
    exact explained_entered h hEnters rfl rfl rfl hNone hStored

theorem record_explained {ans : Answer} {pc : RecordPc} {l : RecordLocals} {w' : World}
    {t : RecordThread} (h : c.Reasoned) (hGood : c.Explained) (hThread : c.worker = .record pc l)
    (hMove : RecordMove env ans c.clock c.world l pc w' t) :
    (c.recordResult (w', t)).Explained ↔ KeepsReason (c, .worker ans) := by
  have hReason := h.worker
  unfold WorkerReason at hReason
  rw [hThread] at hReason
  rcases hMove.state_cases with ⟨hState, hEntered, hNotExchange⟩ | ⟨rfl, hState, rfl, _⟩
  · refine iff_of_true ?_ (keepsReason_of_not id ?_)
    · rcases hMove.stopReason with ⟨hSame, _⟩ | ⟨rfl, rfl⟩ | ⟨rfl, rfl⟩
      · exact hGood.other (Or.inl hState) hSame hEntered
      · exact fun hFinished => (hReason.quiet hFinished).elim
      · exact fun hFinished => (hReason.quiet hFinished).elim
    · rintro (⟨_, _, l', hPc, _⟩ | ⟨l', hPc, hRecording⟩)
      · rw [hThread] at hPc
        cases hPc
      · rw [hThread] at hPc
        cases hPc
        exact hNotExchange ⟨hRecording, rfl⟩
  · have hEnters : c.EntersFinished (.worker ans) := Or.inr ⟨l, hThread, hState⟩
    exact explained_entered h hEnters rfl rfl rfl nofun (hReason.stored rfl)

/-- One step: Finished is explained after it exactly if it keeps the reason. -/
theorem explained_step (h : c.Reasoned) (hGood : c.Explained)
    (hStep : c.step env action = some c') : c'.Explained ↔ KeepsReason (c, action) := by
  cases step_move hStep with
  | begin | deliver | tick | setOptions | takeError =>
      exact iff_of_true (hGood.other (Or.inl rfl) rfl rfl) (keepsReason_of_not id id)
  | control busy step => exact control_explained h hGood busy step
  | capture thread move => exact capture_explained h hGood thread move
  | record thread move => exact record_explained h hGood thread move
  | callback thread move =>
      have hKeeps := move.keeps
      obtain ⟨reported, accepted, hHistory⟩ := hKeeps.history
      refine iff_of_true (hGood.other (Or.inl hKeeps.state) hKeeps.stopReason ?_)
        (keepsReason_of_not id id)
      simp only [callbackResult, hHistory]

/-- In a run, whoever sees Finished also sees why in every state exactly if no
Start call stores None in Finished, or between the reason of a
`FinishOnItsOwn` and the exchange with which it succeeds. -/
theorem finished_is_explained_iff (env : Environment) {log : List (Config × Action)} {finish : Config}
    (run : Runs (Config.step env) {} log finish) :
    ((∀ entry ∈ log, entry.1.Explained) ∧ finish.Explained) ↔
      ∀ entry ∈ log, KeepsReason entry :=
  run.always_iff Reasoned Explained KeepsReason reasoned_initial
    (fun _ _ _ hReasoned hStep => hReasoned.step hStep) (fun hFinished => by cases hFinished)
    (fun _ _ _ hReasoned hGood hStep => explained_step hReasoned hGood hStep)

/-- A recording that runs to the end of its one-frame file. -/
def recordToEnd : List Action :=
  perform .buildRecording 17 ++ receive 400 ++ [.deliver .endOfStream, .callback] ++ work 4 ++
    perform .startRecording 3 ++ work 10

/-- It ends in Finished, and keeps its reason at every step. -/
theorem finished_is_explained_recording :
    ∃ log finish, Runs (Config.step .plain) {} log finish ∧ finish.world.state = .finished ∧
      ∀ entry ∈ log, KeepsReason entry := by
  obtain ⟨log, finish, run, hTest⟩ := exec_witness (Config.step .plain) {} recordToEnd
    (fun log c => c.world.state == .finished && log.all (fun entry => decide entry.1.Explained) &&
      decide c.Explained) (by decide +kernel)
  simp only [Bool.and_eq_true, beq_iff_eq, List.all_eq_true, decide_eq_true_eq] at hTest
  exact ⟨log, finish, run, hTest.1.1,
    (finished_is_explained_iff .plain run).mp ⟨hTest.1.2, hTest.2⟩⟩

/-- Another `StartRecording` in Finished takes the reason away. -/
theorem finished_without_reason :
    ¬ ∀ c, Reachable (Config.step .plain) {} c → c.world.state = .finished →
      c.world.history.enteredBy = some c.world.stopReason ∧ c.world.stopReason ≠ .none := by
  intro hExplained
  obtain ⟨log, c, run, hTest⟩ := exec_witness (Config.step .plain) {}
    (recordToEnd ++ perform .startRecording 1)
    (fun _ c => c.world.state == .finished && c.world.stopReason == .none) (by decide +kernel)
  simp only [Bool.and_eq_true, beq_iff_eq] at hTest
  exact (hExplained c ⟨log, run⟩ hTest.1).2 hTest.2

end Config

end WinDV
