import WinDV.Engine.EndedFile
import WinDV.Engine.InitialStatus
import WinDV.Engine.StartCall
import WinDV.Engine.SplitRuns
import WinDV.Engine.TimedCapture

/-! A pipeline in which no capture has begun yet. Its worker opens no file and
keeps the counters at zero, so a Start call that sets Capturing finds nothing
of an earlier capture but the frame in hand. -/
namespace WinDV

open Transition Segmentation

/-- The steps of the capture loop from a `GetFor` to the test for the write. -/
def CapturePc.undecided : CapturePc → Bool
  | .readClock | .readState | .newWatch | .newFile | .frameSeen | .preview | .readDiskState | .checkDisk
  | .readWriteState => true
  | _ => false

/-- The capture thread before the first capture, by pc. -/
def FreshPhase (w : World) (l : CaptureLocals) : CapturePc → Prop
  | .getMediaType | .readDropped | .clearCounter | .afterLoop | .report _ | .releaseWriter
  | .notifyStopped => True
  | .clearTime => w.counter = 0
  | .loopHead | .getFrame | .closeFile | .rereadDropped | .readFinished | .resetCounts => w.Tallied []
  | .noFrame => w.Tallied [] ∧ l.capturing = false
  | .readClock | .readState | .frameSeen => w.Tallied [] ∧ ∃ pending, InHandOr w l pending
  | .preview | .readDiskState | .readWriteState => w.Tallied [] ∧ ∃ frame, Holding w l frame
  | _ => False

section Thread

variable {env : Environment} {ans : Answer} {clock : Nat} {w w' : World} {l : CaptureLocals}
  {pc : CapturePc} {t : CaptureThread}

theorem FreshPhase.same (h : FreshPhase w l pc) (hCounter : w'.counter = w.counter)
    (hTime : w'.time = w.time) (hHolding : ∀ frame, Holding w l frame → Holding w' l frame) :
    FreshPhase w' l pc := by
  have hTallied : w.Tallied [] → w'.Tallied [] := fun hTallied => hTallied.same hCounter hTime
  cases pc with
  | getMediaType | readDropped | clearCounter | afterLoop | report | releaseWriter | notifyStopped =>
      trivial
  | clearTime => exact hCounter.trans h
  | loopHead | getFrame | closeFile | rereadDropped | readFinished | resetCounts => exact hTallied h
  | noFrame => exact ⟨hTallied h.1, h.2⟩
  | readClock | readState | frameSeen =>
      obtain ⟨hNone, pending, hPending⟩ := h
      refine ⟨hTallied hNone, pending, hPending.imp_right ?_⟩
      rintro ⟨frame, hOne, hHeld⟩
      exact ⟨frame, hOne, hHolding frame hHeld⟩
  | preview | readDiskState | readWriteState =>
      obtain ⟨hNone, frame, hHeld⟩ := h
      exact ⟨hTallied hNone, frame, hHolding frame hHeld⟩
  | _ => exact h.elim

theorem InHandOr.holding {pending : List Frame} (h : InHandOr w l pending) (hFrame : l.frame ≠ none) :
    ∃ frame, Holding w l frame := by
  rcases h with ⟨hNone, -⟩ | ⟨frame, -, hHolding⟩
  · exact absurd hNone hFrame
  · exact ⟨frame, hHolding⟩

/-- A step of the capture thread outside a capture. -/
theorem CaptureMove.fresh (h : CaptureMove env ans clock w l pc w' t) (valid : w.QueueValid)
    (hState : w.state ≠ .capturing) (hNone : w.aviWriter = none) (hPhase : FreshPhase w l pc) :
    w'.aviWriter = none ∧ ∀ pc' l', t = some (pc', l') → FreshPhase w' l' pc' := by
  have hNext : ∀ {next : CapturePc} {l' : CaptureLocals}, FreshPhase w' l' next →
      ∀ pc' l'', some (next, l') = some (pc', l'') → FreshPhase w' l'' pc' := by
    rintro next l' hFresh _ _ ⟨⟩
    exact hFresh
  cases h with
  | throws => exact ⟨hNone, hNext trivial⟩
  | finishThrows => exact ⟨w.finishWriter_aviWriter env ans, hNext trivial⟩
  | finishes goesOn =>
      refine ⟨w.finishWriter_aviWriter env ans, hNext ?_⟩
      obtain ⟨-, -, hCounter, hTime⟩ := w.finishWriter_counts env ans
      cases pc with
      | closeFile =>
          cases goesOn
          exact World.Tallied.same hPhase hCounter hTime
      | afterLoop =>
          cases goesOn
          trivial
      | signalLost | diskFull => exact hPhase.elim
      | _ => cases goesOn
  | getMediaType | readDropped | leaveLoop | breakLoop | report => exact ⟨hNone, hNext trivial⟩
  | clearCounter => exact ⟨hNone, hNext rfl⟩
  | clearTime => exact ⟨hNone, hNext ⟨hPhase, rfl⟩⟩
  | stayInLoop | rereadDropped | dropCounts | keepCounts => exact ⟨hNone, hNext hPhase⟩
  | timeOut => exact ⟨hNone, hNext ⟨hPhase, [], Or.inl ⟨rfl, rfl⟩⟩⟩
  | takeFrame isSet =>
      have hTallied : w.Tallied [] := hPhase
      exact ⟨hNone, hNext ⟨hTallied.same, _, Or.inr ⟨_, rfl, valid.holding isSet⟩⟩⟩
  | readClock =>
      obtain ⟨hTallied, pending, hPending⟩ := hPhase
      exact ⟨hNone, hNext ⟨hTallied, pending, hPending.same⟩⟩
  | noticeCapture capturing | countToDiskCheck capturing | dueDiskCheck capturing | capture capturing =>
      exact absurd capturing hState
  | readState =>
      refine ⟨hNone, hNext ?_⟩
      obtain ⟨hTallied, pending, hPending⟩ := hPhase
      unfold CaptureLocals.afterState
      split_ifs
      · exact ⟨hTallied, decide_eq_false hState⟩
      · exact ⟨hTallied, pending, hPending.same⟩
  | noticeLoss _ _ capturing =>
      rw [hPhase.2] at capturing
      cases capturing
  | waitOn => exact ⟨hNone, hNext hPhase.1⟩
  | frameSeen inHand =>
      obtain ⟨hTallied, pending, hPending⟩ := hPhase
      obtain ⟨queue, span, -, hSpan, -⟩ := inHand
      obtain ⟨held, hHolding⟩ := hPending.holding (by simp [hSpan])
      obtain ⟨shown, signal, delta, lastValid, hWorld, hLocals⟩ := frameSeen_eq env w l _
      rw [hWorld, hLocals]
      refine ⟨hNone, ?_⟩
      rintro _ _ ⟨⟩
      exact ⟨hTallied.same, held, hHolding.same rfl rfl⟩
  | preview | skipDiskCheck => exact ⟨hNone, hNext hPhase⟩
  | dontCapture => exact ⟨hNone, hNext hPhase.1⟩
  | resetCounts => exact ⟨hNone, hNext ⟨rfl, rfl⟩⟩
  | releaseWriter => exact ⟨w.finishWriter_aviWriter env ans, hNext trivial⟩
  | notifyStopped => exact ⟨hNone, by simp⟩
  | _ => exact hPhase.elim

end Thread

namespace Config

variable {env : Environment} {c c' : Config} {action : Action} {log : List (Config × Action)}
  {request : Request} {pc : CapturePc} {l : CaptureLocals}

/-- `Destroy`, with which a Build call begins, releases the old pipeline. -/
def ReleasesPipeline (c : Config) : Action → Prop
  | .control _ => ∃ request, c.call = .busy request (.destroy .release)
  | _ => False

/-- The controlling thread is in a call, at this step. -/
def atPc (c : Config) (pc : CallPc) : Bool :=
  match c.call with
  | .busy _ next => next == pc
  | _ => false

theorem atPc_iff {pc : CallPc} : c.atPc pc = true ↔ ∃ request, c.call = .busy request pc := by
  unfold atPc
  cases c.call <;> simp

instance (c : Config) (action : Action) : Decidable (c.ReleasesPipeline action) :=
  match action with
  | .control _ => decidable_of_iff (c.atPc (.destroy .release) = true) atPc_iff
  | .begin _ | .worker _ | .deliver _ | .callback | .tick _ | .setOptions _ | .takeError => .isFalse id

instance (c : Config) (action : Action) : Decidable (c.StartsCapture action) :=
  match action with
  | .control _ => decidable_of_iff (c.atPc (.start .storeState) = true) atPc_iff
  | .begin _ | .worker _ | .deliver _ | .callback | .tick _ | .setOptions _ | .takeError => .isFalse id

/-- No capture has begun since the last release. -/
def NoCaptureYet (log : List (Config × Action)) : Prop :=
  Since (fun entry => entry.1.ReleasesPipeline entry.2) (fun entry => entry.1.StartsCapture entry.2) log

/-- The test for a pipeline whose first call to set Capturing has not done so yet. -/
def noCaptureYet (log : List (Config × Action)) : Bool :=
  (log.any fun entry => entry.1.ReleasesPipeline entry.2) &&
    log.all fun entry => ¬ entry.1.StartsCapture entry.2

theorem NoCaptureYet.of_test (h : noCaptureYet log = true) : NoCaptureYet log := by
  simp only [noCaptureYet, Bool.and_eq_true, List.any_eq_true, List.all_eq_true, decide_eq_true_eq] at h
  obtain ⟨⟨entry, hEntry, hReleases⟩, hNever⟩ := h
  exact Since.of_mem hEntry hReleases hNever

/-- The engine before the first capture of a pipeline. -/
structure Fresh (c : Config) : Prop where
  notCapturing : c.world.state ≠ .capturing
  noFile : c.world.aviWriter = none
  phase : ∀ pc l, c.worker = .capture pc l → FreshPhase c.world l pc
  limit : ∀ request, c.call = .busy request (.start .storeState) →
    c.world.captureTime = request.startArgs.captureTime

/-- The other threads leave the counters of a running capture thread alone. -/
theorem Interferes.counts {w' : World} (h : c.Interferes action w') :
    w'.counter = c.world.counter ∧ w'.time = c.world.time := by
  cases h with
  | callback move => cases move <;> exact ⟨rfl, rfl⟩
  | _ => exact ⟨rfl, rfl⟩

/-- The release itself leaves a fresh engine. -/
theorem Agree.fresh_release (h : c.Agree) (hReleases : c.ReleasesPipeline action)
    (hStep : c.step env action = some c') : c'.Fresh := by
  cases action with
  | control ans =>
      obtain ⟨request, hBusy⟩ := hReleases
      have hStopped : c.view.Stopped := by
        have hCall := h.call
        rw [hBusy] at hCall
        exact hCall
      rw [step_iff] at hStep
      simp only [outcome, hBusy] at hStep
      obtain rfl := Outcome.next.inj hStep
      refine ⟨?_, c.world.finishWriter_aviWriter env ans, ?_, ?_⟩
      · have hIdle : c.world.state = .idle := hStopped.state
        have hSame : (c.world.release env ans).state = c.world.state := c.world.finishWriter_state env ans
        simp [goto, hSame, hIdle]
      · intro pc l hThread
        have hAbsent : c.worker = .absent := isAbsent_iff.mp hStopped.noWorker
        have hNone : c.worker = .capture pc l := hThread
        rw [hAbsent] at hNone
        cases hNone
      · intro next hCall
        cases hCall
  | _ => exact hReleases.elim

/-- Nobody opens a file before the first capture. -/
theorem Fresh.noFile_step (h : c.Fresh) (valid : c.world.QueueValid)
    (hStep : c.step env action = some c') : c'.world.aviWriter = none := by
  cases step_move hStep with
  | control busy step => exact (callStep_steps step).move.aviWriter h.noFile
  | capture thread move => exact (move.fresh valid h.notCapturing h.noFile (h.phase _ _ thread)).1
  | record thread move => exact move.statusKept.2.1.trans h.noFile
  | callback thread move => exact move.keeps.aviWriter.trans h.noFile
  | begin | deliver | tick | setOptions | takeError => exact h.noFile

theorem Fresh.limit_step (h : c.Fresh) (hStep : c.step env action = some c')
    (hCall : c'.call = .busy request (.start .storeState)) :
    c'.world.captureTime = request.startArgs.captureTime := by
  cases step_move hStep with
  | @begin next free => cases next <;> cases hCall
  | control busy step => exact callStep_storeState step hCall
  | @capture ans pc l w' t thread move =>
      have hPc : pc ≠ .clearCaptureTime := by
        rintro rfl
        exact h.phase _ _ thread
      exact (move.captureTime_kept hPc).trans (h.limit request hCall)
  | record thread move => exact move.captureTime.trans (h.limit request hCall)
  | callback thread move => exact move.keeps.captureTime.trans (h.limit request hCall)
  | deliver | tick | setOptions | takeError => exact h.limit request hCall

/-- A step of any thread that does not begin a capture. -/
theorem Fresh.step (h : c.Fresh) (hAgree : c.Agree) (valid : c.world.QueueValid)
    (noStart : ¬ c.StartsCapture action) (hStep : c.step env action = some c') : c'.Fresh where
  notCapturing := by
    rcases hAgree.capture_begins hStep with ⟨ans, request, rfl, hBusy, -⟩ | ⟨-, -, -, hCapturing⟩
    · exact absurd ⟨request, hBusy⟩ noStart
    · exact fun hState => h.notCapturing (hCapturing hState).1
  noFile := h.noFile_step valid hStep
  phase := by
    intro pc' l' hThread'
    rcases hAgree.capture_from hStep hThread' with ⟨pc, l, hThread⟩ | ⟨-, -, rfl, -⟩
    · rcases hAgree.capture_cases hThread hStep with ⟨ans, w', t, rfl, move, rfl⟩ | ⟨hSame, hOther, -⟩
      · apply (move.fresh valid h.notCapturing h.noFile (h.phase pc l hThread)).2
        rw [← captureThread_captureResult c w' t]
        exact captureThread_eq_some.mpr hThread'
      · rw [hSame] at hThread'
        cases hThread'
        obtain ⟨hCounter, hTime⟩ := hOther.counts
        exact (h.phase _ _ hThread).same hCounter hTime fun _ hHolding => hOther.holding valid hHolding
    · trivial
  limit := fun request hCall => h.limit_step hStep hCall

/-- The engine stays fresh until a capture begins. -/
theorem fresh_run (run : Runs (Config.step env) {} log c) (hYet : NoCaptureYet log) :
    c.Sound ∧ c.Fresh := by
  have hInv := run.invariant_since (fun entry => entry.1.ReleasesPipeline entry.2)
    (fun entry => entry.1.StartsCapture entry.2) (fun fresh c => c.Sound ∧ (fresh → c.Fresh))
    ⟨sound_initial, False.elim⟩ ?_
  · exact ⟨hInv.1, hInv.2 hYet⟩
  · rintro fresh s a t ⟨hSound, hFresh⟩ hStep
    refine ⟨hSound.step hStep, ?_⟩
    rintro (hReleases | ⟨hBefore, noStart⟩)
    · exact hSound.agree.fresh_release hReleases hStep
    · exact (hFresh hBefore).step hSound.agree hSound.queue noStart hStep

end Config

end WinDV
