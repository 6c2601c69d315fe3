import WinDV.Engine.Alive

/-! What a Start call stores before it sets Capturing, and what the capture in
progress therefore goes by. -/
namespace WinDV

open Transition

namespace Config

variable {env : Environment} {c c' : Config} {action : Action}

/-- What a Start call has stored when it is about to set Capturing. -/
structure Stored (c : Config) : Prop where
  target : ∀ request pc, c.call = .busy request (.start pc) →
    pc = .storeCaptureTime ∨ pc = .storeState →
    c.world.target = request.startArgs.target (c.world.history.captures + 1)
  limit : ∀ request, c.call = .busy request (.start .storeState) →
    c.world.captureTime = 0 ∨ c.world.captureTime = request.startArgs.captureTime

/-- What the capture in progress goes by is what its Start call has stored. -/
structure StartKept (c : Config) : Prop where
  agree : c.Agree
  stored : c.Stored
  numbered : c.world.history.captureOf.session = c.world.history.captures
  target : c.world.state = .capturing → c.world.target = c.world.history.captureOf
  limit : c.world.state = .capturing →
    c.world.captureTime = 0 ∨ c.world.captureTime = c.world.history.requested

theorem startKept_initial : ({} : Config).StartKept where
  agree := agree_initial
  stored := ⟨by simp, by simp⟩
  numbered := rfl
  target := by simp
  limit := by simp

/-- The limit has just been stored when a Start call comes to set Capturing. -/
theorem callStep_storeState {ans : Answer} {request next : Request} {pc : CallPc}
    (hStep : callStep env ans c request pc = .next c') (hCall : c'.call = .busy next (.start .storeState)) :
    c'.world.captureTime = next.startArgs.captureTime := by
  obtain ⟨before, rfl, hStart⟩ := callStep_start hStep hCall
  cases before with
  | storeCaptureTime =>
      obtain rfl := Outcome.next.inj hStart
      cases hCall
      rfl
  | ctrlPlay =>
      obtain rfl := command_next hStart
      cases hCall
  | clearReason | storeState | storeTarget =>
      obtain rfl := Outcome.next.inj hStart
      cases hCall
  | _ =>
      obtain rfl := Outcome.next.inj hStart
      split_ifs at hCall <;> cases hCall

/-- The steps of a Start call between which the target and the limit are stored. -/
theorem Stored.control {ans : Answer} {request : Request} {pc : CallPc} (h : c.Stored)
    (hBusy : c.call = .busy request pc) (hStep : callStep env ans c request pc = .next c') :
    c'.Stored := by
  constructor
  · intro next startPc hCall hPc
    obtain ⟨before, rfl, hStart⟩ := callStep_start hStep hCall
    cases before with
    | storeTarget =>
        obtain rfl := Outcome.next.inj hStart
        cases hCall
        rfl
    | storeCaptureTime =>
        obtain rfl := Outcome.next.inj hStart
        cases hCall
        exact h.target request _ hBusy (Or.inl rfl)
    | ctrlPlay =>
        obtain rfl := command_next hStart
        cases hCall
    | clearReason | storeState =>
        obtain rfl := Outcome.next.inj hStart
        cases hCall
        simp at hPc
    | _ =>
        obtain rfl := Outcome.next.inj hStart
        split_ifs at hCall <;> cases hCall
        simp at hPc
  · exact fun next hCall => Or.inr (callStep_storeState hStep hCall)

theorem Stored.keep (h : c.Stored) (hCall : c'.call = c.call) (hTarget : c'.world.target = c.world.target)
    (hCaptures : c'.world.history.captures = c.world.history.captures)
    (hLimit : c'.world.captureTime = c.world.captureTime ∨ c'.world.captureTime = 0) : c'.Stored where
  target := fun request pc hBusy hPc => by
    rw [hTarget, hCaptures]
    exact h.target request pc (hCall.symm.trans hBusy) hPc
  limit := fun request hBusy => by
    rcases hLimit with hLimit | hLimit
    · rw [hLimit]
      exact h.limit request (hCall.symm.trans hBusy)
    · exact Or.inl hLimit

theorem Stored.step (h : c.Stored) (hStep : c.step env action = some c') : c'.Stored := by
  cases step_move hStep with
  | @begin request free =>
      constructor
      · intro next pc hCall hPc
        cases request <;> cases hCall <;> simp at hPc
      · intro next hCall
        cases request <;> cases hCall
  | control busy step => exact h.control busy step
  | capture thread move => exact h.keep rfl move.keeps.target move.keeps.captures move.captureTime
  | record thread move =>
      exact h.keep rfl move.keeps.target move.keeps.captures (Or.inl move.captureTime)
  | callback thread move =>
      exact h.keep rfl move.keeps.target move.keeps.capture.1 (Or.inl move.keeps.captureTime)
  | deliver | tick | setOptions | takeError => exact h.keep rfl rfl rfl (Or.inl rfl)

theorem StartKept.step (h : c.StartKept) (hStep : c.step env action = some c') : c'.StartKept := by
  have hAgree := h.agree.step hStep
  have hStored := h.stored.step hStep
  rcases h.agree.capture_begins hStep with
    ⟨ans, request, rfl, hBusy, -, hWorld, -⟩ | ⟨hCaptures, hCaptureOf, hRequested, hCapture⟩
  · refine ⟨hAgree, hStored, ?_, fun _ => ?_, fun _ => ?_⟩
    · rw [hWorld]
      rfl
    · rw [hWorld]
      exact h.stored.target request .storeState hBusy (Or.inr rfl)
    · rw [hWorld]
      exact h.stored.limit request hBusy
  · refine ⟨hAgree, hStored, ?_, fun hState => ?_, fun hState => ?_⟩
    · rw [hCaptures, hCaptureOf]
      exact h.numbered
    · obtain ⟨hBefore, hTarget, -⟩ := hCapture hState
      rw [hTarget, hCaptureOf]
      exact h.target hBefore
    · obtain ⟨hBefore, -, hLimit⟩ := hCapture hState
      rcases hLimit with hLimit | hLimit
      · rw [hLimit, hRequested]
        exact h.limit hBefore
      · exact Or.inl hLimit

/-- While a capture is in progress, the capture thread satisfies a property. -/
def DuringCapture (P : World → Nat → CaptureLocals → CapturePc → Prop) (c : Config) : Prop :=
  c.world.state = .capturing → ∀ pc l, c.worker = .capture pc l → P c.world c.clock l pc

/-- A property of the capture thread that a Start call establishes, the thread
itself keeps and the other threads do not disturb. -/
theorem StartKept.during_step {P : World → Nat → CaptureLocals → CapturePc → Prop} (h : c.StartKept)
    (hStep : c.step env action = some c') (hBefore : c.DuringCapture P)
    (hStart : ∀ ans request, action = .control ans → c.call = .busy request (.start .storeState) →
      ∀ pc l, c.worker = .capture pc l → P (c.world.beginCapture request.startArgs) c.clock l pc)
    (hMove : ∀ ans w' pc l pc' l', action = .worker ans → c.world.state = .capturing →
      w'.state = .capturing → c.worker = .capture pc l → CaptureMove env ans c.clock c.world l pc w' (some (pc', l')) →
      P c.world c.clock l pc → P w' c.clock l' pc')
    (hOther : ∀ w' clock pc l, c.world.state = .capturing → w'.state = .capturing →
      c.Interferes action w' → c.clock ≤ clock → P c.world c.clock l pc → P w' clock l pc) :
    c'.DuringCapture P := by
  intro hState pc l hThread
  rcases h.agree.capture_begins hStep with
    ⟨ans, request, hAction, hBusy, -, hWorld, hWorker⟩ | ⟨-, -, -, hCapture⟩
  · have hClock : c'.clock = c.clock := by
      subst hAction
      cases step_move hStep with
      | control busy step => exact (callStep_steps step).clock
    rw [hWorld, hClock]
    exact hStart ans request hAction hBusy pc l (hWorker.symm.trans hThread)
  · obtain ⟨hCapturing, -, -⟩ := hCapture hState
    rcases h.agree.capture_from hStep hThread with ⟨before, l', hThread'⟩ | ⟨-, hPaused, -⟩
    · have hOld := hBefore hCapturing before l' hThread'
      rcases h.agree.capture_cases hThread' hStep with
        ⟨ans, w', t, rfl, move, rfl⟩ | ⟨hSame, hInterferes, -⟩
      · cases t with
        | none => cases hThread
        | some next =>
            cases hThread
            exact hMove ans w' before l' _ _ rfl hCapturing hState hThread' move hOld
      · rw [hThread] at hSame
        cases hSame
        exact hOther _ _ _ _ hCapturing hState hInterferes (clock_le hStep) hOld
    · rw [hCapturing] at hPaused
      cases hPaused

end Config

end WinDV
