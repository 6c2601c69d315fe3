import WinDV.Engine.Pipeline

/-! What a Build call that throws leaves behind. Up to the store of the paused
state it leaves the engine idle; after it, a later Start call finds a pipeline
with no worker. -/
namespace WinDV

open Transition

/-- The calls that start a capture or a recording. -/
def Request.isStart : Request → Bool
  | .startCapturing _ | .captureStart _ _ _ _ | .startRecording => true
  | _ => false

/-- A step of the controlling thread that only makes Start calls. -/
def Action.StartsOnly : Action → Prop
  | .begin request => request.isStart = true
  | .control _ => True
  | _ => False

namespace Config

/-- The engine is idle, and Start calls, however many, change no member. -/
def LeftIdle (env : Environment) (c : Config) : Prop :=
  c.world.state = .idle ∧ ∀ log c', Runs (Config.step env) c log c' →
    (∀ entry ∈ log, entry.2.StartsOnly) → c'.world = { c.world with history := c'.world.history }

/-- Inside a Build call there is no reason to stop: `Destroy` has reset it. -/
def NoReason (c : Config) : Prop :=
  ∀ request pc, c.call = .busy request (.build pc) → c.world.stopReason = .none

variable {env : Environment} {ans : Answer} {c c' : Config} {request : Request}

theorem NoReason.step {action : Action} (hAgree : c.Agree) (h : c.NoReason)
    (hStep : c.step env action = some c') : c'.NoReason := by
  intro request pc hCall
  cases step_move hStep with
  | @begin request' free =>
      cases request' <;> simp [goto, Request.entry] at hCall
  | control busy step =>
      have hMove := (callStep_steps step).move
      rcases callStep_build step hCall with rfl | ⟨old, rfl⟩
      · have hWorld : c'.world = c.world.clearStatus := by
          obtain rfl := Outcome.next.inj step
          split_ifs <;> rfl
        rw [hWorld]
        rfl
      · have hOld := h _ _ busy
        generalize c'.world = w' at hMove ⊢
        generalize c'.worker = t' at hMove
        cases hMove with
        | clearReason => rfl
        | _ => exact hOld
  | capture thread =>
      rw [hAgree.build_absent hCall] at thread
      cases thread
  | record thread =>
      rw [hAgree.build_absent hCall] at thread
      cases thread
  | callback thread move => exact move.keeps.stopReason.trans (h _ _ hCall)
  | deliver | tick | setOptions | takeError => exact h _ _ hCall

/-- The steps a Start call takes in Idle. -/
def AtIdleStart : Call → Prop
  | .ready | .exited _ _ => True
  | .busy _ (.start .checkArgument) | .busy _ (.start .readReady) | .busy _ (.start .readPaused)
  | .busy _ (.control .clearReason) | .busy _ (.control .startRecording) => True
  | _ => False

/-- In Idle, and with no reason to clear, Start calls have nothing to do. -/
theorem idle_start_step {w : World} {action : Action} (hIdle : w.state = .idle)
    (hReason : w.stopReason = .none) (hWorld : c.world = { w with history := c.world.history })
    (hCall : AtIdleStart c.call) (hStarts : action.StartsOnly) (hStep : c.step env action = some c') :
    c'.world = { w with history := c'.world.history } ∧ AtIdleStart c'.call := by
  have hState : c.world.state = .idle := by rw [hWorld, hIdle]
  cases step_move hStep with
  | @begin request free =>
      refine ⟨hWorld, ?_⟩
      cases request with
      | startCapturing | captureStart | startRecording => trivial
      | _ => cases hStarts
  | @control ans request pc _ busy step =>
      rw [busy] at hCall
      cases pc with
      | destroy pc => exact hCall.elim
      | build pc => exact hCall.elim
      | start pc =>
          cases pc with
          | checkArgument =>
              obtain rfl := Outcome.next.inj step
              split_ifs
              · exact ⟨hWorld, trivial⟩
              · exact ⟨hWorld, trivial⟩
          | readReady | readPaused =>
              obtain rfl := Outcome.next.inj step
              rw [hState, if_neg (by decide)]
              exact ⟨hWorld, trivial⟩
          | _ => exact hCall.elim
      | control pc =>
          cases pc with
          | clearReason =>
              obtain rfl := Outcome.next.inj step
              refine ⟨?_, trivial⟩
              simp only [goto, World.clearReason]
              rw [hWorld, hReason]
          | startRecording =>
              obtain rfl := Outcome.next.inj step
              rw [hState, if_neg (by decide)]
              exact ⟨hWorld, trivial⟩
          | _ => exact hCall.elim
  | capture | record | deliver | callback | tick | setOptions | takeError => exact hStarts.elim

theorem leftIdle_of {request : Request} {result : Result} (hIdle : c.world.state = .idle)
    (hReason : c.world.stopReason = .none) (hCall : c.call = .exited request result) :
    c.LeftIdle env := by
  refine ⟨hIdle, fun log c' run hStarts => ?_⟩
  have hInv := run.invariant_of (fun entry => entry.2.StartsOnly)
    (fun d => d.world = { c.world with history := d.world.history } ∧ AtIdleStart d.call)
    ⟨rfl, by rw [hCall]; trivial⟩
    (fun s a t hs hMeets hStep => idle_start_step hIdle hReason hs.1 hs.2 hMeets hStep) hStarts
  exact hInv.1

/-- A step that throws changes nothing but the call, and perhaps what the
source graph has begun. -/
theorem attempt_throws {failure : Option WString} {success : Config} {message : WString}
    (hThrows : (c.attempt request failure success).call = .exited request (.failed message))
    (hSuccess : success.call ≠ .exited request (.failed message)) :
    (c.attempt request failure success).world = c.world := by
  rcases attempt_cases c request failure success with ⟨_, _, hExit⟩ | ⟨_, hNext⟩
  · rw [hExit]
    rfl
  · rw [hNext] at hThrows
    exact absurd hThrows hSuccess

theorem build_throws {pc : BuildPc} {message : WString} (h : buildStep ans c request pc = .next c')
    (hThrows : c'.call = .exited request (.failed message)) : c'.world = c.world := by
  cases pc with
  | takeError | setPaused =>
      obtain rfl := Outcome.next.inj h
      simp [goto] at hThrows
  | openSource | createMonitor | openOutput | createQueue | startWorker =>
      obtain rfl := Outcome.next.inj h
      exact attempt_throws hThrows (by simp [goto, exit])
  | getMediaType =>
      simp only [buildStep] at h
      split_ifs at h
      all_goals
        obtain rfl := Outcome.next.inj (Outcome.require_next.mp h).2
        exact attempt_throws hThrows (by simp [goto])
  | runSource =>
      simp only [buildStep] at h
      split_ifs at h
      all_goals
        obtain rfl := Outcome.next.inj (Outcome.require_next.mp h).2
        exact attempt_throws hThrows (by simp [goto])
  | recPause =>
      rw [command_next h] at hThrows
      simp [goto] at hThrows

theorem pausedState_ne_idle (request : Request) : request.pausedState ≠ .idle := by
  unfold Request.pausedState
  split_ifs <;> simp

/-- A Build call that throws leaves the engine idle, so that Start calls change
nothing, exactly if the step that throws comes before the store of the paused
state: running the source and starting the worker come after it. -/
theorem failed_build_leaves_idle_iff (env : Environment) {c c' : Config} {request : Request}
    {pc : BuildPc} {ans : Answer} {message : WString} (h : Reachable (Config.step env) {} c)
    (hBusy : c.call = .busy request (.build pc)) (hStep : c.step env (.control ans) = some c')
    (hThrows : c'.call = .exited request (.failed message)) :
    c'.LeftIdle env ↔ pc ≠ .runSource ∧ pc ≠ .startWorker := by
  have hBoth : c.Agree ∧ c.NoReason :=
    h.invariant (fun d => d.Agree ∧ d.NoReason) ⟨agree_initial, by intro _ _ hCall; cases hCall⟩
      fun s a t hs hStep => ⟨hs.1.step hStep, hs.2.step hs.1 hStep⟩
  obtain ⟨hAgree, hNoReason⟩ := hBoth
  have hReason : c.world.stopReason = .none := hNoReason request pc hBusy
  have hCall := hAgree.call
  rw [hBusy] at hCall
  have step : buildStep ans c request pc = .next c' := by
    have hOutcome := step_iff.mp hStep
    simpa only [outcome, hBusy, callStep] using hOutcome
  have hWorld := build_throws step hThrows
  have hBefore : c.world.state = .idle → c'.LeftIdle env := fun hIdle =>
    leftIdle_of (by rw [hWorld, hIdle]) (by rw [hWorld, hReason]) hThrows
  have hAfter : c.world.state = request.pausedState → ¬ c'.LeftIdle env := fun hPaused hLeft =>
    pausedState_ne_idle request (by rw [← hPaused, ← hWorld, hLeft.1])
  cases pc with
  | runSource => exact iff_of_false (hAfter hCall.1) (by simp)
  | startWorker => exact iff_of_false (hAfter hCall.1) (by simp)
  | recPause =>
      rw [command_next step] at hThrows
      simp [goto] at hThrows
  | _ => exact iff_of_true (hBefore hCall.1.state) (by simp)

/-- A device that cannot be opened, in the first build. -/
theorem failed_build_leaves_idle_no_device :
    ∃ c c', Reachable (Config.step .plain) {} c ∧
      c.call = .busy .buildCapturing (.build .openSource) ∧
      c.step .plain (.control { failure := some (wide "not found") }) = some c' ∧
      c'.LeftIdle .plain := by
  obtain ⟨log, c, run, hTest⟩ := exec_witness (Config.step .plain) {} (perform .buildCapturing 8)
    (fun _ c => c.call == .busy .buildCapturing (.build .openSource)) (by decide +kernel)
  have hBusy : c.call = .busy .buildCapturing (.build .openSource) := by simpa using hTest
  have hStep : c.step .plain (.control { failure := some (wide "not found") }) =
      some (c.exit .buildCapturing (.failed (wide "not found"))) := by
    simp [Config.step, outcome, hBusy, callStep, buildStep, attempt]
  exact ⟨c, _, ⟨log, run⟩, hBusy, hStep,
    (failed_build_leaves_idle_iff .plain ⟨log, run⟩ hBusy hStep rfl).mpr (by simp)⟩

/-- A source graph that does not run: the call has thrown, and a `StartCapturing`
after it enters Capturing on a pipeline with no worker. -/
theorem failed_build_starts :
    ¬ ∀ c, Reachable (Config.step .plain) {} c → ∀ request message,
      (request = .buildCapturing ∨ request = .buildRecording) →
      c.call = .exited request (.failed message) → ∀ log c', Runs (Config.step .plain) c log c' →
        (∀ entry ∈ log, entry.2.StartsOnly) →
        ¬ (c'.world.state = .capturing ∧ c'.worker.isAbsent = true) := by
  intro hNothing
  obtain ⟨log, c, log', c', run, run', hActions, hTest⟩ := exec_witness_then (Config.step .plain) {}
    (perform .buildCapturing 13 ++ [.control { failure := some (wide "busy") }])
    (perform (.startCapturing ⟨wide "tape", [], 0, 0⟩) 7)
    (fun c _ c' => c.call == .exited .buildCapturing (.failed (wide "busy")) &&
      (c'.world.state == .capturing && c'.worker.isAbsent)) (by decide +kernel)
  simp only [Bool.and_eq_true, beq_iff_eq] at hTest
  refine hNothing c ⟨log, run⟩ _ _ (Or.inl rfl) hTest.1 log' c' run' (fun entry hEntry => ?_) hTest.2
  have hAction := hActions ▸ List.mem_map_of_mem (f := Prod.snd) hEntry
  rcases List.mem_cons.mp hAction with hBegin | hControl
  · rw [hBegin]
    rfl
  · rw [(List.mem_replicate.mp hControl).2]
    trivial

end Config

end WinDV
