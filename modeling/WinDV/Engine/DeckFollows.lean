import WinDV.Engine.Alive
import WinDV.Engine.Deck
import WinDV.Engine.StopReason

/-! With `m_DVctrl` on the decks follow the pipeline: how each is to stand in a state, and
that it stands so between two calls. -/
namespace WinDV

open Transition

/-- What a control leaves the deck at. -/
def DeckControl.last : DeckControl → EdMode
  | stop => .stop
  | play => .play
  | pause => .freeze
  | record => .record
  | recPause => .recordFreeze

namespace DeckDevice

variable {ed : EdCodes} {d : DeckDevice}

/-- What the pipeline has told the device; the rest is the buttons'. -/
def own (d : DeckDevice) : List EdMode :=
  d.puts.filterMap fun put =>
    match put.sender with
    | .pipeline _ => some put.mode
    | .button _ _ => none

@[simp] theorem control_attached (order : DeckControl) : (d.control order).attached = d.attached := by
  rw [control]
  split_ifs with hAttached
  · rfl
  · rfl

@[simp] theorem command_attached (button : DeckCommand) (mode : Option Int) :
    (d.command ed button mode).attached = d.attached := rfl

theorem control_puts (hAttached : d.attached = true) (order : DeckControl) :
    (d.control order).puts = d.puts ++ order.puts.map fun mode => ⟨mode, .pipeline order⟩ := by
  rw [control, if_pos hAttached]

@[simp] theorem command_own (button : DeckCommand) (mode : Option Int) :
    (d.command ed button mode).own = d.own := by
  rw [own, own, command, List.filterMap_append, List.filterMap_map]
  simp

theorem control_own (hAttached : d.attached = true) (order : DeckControl) :
    (d.control order).own = d.own ++ order.puts := by
  rw [own, own, control_puts hAttached, List.filterMap_append, List.filterMap_map]
  simp

theorem control_own_last (hAttached : d.attached = true) (order : DeckControl) :
    (d.control order).own.getLast? = some order.last := by
  rw [control_own hAttached]
  cases order <;> simp [DeckControl.puts, DeckControl.last]

end DeckDevice

/-- How a deck is to stand in a state. The end of a capture or of a recording changes nothing. -/
def DeckSide.order : DeckSide → EngineState → Option EdMode
  | source, .capturePaused => some .freeze
  | source, .capturing | source, .finished => some .play
  | output, .recordPaused => some .recordFreeze
  | output, .recording | output, .finished => some .record
  | _, _ => none

/-- A state of the one is none of the other, but for the end. -/
theorem DeckSide.order_other {side other : DeckSide} {state : EngineState} {mode : EdMode} (h : other ≠ side)
    (hOrder : side.order state = some mode) (hState : state ≠ .finished) : other.order state = none := by
  cases side <;> cases other <;> cases state <;>
    first | rfl | exact absurd rfl h | exact absurd rfl hState | cases hOrder

/-- The state that a worker can end on its own. -/
def DeckSide.active : DeckSide → EngineState
  | source => .capturing
  | output => .recording

theorem DeckSide.order_active (side : DeckSide) :
    ∃ mode, side.order side.active = some mode ∧ side.order .finished = some mode := by
  cases side with
  | source => exact ⟨.play, rfl, rfl⟩
  | output => exact ⟨.record, rfl, rfl⟩

/-- No device of an earlier pipeline is left, and a new one was told nothing so far. -/
def CallPc.opens : CallPc → Bool
  | .destroy .clearStatus => true
  | .build .runSource | .build .recPause | .build .startWorker => false
  | .build _ => true
  | _ => false

def CallPc.startsWorker : CallPc → Bool
  | .build .startWorker => true
  | _ => false

def Call.tells : Call → Option (DeckSide × DeckControl)
  | .busy _ pc => pc.tells
  | _ => none

def Call.opens : Call → Bool
  | .busy _ pc => pc.opens
  | _ => false

def Call.startsWorker : Call → Bool
  | .busy _ pc => pc.startsWorker
  | _ => false

namespace Decks

variable {env : Environment} {ed : EdCodes} {s s' : Decks}

/-- A pipeline that was not started, or a capture pipeline that has not captured. -/
def Untold (s : Decks) : DeckSide → Prop
  | .source => s.config.world.state = .capturePaused
  | .output =>
      s.config.world.state = .recordPaused ∧ s.config.worker = .absent ∧ s.config.call.startsWorker = false

/-- The deck stands as the state has it. -/
def Stands (s : Decks) (side : DeckSide) : Prop :=
  side.order s.config.world.state = none ∨ (s.device side).own.getLast? = side.order s.config.world.state ∨
    (s.device side).own = [] ∧ s.Untold side

/-- A device that was stopped before it was released. -/
def Stopped (device : DeckDevice) : Prop :=
  device.attached = true → device.puts.getLast? = some ⟨.stop, .pipeline .stop⟩

/-- The decks follow the pipeline. -/
structure Follows (s : Decks) : Prop where
  tells : ∀ side control, s.config.call.tells = some (side, control) →
    side.order s.config.world.state = some control.last
  stands : ∀ side, side.isOpen s.config.pipeline = true → (s.device side).attached = true →
    (∀ control, s.config.call.tells ≠ some (side, control)) → s.Stands side
  opens : s.config.call.opens = true → ∀ side, (s.device side).puts = []
  released : ∀ entry ∈ s.released, Stopped entry.2

/-- While nothing is open, or nothing was started, there is nothing to follow. -/
theorem Follows.idle (hIdle : s'.config.world.state = .idle) (hTells : s'.config.call.tells = none)
    (hOpens : s'.config.call.opens = true → ∀ side, (s'.device side).puts = [])
    (hReleased : ∀ entry ∈ s'.released, Stopped entry.2) : s'.Follows where
  tells := by
    rw [hTells]
    exact fun _ _ => nofun
  stands := by
    intro side _ _ _
    left
    rw [hIdle]
    cases side <;> rfl
  opens := hOpens
  released := hReleased

/-- The same where the call opens nothing. -/
theorem Follows.shut (hIdle : s'.config.world.state = .idle) (hTells : s'.config.call.tells = none)
    (hOpens : s'.config.call.opens = false) (hReleased : ∀ entry ∈ s'.released, Stopped entry.2) :
    s'.Follows := by
  apply Follows.idle hIdle hTells _ hReleased
  rw [hOpens]
  exact nofun

/-- What leaves a device and the state leaves how it stands. -/
theorem Stands.same {side : DeckSide} (h : s.Stands side) (hDevice : s'.device side = s.device side)
    (hState : s'.config.world.state = s.config.world.state) (hWorker : s'.config.worker = s.config.worker)
    (hStarts : side = .output → s'.config.call.startsWorker = false) : s'.Stands side := by
  rcases h with hOrder | hLast | ⟨hOwn, hUntold⟩
  · left
    rw [hState]
    exact hOrder
  · right
    left
    rw [hState, hDevice]
    exact hLast
  · right
    right
    rw [hDevice]
    refine ⟨hOwn, ?_⟩
    cases side with
    | source => exact hState.trans hUntold
    | output => exact ⟨hState.trans hUntold.1, hWorker.trans hUntold.2.1, hStarts rfl⟩

/-- A step that leaves the state and the decks. -/
theorem Follows.pass (h : s.Follows) (hDevice : s'.device = s.device) (hReleased : s'.released = s.released)
    (hPipeline : s'.config.pipeline = s.config.pipeline) (hState : s'.config.world.state = s.config.world.state)
    (hWorker : s'.config.worker = s.config.worker) (hBefore : s.config.call.tells = none)
    (hTells : s'.config.call.tells = none) (hOpens : s'.config.call.opens = true → s.config.call.opens = true)
    (hStarts : s'.config.call.startsWorker = true → s'.config.pipeline.dvOutput = false) : s'.Follows where
  tells := by
    rw [hTells]
    exact fun _ _ => nofun
  stands := by
    intro side hOpen hAttached _
    have hStands : s.Stands side := by
      apply h.stands side
      · rw [← hPipeline]
        exact hOpen
      · rw [← hDevice]
        exact hAttached
      · rw [hBefore]
        exact fun _ => nofun
    apply hStands.same (congrFun hDevice side) hState hWorker
    rintro rfl
    by_contra hStartsWorker
    have hClosed := hStarts (by simpa using hStartsWorker)
    exact absurd hOpen (by simp [DeckSide.isOpen, hClosed])
  opens := by
    intro hOpen
    rw [hDevice]
    exact h.opens (hOpens hOpen)
  released := by
    rw [hReleased]
    exact h.released

/-- The same where the call goes on to open nothing and to start no worker. -/
theorem Follows.quiet (h : s.Follows) (hDevice : s'.device = s.device) (hReleased : s'.released = s.released)
    (hPipeline : s'.config.pipeline = s.config.pipeline) (hState : s'.config.world.state = s.config.world.state)
    (hWorker : s'.config.worker = s.config.worker) (hBefore : s.config.call.tells = none)
    (hTells : s'.config.call.tells = none) (hOpens : s'.config.call.opens = false)
    (hStarts : s'.config.call.startsWorker = false) : s'.Follows := by
  apply h.pass hDevice hReleased hPipeline hState hWorker hBefore hTells
  · rw [hOpens]
    exact nofun
  · rw [hStarts]
    exact nofun

/-- A step that leads to a step that tells a deck something. -/
theorem Follows.turn (h : s.Follows) (hReleased : s'.released = s.released) {side : DeckSide}
    {control : DeckControl} (hTells : s'.config.call.tells = some (side, control))
    (hOrder : side.order s'.config.world.state = some control.last)
    (hState : s'.config.world.state ≠ .finished) (hOpens : s'.config.call.opens = false) : s'.Follows where
  tells := by
    intro other given hGiven
    rw [hTells] at hGiven
    cases hGiven
    exact hOrder
  stands := by
    intro other _ _ hSilent
    left
    apply DeckSide.order_other _ hOrder hState
    rintro rfl
    exact hSilent control hTells
  opens := by
    rw [hOpens]
    exact nofun
  released := by
    rw [hReleased]
    exact h.released

/-- A step that tells a deck something. -/
theorem Follows.tell (h : s.Follows) {side : DeckSide} {control : DeckControl}
    (hOn : s.config.world.options.DVctrl = true) (hBefore : s.config.call.tells = some (side, control))
    (hDevice : s'.device = (s.setDevice side (s.follow side control)).device)
    (hReleased : s'.released = s.released) (hPipeline : s'.config.pipeline = s.config.pipeline)
    (hState : s'.config.world.state = s.config.world.state) (hWorker : s'.config.worker = s.config.worker)
    (hTells : s'.config.call.tells = none) (hOpens : s'.config.call.opens = false)
    (hStarts : s'.config.call.startsWorker = true → side = .output) : s'.Follows where
  tells := by
    rw [hTells]
    exact fun _ _ => nofun
  stands := by
    intro other hOpen hAttached _
    rw [hDevice] at hAttached
    by_cases hSame : other = side
    · subst hSame
      have hTold : (s.setDevice other (s.follow other control)).device other = (s.device other).control control := by
        simp [setDevice, follow, hOn]
      rw [hTold, DeckDevice.control_attached] at hAttached
      right
      left
      rw [hDevice, hTold, hState, DeckDevice.control_own_last hAttached]
      exact (h.tells other control hBefore).symm
    · have hLeft : (s.setDevice side (s.follow side control)).device other = s.device other := if_neg hSame
      have hStands : s.Stands other := by
        apply h.stands other
        · rw [← hPipeline]
          exact hOpen
        · rw [← hLeft]
          exact hAttached
        · intro given hGiven
          rw [hBefore] at hGiven
          cases hGiven
          exact hSame rfl
      apply hStands.same ((congrFun hDevice other).trans hLeft) hState hWorker
      rintro rfl
      by_contra hStartsWorker
      exact hSame (hStarts (by simpa using hStartsWorker)).symm
  opens := by
    rw [hOpens]
    exact nofun
  released := by
    rw [hReleased]
    exact h.released

/-- A worker that finishes on its own leaves its deck as it is: the other one is not open. -/
theorem Follows.finish (h : s.Follows) {side : DeckSide} {c' : Config}
    (hPipeline : c'.pipeline = s.config.pipeline) (hCall : c'.call = s.config.call)
    (hWorker : s.config.worker ≠ .absent) (hOther : ∀ other, other ≠ side → other.isOpen s.config.pipeline = false)
    (hState : c'.world.state = s.config.world.state ∨
      s.config.world.state = side.active ∧ c'.world.state = .finished) : Follows { s with config := c' } := by
  obtain ⟨mode, hActive, hFinished⟩ := side.order_active
  have hOrder : side.order c'.world.state = side.order s.config.world.state := by
    rcases hState with hSame | ⟨hBefore, hAfter⟩
    · rw [hSame]
    · rw [hBefore, hAfter, hActive, hFinished]
  constructor
  · intro other control hTells
    rw [hCall] at hTells
    have hBefore := h.tells other control hTells
    by_cases hSame : other = side
    · subst hSame
      exact hOrder.trans hBefore
    · rcases hState with hStill | ⟨hEnds, -⟩
      · rw [← hStill] at hBefore
        exact hBefore
      · have hNone : other.order side.active = none := by
          apply DeckSide.order_other hSame hActive
          cases side <;> exact nofun
        rw [hEnds, hNone] at hBefore
        cases hBefore
  · intro other hOpen hAttached hSilent
    rw [hPipeline] at hOpen
    rw [hCall] at hSilent
    have hSame : other = side := by
      by_contra hNot
      rw [hOther other hNot] at hOpen
      cases hOpen
    subst hSame
    rcases h.stands other hOpen hAttached hSilent with hNone | hLast | ⟨hOwn, hUntold⟩
    · exact Or.inl (hOrder.trans hNone)
    · exact Or.inr (Or.inl (hLast.trans hOrder.symm))
    · cases other with
      | source =>
          refine Or.inr (Or.inr ⟨hOwn, ?_⟩)
          rcases hState with hStill | ⟨hEnds, -⟩
          · exact hStill.trans hUntold
          · exact absurd (hUntold.symm.trans hEnds) nofun
      | output => exact absurd hUntold.2.1 hWorker
  · rw [hCall]
    exact h.opens
  · exact h.released

section Calls

variable {ans : Answer} {deck : DeckAnswer} {request : Request} {c' : Config}

theorem stopped_follow (hOn : s.config.world.options.DVctrl = true) (side : DeckSide) :
    Stopped (s.follow side .stop) := by
  intro hAttached
  rw [follow, if_pos hOn] at hAttached ⊢
  rw [DeckDevice.control_attached] at hAttached
  rw [DeckDevice.control_puts hAttached]
  exact List.getLast?_concat

/-- In `Destroy` there is nothing to follow. It stops what it releases. -/
theorem Follows.destroy {pc : DestroyPc} (h : s.Follows) (hAgree : s.config.Agree)
    (hOn : s.config.world.options.DVctrl = true) (hBusy : s.config.call = .busy request (.destroy pc))
    (hStep : Config.destroyStep env ans s.config request pc = .next c') :
    Follows { s.told ed ans deck request (.destroy pc) with config := c' } := by
  have hCall := hAgree.call
  rw [hBusy] at hCall
  cases pc with
  | setIdle =>
      obtain rfl := Outcome.next.inj hStep
      exact .shut rfl rfl rfl h.released
  | closeQueue =>
      obtain rfl := Outcome.next.inj hStep
      exact .shut hCall rfl rfl h.released
  | stopJoiner =>
      simp only [Config.destroyStep] at hStep
      split_ifs at hStep
      · obtain rfl := Outcome.next.inj hStep
        exact .shut hCall rfl rfl h.released
      · obtain rfl := Outcome.next.inj hStep
        exact .shut hCall rfl rfl h.released
  | stopInput =>
      simp only [Config.destroyStep] at hStep
      split_ifs at hStep
      · obtain rfl := Outcome.next.inj hStep
        exact .shut hCall.1 rfl rfl h.released
      · obtain rfl := Outcome.next.inj hStep
        exact .shut hCall.1 rfl rfl h.released
  | join =>
      cases hWorker : s.config.worker with
      | absent =>
          simp only [Config.destroyStep, hWorker] at hStep
          obtain rfl := Outcome.next.inj hStep
          exact .shut hCall.1 rfl rfl h.released
      | returned =>
          simp only [Config.destroyStep, hWorker] at hStep
          obtain rfl := Outcome.next.inj hStep
          exact .shut hCall.1 rfl rfl h.released
      | capture pc l => simp [Config.destroyStep, hWorker] at hStep
      | record pc l => simp [Config.destroyStep, hWorker] at hStep
  | release =>
      obtain rfl := Outcome.next.inj hStep
      apply Follows.idle
      · show (s.config.world.release env ans).state = .idle
        rw [World.release]
        exact (World.finishWriter_state env ans s.config.world).trans hCall.state
      · rfl
      · exact fun _ _ => rfl
      · intro entry hEntry
        rcases List.mem_append.mp hEntry with hOld | hNew
        · exact h.released entry hOld
        · obtain ⟨side, -, rfl⟩ := List.mem_map.mp hNew
          exact stopped_follow hOn side
  | clearStatus =>
      obtain rfl := Outcome.next.inj hStep
      have hNew := h.opens (by rw [hBusy]; rfl)
      split_ifs
      · exact .shut hCall.1.state rfl rfl h.released
      · exact .idle hCall.1.state rfl (fun _ => hNew) h.released

theorem setDevice_puts {side : DeckSide} {device : DeckDevice} (hOld : ∀ other, (s.device other).puts = [])
    (hNew : device.puts = []) (other : DeckSide) : ((s.setDevice side device).device other).puts = [] := by
  by_cases hSame : other = side
  · subst hSame
    show (if other = other then device else s.device other).puts = []
    rw [if_pos rfl]
    exact hNew
  · show (if other = side then device else s.device other).puts = []
    rw [if_neg hSame]
    exact hOld other

/-- A step of a Build call that opens something, or throws, while the state is idle. -/
theorem Follows.opening (h : s.Follows) (hReleased : s'.released = s.released)
    (hDevice : ∀ side, (s'.device side).puts = []) {failure : Option WString} {success : Config}
    (hIdle : s.config.world.state = .idle) (hSuccess : success.world.state = .idle)
    (hTells : success.call.tells = none) :
    Follows { s' with config := s.config.attempt request failure success } := by
  have hDone : ∀ entry ∈ s'.released, Stopped entry.2 := by
    rw [hReleased]
    exact h.released
  rcases Config.attempt_cases s.config request failure success with ⟨_, _, hExit⟩ | ⟨_, hNext⟩
  · rw [hExit]
    exact .shut hIdle rfl rfl hDone
  · rw [hNext]
    exact .idle hSuccess hTells (fun _ => hDevice) hDone

/-- What is open in a pipeline that was built. -/
theorem built_open {v : View} (h : v.Built request) {side : DeckSide} (hOpen : side.isOpen v.pipeline = true) :
    side = .source ∧ request.pausedState = .capturePaused ∨
      side = .output ∧ request.pausedState = .recordPaused ∧ v.pipeline.dvInput = false := by
  unfold View.Built at h
  unfold Request.pausedState
  split_ifs at h ⊢
  · cases side with
    | source => exact Or.inl ⟨rfl, rfl⟩
    | output => exact absurd hOpen (by simp [DeckSide.isOpen, h.2.2.2])
  · cases side with
    | source => exact absurd hOpen (by simp [DeckSide.isOpen, h.2.2.2])
    | output => exact Or.inr ⟨rfl, rfl, h.2.2.2⟩

/-- A Build call opens its devices while the state is idle. -/
theorem Follows.build {pc : BuildPc} (h : s.Follows) (hAgree : s.config.Agree)
    (hOn : s.config.world.options.DVctrl = true) (hBusy : s.config.call = .busy request (.build pc))
    (hStep : Config.buildStep ans s.config request pc = .next c') :
    Follows { s.told ed ans deck request (.build pc) with config := c' } := by
  have hCall := hAgree.call
  rw [hBusy] at hCall
  have hOpens := h.opens
  rw [hBusy] at hOpens
  cases pc with
  | takeError =>
      obtain rfl := Outcome.next.inj hStep
      exact .idle hCall.1.state rfl (fun _ => hOpens rfl) h.released
  | openSource =>
      obtain rfl := Outcome.next.inj hStep
      apply h.opening
      · simp only [told]
        split_ifs <;> rfl
      · simp only [told]
        split_ifs
        · exact setDevice_puts (hOpens rfl) rfl
        · exact hOpens rfl
      · exact hCall.1.state
      · exact hCall.1.state
      · rfl
  | getMediaType =>
      have hNext : c' = s.config.attempt request ans.failure
          (s.config.goto request (.build (.createMonitor (max ans.sampleSize kDVFrameSizePAL)))) := by
        simp only [Config.buildStep] at hStep
        split_ifs at hStep <;> exact (Outcome.next.inj (Outcome.require_next.mp hStep).2).symm
      rw [hNext]
      exact h.opening rfl (hOpens rfl) hCall.1.state hCall.1.state rfl
  | createMonitor sampleSize =>
      obtain rfl := Outcome.next.inj hStep
      apply h.opening rfl (hOpens rfl) hCall.1.state
      · exact hCall.1.state
      · show CallPc.tells (.build (if request = .buildCapturing then .createQueue sampleSize
          else .openOutput sampleSize)) = none
        split_ifs
        · rfl
        · rfl
  | openOutput sampleSize =>
      obtain rfl := Outcome.next.inj hStep
      apply h.opening
      · simp only [told]
        split_ifs <;> rfl
      · simp only [told]
        split_ifs
        · exact setDevice_puts (hOpens rfl) rfl
        · exact hOpens rfl
      · exact hCall.1.state
      · exact hCall.1.state
      · rfl
  | createQueue sampleSize =>
      obtain rfl := Outcome.next.inj hStep
      exact h.opening rfl (hOpens rfl) hCall.1.state hCall.1.state rfl
  | setPaused =>
      obtain rfl := Outcome.next.inj hStep
      have hAbsent := Config.isAbsent_iff.mp hCall.1.noWorker
      constructor
      · intro side control hTells
        cases hTells
      · intro side hOpen _ _
        right
        right
        constructor
        · show (s.device side).own = []
          rw [DeckDevice.own, hOpens rfl side]
          rfl
        · rcases built_open hCall.2 hOpen with ⟨rfl, hState⟩ | ⟨rfl, hState, -⟩
          · exact hState
          · exact ⟨hState, hAbsent, rfl⟩
      · intro hOpening
        cases hOpening
      · exact h.released
  | runSource =>
      obtain ⟨hState, hWorker, hBuilt⟩ := hCall
      have hBefore : s.config.call.tells = none := by
        rw [hBusy]
        rfl
      simp only [Config.buildStep] at hStep
      split_ifs at hStep with hRequest
      · obtain rfl := (Outcome.next.inj (Outcome.require_next.mp hStep).2)
        rcases Config.attempt_cases { s.config with running := true } request ans.failure
          ({ s.config with running := true }.goto request (.build .startWorker)) with ⟨_, _, hExit⟩ | ⟨_, hNext⟩
        · rw [hExit]
          exact h.quiet rfl rfl rfl rfl rfl hBefore rfl rfl rfl
        · rw [View.Built, if_pos hRequest] at hBuilt
          have hClosed : s.config.pipeline.dvOutput = false := hBuilt.2.2.2
          rw [hNext]
          exact h.pass rfl rfl rfl rfl rfl hBefore rfl (fun hOpening => by cases hOpening) fun _ => hClosed
      · obtain rfl := (Outcome.next.inj (Outcome.require_next.mp hStep).2)
        rcases Config.attempt_cases { s.config with running := true } request ans.failure
          ({ s.config with running := true }.goto request (.build .recPause)) with ⟨_, _, hExit⟩ | ⟨_, hNext⟩
        · rw [hExit]
          exact h.quiet rfl rfl rfl rfl rfl hBefore rfl rfl rfl
        · rw [hNext]
          have hPaused : s.config.world.state = .recordPaused := by
            rw [Request.pausedState, if_neg hRequest] at hState
            exact hState
          have hOrder : DeckSide.output.order s.config.world.state = some DeckControl.recPause.last := by
            rw [hPaused]
            rfl
          have hNotFinished : s.config.world.state ≠ .finished := by
            rw [hPaused]
            decide
          exact h.turn rfl rfl hOrder hNotFinished rfl
  | recPause =>
      rw [Config.command_next hStep]
      exact h.tell hOn (by rw [hBusy]; rfl) rfl rfl rfl rfl rfl rfl rfl fun _ => rfl
  | startWorker =>
      obtain rfl := Outcome.next.inj hStep
      have hBefore : s.config.call.tells = none := by
        rw [hBusy]
        rfl
      rcases Config.attempt_cases s.config request ans.failure _ with ⟨_, _, hExit⟩ | ⟨_, hNext⟩
      · rw [hExit]
        exact h.quiet rfl rfl rfl rfl rfl hBefore rfl rfl rfl
      · rw [hNext]
        constructor
        · intro side control hTells
          cases hTells
        · intro side hOpen hAttached _
          have hSilent : ∀ control, s.config.call.tells ≠ some (side, control) := by
            intro control hTells
            rw [hBefore] at hTells
            cases hTells
          rcases h.stands side hOpen hAttached hSilent with hOrder | hLast | ⟨hOwn, hUntold⟩
          · exact Or.inl hOrder
          · exact Or.inr (Or.inl hLast)
          · cases side with
            | source => exact Or.inr (Or.inr ⟨hOwn, hUntold⟩)
            | output =>
                have hStarts := hUntold.2.2
                rw [hBusy] at hStarts
                cases hStarts
        · intro hOpening
          cases hOpening
        · exact h.released

/-- A Start call tells the deck to play. -/
theorem Follows.start {pc : StartPc} (h : s.Follows) (hOn : s.config.world.options.DVctrl = true)
    (hBusy : s.config.call = .busy request (.start pc))
    (hStep : Config.startStep ans s.config request pc = .next c') :
    Follows { s.told ed ans deck request (.start pc) with config := c' } := by
  cases pc with
  | checkArgument | readReady | readPaused | checkDisk =>
      obtain rfl := Outcome.next.inj hStep
      have hBefore : s.config.call.tells = none := by
        rw [hBusy]
        rfl
      split_ifs
      · exact h.quiet rfl rfl rfl rfl rfl hBefore rfl rfl rfl
      · exact h.quiet rfl rfl rfl rfl rfl hBefore rfl rfl rfl
  | clearReason | storeTarget | storeCaptureTime =>
      obtain rfl := Outcome.next.inj hStep
      have hBefore : s.config.call.tells = none := by
        rw [hBusy]
        rfl
      exact h.quiet rfl rfl rfl rfl rfl hBefore rfl rfl rfl
  | storeState =>
      obtain rfl := Outcome.next.inj hStep
      exact h.turn rfl rfl rfl nofun rfl
  | ctrlPlay =>
      rw [Config.command_next hStep]
      exact h.tell hOn (by rw [hBusy]; rfl) rfl rfl rfl rfl rfl rfl rfl nofun

/-- A button leaves what the pipeline has told its deck. -/
theorem Follows.button (h : s.Follows) (hBusy : s.config.call = .busy request (.control .transport)) :
    Follows { s.told ed ans deck request (.control .transport) with config := s.config.exit request .ok } := by
  have hBefore : s.config.call.tells = none := by
    rw [hBusy]
    rfl
  by_cases hInput : s.config.pipeline.dvInput = true
  · rw [told, if_pos hInput]
    constructor
    · exact fun _ _ => nofun
    · intro side hOpen hAttached _
      have hOwn : ((s.setDevice .source ((s.device .source).command ed deck.command deck.mode)).device side).own =
          (s.device side).own := by
        cases side with
        | source => exact DeckDevice.command_own deck.command deck.mode
        | output => rfl
      have hStands : s.Stands side := by
        apply h.stands side hOpen
        · cases side with
          | source => exact hAttached
          | output => exact hAttached
        · rw [hBefore]
          exact fun _ => nofun
      rw [Stands]
      simp only [hOwn]
      rcases hStands with hOrder | hLast | ⟨hNone, hUntold⟩
      · exact Or.inl hOrder
      · exact Or.inr (Or.inl hLast)
      · refine Or.inr (Or.inr ⟨hNone, ?_⟩)
        cases side with
        | source => exact hUntold
        | output => exact ⟨hUntold.1, hUntold.2.1, rfl⟩
    · exact nofun
    · exact h.released
  · rw [told, if_neg hInput]
    exact h.quiet rfl rfl rfl rfl rfl hBefore rfl rfl rfl

/-- Pausing and recording turn the state first and tell the deck then. -/
theorem Follows.control {pc : ControlPc} (h : s.Follows) (hOn : s.config.world.options.DVctrl = true)
    (hBusy : s.config.call = .busy request (.control pc))
    (hStep : Config.controlStep s.config request pc = .next c') :
    Follows { s.told ed ans deck request (.control pc) with config := c' } := by
  cases pc with
  | stopCapturing | startRecording | stopRecording =>
      obtain rfl := Outcome.next.inj hStep
      have hBefore : s.config.call.tells = none := by
        rw [hBusy]
        rfl
      split_ifs
      · exact h.turn rfl rfl rfl nofun rfl
      · exact h.quiet rfl rfl rfl rfl rfl hBefore rfl rfl rfl
  | clearReason =>
      obtain rfl := Outcome.next.inj hStep
      exact h.quiet rfl rfl rfl rfl rfl (by rw [hBusy]; rfl) rfl rfl rfl
  | ctrlPause | ctrlRecord | ctrlRecPause =>
      rw [Config.command_next hStep]
      exact h.tell hOn (by rw [hBusy]; rfl) rfl rfl rfl rfl rfl rfl rfl nofun
  | transport =>
      obtain rfl := Outcome.next.inj hStep
      exact h.button hBusy

end Calls

/-- What the decks stand for is the business of few members. -/
theorem Follows.beside (h : s.Follows) {c' : Config} (hCall : c'.call = s.config.call)
    (hState : c'.world.state = s.config.world.state) (hPipeline : c'.pipeline = s.config.pipeline)
    (hWorker : c'.worker = s.config.worker) : Follows { s with config := c' } where
  tells := by
    intro side control hTells
    rw [hCall] at hTells
    rw [hState]
    exact h.tells side control hTells
  stands := by
    intro side hOpen hAttached hSilent
    rw [hPipeline] at hOpen
    rw [hCall] at hSilent
    rcases h.stands side hOpen hAttached hSilent with hOrder | hLast | ⟨hOwn, hUntold⟩
    · left
      rw [hState]
      exact hOrder
    · right
      left
      rw [hState]
      exact hLast
    · refine Or.inr (Or.inr ⟨hOwn, ?_⟩)
      cases side with
      | source => exact hState.trans hUntold
      | output => exact ⟨hState.trans hUntold.1, hWorker.trans hUntold.2.1, hCall ▸ hUntold.2.2⟩
  opens := by
    rw [hCall]
    exact h.opens
  released := h.released

/-- A step of any thread, as long as the decks follow. -/
theorem Follows.step {action : Action × DeckAnswer} (h : s.Follows) (hAgree : s.config.Agree)
    (hOn : s.config.world.options.DVctrl = true) (hStep : s.step env ed action = some s') : s'.Follows := by
  obtain ⟨config, hConfig, rfl⟩ := step_iff.mp hStep
  obtain ⟨action, deck⟩ := action
  cases Config.step_move hConfig with
  | @begin request free =>
      have hBefore : s.config.call.tells = none := by
        cases hCall : s.config.call with
        | busy request pc => exact absurd hCall (free request pc)
        | ready => rfl
        | exited request result => rfl
      cases request <;> exact h.quiet rfl rfl rfl rfl rfl hBefore rfl rfl rfl
  | @control ans request pc _ busy step =>
      have hTold : s.afterStep ed (.control ans, deck) = s.told ed ans deck request pc := by
        simp only [afterStep, busy]
      rw [hTold]
      cases pc with
      | destroy pc => exact h.destroy hAgree hOn busy step
      | build pc => exact h.build hAgree hOn busy step
      | start pc => exact h.start hOn busy step
      | control pc => exact h.control hOn busy step
  | @capture ans pc l w' t thread move =>
      have hWorker : s.config.worker ≠ .absent := by
        rw [thread]
        exact nofun
      have hOther : ∀ other, other ≠ DeckSide.source → other.isOpen s.config.pipeline = false := by
        intro other hNot
        cases other with
        | source => exact absurd rfl hNot
        | output => exact (hAgree.capture_ready thread).1.2.2.2
      exact h.finish rfl rfl hWorker hOther move.state
  | @record ans pc l w' t thread move =>
      have hWorker : s.config.worker ≠ .absent := by
        rw [thread]
        exact nofun
      have hReady := hAgree.worker
      rw [Config.WorkerReady, thread] at hReady
      have hOther : ∀ other, other ≠ DeckSide.output → other.isOpen s.config.pipeline = false := by
        intro other hNot
        cases other with
        | source => exact hReady.1.2.2.2
        | output => exact absurd rfl hNot
      exact h.finish rfl rfl hWorker hOther move.state
  | deliver => exact h.beside rfl rfl rfl rfl
  | callback thread move => exact h.beside rfl move.keeps.state rfl rfl
  | tick => exact h.beside rfl rfl rfl rfl
  | setOptions => exact h.beside rfl rfl rfl rfl
  | takeError => exact h.beside rfl rfl rfl rfl

theorem agree_start (options : Options) : (start options).config.Agree where
  state := trivial
  worker := trivial
  callback := by simp [start]
  source := by simp [start]
  call := trivial

theorem agree_run {options : Options} {log : List (Decks × (Action × DeckAnswer))}
    (run : Runs (Decks.step env ed) (start options) log s) : s.config.Agree :=
  (config_run run).invariant Config.Agree (agree_start options) fun _ _ _ h hStep => h.step hStep

/-- A run in which the decks are to follow the pipeline all along. -/
theorem follows_run {options : Options} {log : List (Decks × (Action × DeckAnswer))}
    (run : Runs (Decks.step env ed) (start options) log s)
    (hOn : ∀ entry ∈ log, entry.1.config.world.options.DVctrl = true) : s.Follows := by
  induction run with
  | zero => exact .shut rfl rfl rfl (by simp [start])
  | @succ log middle finish action prior last ih =>
      have hFollows : middle.Follows := ih fun entry hEntry => hOn entry (List.mem_append_left _ hEntry)
      exact hFollows.step (agree_run prior) (hOn (middle, action) (by simp)) last

/-- As long as the decks are to follow the pipeline, they do, in any interleaving of the calls
with the worker, the source and the settings: between two calls the deck that is recorded to
was last told to record in the states Recording and Finished, and to pause in RecordPaused; the
other one was told to play while it is captured from and up to the end of the capture, and to
pause when that was stopped, the buttons apart; and a device that is released was stopped. -/
theorem deck_follows_pipeline (env : Environment) (ed : EdCodes) (options : Options)
    {log : List (Decks × (Action × DeckAnswer))} (run : Runs (Decks.step env ed) (start options) log s)
    (hOn : ∀ entry ∈ log, entry.1.config.world.options.DVctrl = true)
    (hFree : ∀ request pc, s.config.call ≠ .busy request pc) :
    (s.config.pipeline.dvOutput = true → (s.device .output).attached = true →
      (s.config.world.state = .recording ∨ s.config.world.state = .finished →
        (s.device .output).own.getLast? = some .record) ∧
      (s.config.world.state = .recordPaused → s.config.worker ≠ .absent →
        (s.device .output).own.getLast? = some .recordFreeze)) ∧
    (s.config.pipeline.dvInput = true → (s.device .source).attached = true →
      (s.config.world.state = .capturing ∨ s.config.world.state = .finished →
        (s.device .source).own.getLast? = some .play) ∧
      (s.config.world.state = .capturePaused →
        (s.device .source).own = [] ∨ (s.device .source).own.getLast? = some .freeze)) ∧
    ∀ side device, (side, device) ∈ s.released → device.attached = true →
      device.puts.getLast? = some ⟨.stop, .pipeline .stop⟩ := by
  have hFollows := follows_run run hOn
  have hSilent : ∀ side control, s.config.call.tells ≠ some (side, control) := by
    intro side control
    cases hCall : s.config.call with
    | busy request pc => exact absurd hCall (hFree request pc)
    | ready => exact nofun
    | exited request result => exact nofun
  refine ⟨fun hOpen hAttached => ?_, fun hOpen hAttached => ?_, fun side device => hFollows.released (side, device)⟩
  · have hStands := hFollows.stands .output hOpen hAttached (hSilent .output)
    constructor
    · rintro (hState | hState) <;> rw [Stands, Untold, hState] at hStands <;>
        simpa [DeckSide.order] using hStands
    · intro hState hWorker
      rw [Stands, Untold, hState] at hStands
      simpa [DeckSide.order, hWorker] using hStands
  · have hStands := hFollows.stands .source hOpen hAttached (hSilent .source)
    constructor
    · rintro (hState | hState) <;> rw [Stands, Untold, hState] at hStands <;>
        simpa [DeckSide.order] using hStands
    · intro hState
      rw [Stands, Untold, hState] at hStands
      simpa [DeckSide.order, or_comm] using hStands

/-- A record pipeline at the end of its files: the deck records on. -/
theorem deck_follows_pipeline_end :
    ∃ s : Decks, s.config.world.state = .finished ∧ (s.device .output).own.getLast? = some .record := by
  obtain ⟨log, s, run, hTest⟩ := exec_witness (Decks.step .plain .plain) (start { DVctrl := true })
    (Config.recordToEnd.map fun action => (action, {}))
    (fun log s => log.all (fun entry => entry.1.config.world.options.DVctrl) &&
      (s.config.world.state == .finished && s.config.pipeline.dvOutput && (s.device .output).attached &&
        match s.config.call with
        | .busy _ _ => false
        | _ => true)) (by decide +kernel)
  simp only [Bool.and_eq_true, List.all_eq_true, beq_iff_eq] at hTest
  obtain ⟨hOn, ⟨⟨hState, hOpen⟩, hAttached⟩, hCall⟩ := hTest
  have hFree : ∀ request pc, s.config.call ≠ .busy request pc := by
    intro request pc hBusy
    rw [hBusy] at hCall
    cases hCall
  exact ⟨s, hState, ((deck_follows_pipeline .plain .plain { DVctrl := true } run hOn hFree).1 hOpen
    hAttached).1 (Or.inr hState)⟩

end Decks

end WinDV
