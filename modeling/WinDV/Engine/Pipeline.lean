import WinDV.Engine.Effects

/-! State and pipeline agree. Which owning pointers are set follows from the
state, for the worker from its kind, and for the controlling thread from the
step of the call it is in; so no step follows a null pointer. -/
namespace WinDV

/-- What the invariant of the call in progress may depend on. -/
structure View where
  state : EngineState
  pipeline : Pipeline
  queueSet : Bool
  running : Bool
  noWorker : Bool

/-- The pointers of a capture pipeline. -/
def View.CaptureShape (v : View) : Prop :=
  v.pipeline.dvInput = true ∧ v.queueSet = true ∧ v.pipeline.aviJoiner = false ∧
    v.pipeline.dvOutput = false

/-- The pointers of a record pipeline. -/
def View.RecordShape (v : View) : Prop :=
  v.pipeline.aviJoiner = true ∧ v.pipeline.dvOutput = true ∧ v.queueSet = true ∧
    v.pipeline.dvInput = false

/-- The pointers a state stands for. -/
def View.StateShape (v : View) : Prop :=
  match v.state with
  | .idle => True
  | .capturePaused | .capturing => v.CaptureShape
  | .recordPaused | .recording => v.RecordShape
  | .finished => v.CaptureShape ∨ v.RecordShape

/-- No thread of an earlier pipeline is left. -/
structure View.Stopped (v : View) : Prop where
  state : v.state = .idle
  running : v.running = false
  noWorker : v.noWorker = true

/-- The pointers a Build call sets: `CaptureShape` or `RecordShape`. -/
def View.Built (v : View) (request : Request) : Prop :=
  if request = .buildCapturing then v.CaptureShape else v.RecordShape

/-- The source of a Build call is open, and for recording perhaps the output. -/
def View.Opened (v : View) (request : Request) (output : Bool) : Prop :=
  v.pipeline.dvInput = decide (request = .buildCapturing) ∧
    v.pipeline.aviJoiner = decide (request ≠ .buildCapturing) ∧ v.pipeline.dvOutput = output

def View.AtDestroy (v : View) : DestroyPc → Prop
  | .setIdle => True
  | .closeQueue | .stopJoiner => v.state = .idle
  | .stopInput => v.state = .idle ∧ (v.pipeline.aviJoiner = true → v.running = false)
  | .join => v.state = .idle ∧ v.running = false
  | .release => v.Stopped
  | .clearStatus => v.Stopped ∧ v.pipeline = {} ∧ v.queueSet = false

def View.AtBuild (v : View) (request : Request) : BuildPc → Prop
  | .takeError | .openSource => v.Stopped ∧ v.pipeline = {} ∧ v.queueSet = false
  | .getMediaType | .createMonitor _ => v.Stopped ∧ v.Opened request false
  | .openOutput _ => v.Stopped ∧ v.Opened request false ∧ request ≠ .buildCapturing
  | .createQueue _ => v.Stopped ∧ v.Opened request (decide (request ≠ .buildCapturing))
  | .setPaused => v.Stopped ∧ v.Built request
  | .runSource | .startWorker => v.state = request.pausedState ∧ v.noWorker = true ∧ v.Built request
  | .recPause =>
      v.state = request.pausedState ∧ v.noWorker = true ∧ v.Built request ∧ request ≠ .buildCapturing

def View.AtStart (v : View) : StartPc → Prop
  | .checkArgument | .readReady | .readPaused => True
  | .checkDisk | .clearReason | .storeTarget | .storeCaptureTime | .storeState =>
      v.state = .capturePaused
  | .ctrlPlay => v.CaptureShape

def View.AtControl (v : View) : ControlPc → Prop
  | .ctrlPause => v.CaptureShape
  | .ctrlRecord | .ctrlRecPause => v.RecordShape
  | _ => True

/-- What holds between the steps of a call. -/
def View.AtCall (v : View) : Call → Prop
  | .busy _ (.destroy pc) => v.AtDestroy pc
  | .busy request (.build pc) => v.AtBuild request pc
  | .busy _ (.start pc) => v.AtStart pc
  | .busy _ (.control pc) => v.AtControl pc
  | .ready | .exited _ _ => True

/-- The steps of the capture thread that follow `frame`, and those before them. -/
def CapturePc.holdsFrame : CapturePc → Bool
  | .frameSeen | .preview | .readDiskState | .checkDisk | .diskFull | .readWriteState | .splitFile
  | .copyTarget | .openWriter | .writeFrame | .countFrame | .addTime => true
  | .storeReason _ resume | .exchange _ resume | .rollback resume => resume == .readWriteState
  | _ => false

def RecordPc.holdsFrame : RecordPc → Bool
  | .notifyStarted | .firstFrame | .report _ | .notifyStopped => false
  | _ => true

/-- What the capture thread has secured before it follows a pointer. -/
structure CaptureReady (w : World) (l : CaptureLocals) (pc : CapturePc) : Prop where
  frame : pc.holdsFrame = true → l.frame.isSome = true
  writer : pc = .writeFrame → w.aviWriter.isSome = true

def RecordReady (l : RecordLocals) (pc : RecordPc) : Prop :=
  pc.holdsFrame = true → l.frame.isSome = true

def Worker.isAbsent : Worker → Bool
  | .absent => true
  | _ => false

namespace Config

def view (c : Config) : View where
  state := c.world.state
  pipeline := c.pipeline
  queueSet := c.world.queue.isSome
  running := c.running
  noWorker := c.worker.isAbsent

/-- What the worker relies on. -/
def WorkerReady (c : Config) : Prop :=
  match c.worker with
  | .absent | .returned => True
  | .capture pc l => c.view.CaptureShape ∧ CaptureReady c.world l pc
  | .record pc l => c.view.RecordShape ∧ RecordReady l pc

/-- The invariant. -/
structure Agree (c : Config) : Prop where
  state : c.view.StateShape
  worker : c.WorkerReady
  callback : c.callback ≠ none → c.running = true
  source : c.running = true →
    c.view.queueSet = true ∧ (c.pipeline.aviJoiner = true ∨ c.pipeline.dvInput = true)
  call : c.view.AtCall c.call

theorem agree_initial : ({} : Config).Agree where
  state := trivial
  worker := trivial
  callback := by simp
  source := by simp
  call := trivial

end Config

section Worker

variable {env : Environment} {ans : Answer} {clock : Nat} {w w' : World}

/-- A worker that finishes on its own disturbs no call: the calls that rely on
the state run while it is idle or paused. -/
theorem View.AtCall.finish {v : View} {call : Call} (h : v.AtCall call)
    (hState : v.state = .capturing ∨ v.state = .recording) (hWorker : v.noWorker = false) :
    View.AtCall { v with state := .finished } call := by
  have hNotIdle : v.state ≠ .idle := by rcases hState with hState | hState <;> simp [hState]
  cases call with
  | ready => trivial
  | exited request result => trivial
  | busy request pc =>
      cases pc with
      | destroy pc =>
          cases pc with
          | setIdle => trivial
          | closeQueue => exact absurd h hNotIdle
          | stopJoiner => exact absurd h hNotIdle
          | stopInput => exact absurd h.1 hNotIdle
          | join => exact absurd h.1 hNotIdle
          | release => exact absurd h.state hNotIdle
          | clearStatus => exact absurd h.1.state hNotIdle
      | build pc =>
          cases pc with
          | runSource | recPause | startWorker =>
              have hAbsent := h.2.1
              rw [hWorker] at hAbsent
              cases hAbsent
          | _ => exact absurd h.1.state hNotIdle
      | start pc =>
          cases pc with
          | checkArgument | readReady | readPaused => trivial
          | ctrlPlay => exact h
          | _ =>
              have hPaused : v.state = .capturePaused := h
              rw [hPaused] at hState
              rcases hState with hState | hState <;> cases hState
      | control pc => exact h

theorem afterState_ready {w : World} (l l' : CaptureLocals) (h : l'.frame = l.frame) :
    CaptureReady w l' l.afterState := by
  unfold CaptureLocals.afterState
  split_ifs with hFrame
  · exact ⟨by simp [CapturePc.holdsFrame], by simp⟩
  · exact ⟨fun _ => by simpa [h, Option.isSome_iff_ne_none] using hFrame, by simp⟩

theorem resume_ready {w : World} {l : CaptureLocals} {resume : Resume} {pc : CapturePc}
    (hPc : pc.holdsFrame = (resume == .readWriteState)) (h : CaptureReady w l pc) (w' : World) :
    CaptureReady w' l resume.pc where
  frame := by
    intro hHolds
    apply h.frame
    rw [hPc]
    cases resume <;> simp_all [Resume.pc, CapturePc.holdsFrame]
  writer := by cases resume <;> simp [Resume.pc]

/-- The capture thread secures what its next step follows. -/
theorem CaptureMove.ready {l l' : CaptureLocals} {pc pc' : CapturePc}
    (h : CaptureMove env ans clock w l pc w' (some (pc', l'))) (hReady : CaptureReady w l pc) :
    CaptureReady w' l' pc' := by
  have hFrame := hReady.frame
  cases h with
  | finishes goesOn =>
      cases pc <;> simp only [CapturePc.finishNext, Option.some.injEq, reduceCtorEq] at goesOn
      all_goals
        subst goesOn
        exact ⟨fun h => hFrame h, by simp⟩
  | readState => exact afterState_ready l _ rfl
  | newFile => exact afterState_ready l _ rfl
  | @frameSeen frame =>
      obtain ⟨shown, signal, delta, lastValid, -, hLocals⟩ := frameSeen_eq env w l frame
      rw [hLocals]
      exact ⟨fun _ => hFrame rfl, by simp⟩
  | sameFile isOpen => exact ⟨fun _ => hFrame rfl, fun _ => by rw [isOpen]; rfl⟩
  | openWriter => exact ⟨fun _ => hFrame rfl, fun _ => rfl⟩
  | enterFinished => exact resume_ready rfl hReady _
  | rollback => exact resume_ready rfl hReady _
  | _ =>
      refine ⟨fun h => ?_, by simp⟩
      first
        | exact hFrame h
        | exact hFrame rfl
        | cases h

/-- The record thread keeps its frame from its first `Get` on. -/
theorem RecordMove.ready {l l' : RecordLocals} {pc pc' : RecordPc}
    (h : RecordMove env ans clock w l pc w' (some (pc', l'))) (hReady : RecordReady l pc) :
    RecordReady l' pc' := by
  cases h with
  | firstFrame => exact fun _ => rfl
  | nextFrame => exact fun _ => rfl
  | _ =>
      intro h
      first
        | exact hReady rfl
        | cases h

end Worker

namespace Config

variable {env : Environment} {ans : Answer} {c c' : Config} {request : Request}

theorem Agree.callback_none (h : c.Agree) (hRunning : c.running = false) : c.callback = none := by
  by_contra hCallback
  rw [h.callback hCallback] at hRunning
  cases hRunning

/-- A step that leaves pointers and worker as they are and starts no callback. -/
theorem Agree.same (h : c.Agree) (hView : c'.view = { c.view with state := c'.world.state })
    (hWorker : c'.worker = c.worker) (hWriter : c'.world.aviWriter = c.world.aviWriter)
    (hCallback : c'.callback ≠ none → c.callback ≠ none) (hState : c'.view.StateShape)
    (hCall : c'.view.AtCall c'.call) : c'.Agree where
  state := hState
  worker := by
    have hOld := h.worker
    unfold WorkerReady at hOld ⊢
    rw [hWorker, hView]
    cases hThread : c.worker with
    | absent => trivial
    | returned => trivial
    | capture pc l =>
        rw [hThread] at hOld
        exact ⟨hOld.1, hOld.2.frame, fun hPc => by
          rw [hWriter]
          exact hOld.2.writer hPc⟩
    | record pc l =>
        rw [hThread] at hOld
        exact hOld
  callback := by
    have hRunning : c'.running = c.running := congrArg View.running hView
    rw [hRunning]
    exact fun hSome => h.callback (hCallback hSome)
  source := by
    have hRunning : c'.running = c.running := congrArg View.running hView
    have hPipeline : c'.pipeline = c.pipeline := congrArg View.pipeline hView
    rw [hRunning, hPipeline, hView]
    exact h.source
  call := hCall

theorem isAbsent_iff {worker : Worker} : worker.isAbsent = true ↔ worker = .absent := by
  cases worker <;> simp [Worker.isAbsent]

/-- With no worker, only the state and the source have pointers to agree with. -/
theorem Agree.unstarted (hWorker : c'.view.noWorker = true) (hState : c'.view.StateShape)
    (hCallback : c'.callback ≠ none → c'.running = true)
    (hSource : c'.running = true →
      c'.view.queueSet = true ∧ (c'.pipeline.aviJoiner = true ∨ c'.pipeline.dvInput = true))
    (hCall : c'.view.AtCall c'.call) : c'.Agree where
  state := hState
  worker := by
    unfold WorkerReady
    rw [isAbsent_iff.mp hWorker]
    trivial
  callback := hCallback
  source := hSource
  call := hCall

/-- When everything is stopped, nothing is asked of the pointers. -/
theorem Agree.stopped (hStopped : c'.view.Stopped) (hCallback : c'.callback = none)
    (hCall : c'.view.AtCall c'.call) : c'.Agree := by
  have hRunning : c'.running = false := hStopped.running
  apply Agree.unstarted hStopped.noWorker _ _ _ hCall
  · unfold View.StateShape
    rw [hStopped.state]
    trivial
  · intro h
    exact absurd hCallback h
  · rw [hRunning]
    intro h
    cases h

theorem Agree.destroy {pc : DestroyPc} (h : c.Agree) (hBusy : c.call = .busy request (.destroy pc))
    (hStep : destroyStep env ans c request pc = .next c') : c'.Agree := by
  have hCall := h.call
  rw [hBusy] at hCall
  cases pc with
  | setIdle =>
      obtain rfl := Outcome.next.inj hStep
      exact h.same rfl rfl rfl id trivial rfl
  | closeQueue =>
      obtain rfl := Outcome.next.inj hStep
      refine h.same ?_ rfl rfl id ?_ hCall
      · simp [view, goto]
      · simpa [view, goto] using h.state
  | stopJoiner =>
      simp only [destroyStep] at hStep
      split_ifs at hStep with hJoiner hNone
      · obtain rfl := Outcome.next.inj hStep
        exact ⟨h.state, h.worker, fun hCallback => absurd hNone hCallback, fun hRunning => (by cases hRunning),
          hCall, fun _ => rfl⟩
      · obtain rfl := Outcome.next.inj hStep
        exact h.same rfl rfl rfl id h.state ⟨hCall, fun hSet => absurd hSet hJoiner⟩
  | stopInput =>
      simp only [destroyStep] at hStep
      split_ifs at hStep with hInput hNone
      · obtain rfl := Outcome.next.inj hStep
        exact ⟨h.state, h.worker, fun hCallback => absurd hNone hCallback, fun hRunning => (by cases hRunning),
          hCall.1, rfl⟩
      · obtain rfl := Outcome.next.inj hStep
        refine h.same rfl rfl rfl id h.state ⟨hCall.1, ?_⟩
        -- A running source has a joiner or an input, and neither is left running.
        change c.running = false
        by_contra hRunning
        rw [Bool.not_eq_false] at hRunning
        rcases (h.source hRunning).2 with hJoiner | hInput'
        · have hStopped : c.running = false := hCall.2 hJoiner
          rw [hRunning] at hStopped
          cases hStopped
        · exact hInput hInput'
  | join =>
      cases hThread : c.worker with
      | absent =>
          simp only [destroyStep, hThread] at hStep
          obtain rfl := Outcome.next.inj hStep
          exact h.same rfl rfl rfl id h.state ⟨hCall.1, hCall.2, isAbsent_iff.mpr hThread⟩
      | returned =>
          simp only [destroyStep, hThread] at hStep
          obtain rfl := Outcome.next.inj hStep
          exact Agree.stopped ⟨hCall.1, hCall.2, rfl⟩ (h.callback_none hCall.2) ⟨hCall.1, hCall.2, rfl⟩
      | capture pc l => simp [destroyStep, hThread] at hStep
      | record pc l => simp [destroyStep, hThread] at hStep
  | release =>
      obtain rfl := Outcome.next.inj hStep
      have hStopped : (view { c with
          pipeline := {}
          world := c.world.release env ans }).Stopped := by
        refine ⟨?_, hCall.running, hCall.noWorker⟩
        change (c.world.finishWriter env ans).1.state = .idle
        rw [World.finishWriter_state]
        exact hCall.state
      exact Agree.stopped hStopped (h.callback_none hCall.running) ⟨hStopped, rfl, rfl⟩
  | clearStatus =>
      obtain rfl := Outcome.next.inj hStep
      split_ifs
      · exact h.same rfl rfl rfl id h.state trivial
      · exact h.same rfl rfl rfl id h.state hCall

/-- A call that exits leaves nothing to agree on. -/
theorem Agree.exit (h : c.Agree) (request : Request) (result : Result) :
    (c.exit request result).Agree := h.same rfl rfl rfl id h.state trivial

/-- A step of a Build call while everything is stopped: it throws, or it opens
another part. -/
theorem Agree.attempt_stopped (h : c.Agree) {failure : Option WString}
    {success : Config} (hView : success.view.Stopped) (hCallback : success.callback = none)
    (hCall : success.view.AtCall success.call) : (c.attempt request failure success).Agree := by
  rcases attempt_cases c request failure success with ⟨message, _, hExit⟩ | ⟨_, hSuccess⟩
  · rw [hExit]
    exact h.exit request _
  · rw [hSuccess]
    exact Agree.stopped hView hCallback hCall

theorem built_stateShape {v : View} (hState : v.state = request.pausedState) (h : v.Built request) :
    v.StateShape := by
  unfold View.StateShape
  unfold View.Built at h
  unfold Request.pausedState at hState
  rw [hState]
  split_ifs at h ⊢
  · exact h
  · exact h

theorem built_source {v : View} (h : v.Built request) :
    v.queueSet = true ∧ (v.pipeline.aviJoiner = true ∨ v.pipeline.dvInput = true) := by
  unfold View.Built at h
  split_ifs at h
  · exact ⟨h.2.1, Or.inr h.1⟩
  · exact ⟨h.2.2.1, Or.inl h.1⟩

theorem Agree.build {pc : BuildPc} (h : c.Agree) (hBusy : c.call = .busy request (.build pc))
    (hStep : buildStep ans c request pc = .next c') : c'.Agree := by
  have hCall := h.call
  rw [hBusy] at hCall
  cases pc with
  | takeError =>
      obtain rfl := Outcome.next.inj hStep
      exact h.same rfl rfl rfl id h.state hCall
  | openSource =>
      obtain rfl := Outcome.next.inj hStep
      obtain ⟨hStopped, hPipeline, _⟩ := hCall
      have hEmpty : c.pipeline = {} := hPipeline
      refine h.attempt_stopped ⟨hStopped.state, hStopped.running, hStopped.noWorker⟩
        (h.callback_none hStopped.running) ⟨⟨hStopped.state, hStopped.running, hStopped.noWorker⟩, ?_⟩
      rw [hEmpty]
      by_cases hRequest : request = .buildCapturing <;>
        simp [View.Opened, view, goto, hRequest]
  | getMediaType =>
      have hNext : c' = c.attempt request ans.failure
          (c.goto request (.build (.createMonitor (max ans.sampleSize kDVFrameSizePAL)))) := by
        simp only [buildStep] at hStep
        split_ifs at hStep <;> exact (Outcome.next.inj (Outcome.require_next.mp hStep).2).symm
      rw [hNext]
      exact h.attempt_stopped hCall.1 (h.callback_none hCall.1.running) hCall
  | createMonitor sampleSize =>
      obtain rfl := Outcome.next.inj hStep
      obtain ⟨hStopped, hOpened⟩ := hCall
      refine h.attempt_stopped ⟨hStopped.state, hStopped.running, hStopped.noWorker⟩
        (h.callback_none hStopped.running) ?_
      by_cases hRequest : request = .buildCapturing
      · rw [if_pos hRequest]
        refine ⟨⟨hStopped.state, hStopped.running, hStopped.noWorker⟩, hOpened.1, hOpened.2.1, ?_⟩
        rw [decide_eq_false (not_not_intro hRequest)]
        exact hOpened.2.2
      · rw [if_neg hRequest]
        exact ⟨⟨hStopped.state, hStopped.running, hStopped.noWorker⟩, hOpened, hRequest⟩
  | openOutput sampleSize =>
      obtain rfl := Outcome.next.inj hStep
      obtain ⟨hStopped, hOpened, hRequest⟩ := hCall
      exact h.attempt_stopped ⟨hStopped.state, hStopped.running, hStopped.noWorker⟩
        (h.callback_none hStopped.running) ⟨⟨hStopped.state, hStopped.running, hStopped.noWorker⟩,
          hOpened.1, hOpened.2.1, (decide_eq_true hRequest).symm⟩
  | createQueue sampleSize =>
      obtain rfl := Outcome.next.inj hStep
      obtain ⟨hStopped, hInput, hJoiner, hOutput⟩ := hCall
      refine h.attempt_stopped ⟨hStopped.state, hStopped.running, hStopped.noWorker⟩
        (h.callback_none hStopped.running) ⟨⟨hStopped.state, hStopped.running, hStopped.noWorker⟩, ?_⟩
      unfold View.Built
      by_cases hRequest : request = .buildCapturing
      · rw [if_pos hRequest]
        simp only [hRequest] at hInput hJoiner hOutput
        exact ⟨hInput, rfl, hJoiner, hOutput⟩
      · rw [if_neg hRequest]
        simp only [hRequest, ne_eq, not_false_eq_true, decide_true, decide_false] at hInput hJoiner hOutput
        exact ⟨hJoiner, hOutput, rfl, hInput⟩
  | setPaused =>
      obtain rfl := Outcome.next.inj hStep
      obtain ⟨hStopped, hBuilt⟩ := hCall
      have hPaused : ({ c.view with state := request.pausedState } : View).state =
          request.pausedState := rfl
      refine h.same rfl rfl rfl id (built_stateShape hPaused hBuilt) ?_
      exact ⟨rfl, hStopped.noWorker, hBuilt⟩
  | runSource =>
      obtain ⟨hState, hWorker, hBuilt⟩ := hCall
      have hRun : ∀ call, View.AtCall { c.view with running := true } call →
          ({ c with running := true, call := call } : Config).Agree := fun call hCall =>
        Agree.unstarted hWorker (built_stateShape hState hBuilt) (fun _ => rfl)
          (fun _ => built_source hBuilt) hCall
      simp only [buildStep] at hStep
      split_ifs at hStep with hRequest
      · obtain rfl := (Outcome.next.inj (Outcome.require_next.mp hStep).2)
        rcases attempt_cases { c with running := true } request ans.failure
          ({ c with running := true }.goto request (.build .startWorker)) with ⟨_, _, hExit⟩ | ⟨_, hNext⟩
        · rw [hExit]
          exact hRun _ trivial
        · rw [hNext]
          exact hRun _ ⟨hState, hWorker, hBuilt⟩
      · obtain rfl := (Outcome.next.inj (Outcome.require_next.mp hStep).2)
        rcases attempt_cases { c with running := true } request ans.failure
          ({ c with running := true }.goto request (.build .recPause)) with ⟨_, _, hExit⟩ | ⟨_, hNext⟩
        · rw [hExit]
          exact hRun _ trivial
        · rw [hNext]
          exact hRun _ ⟨hState, hWorker, hBuilt, hRequest⟩
  | recPause =>
      rw [command_next hStep]
      exact h.same rfl rfl rfl id h.state ⟨hCall.1, hCall.2.1, hCall.2.2.1⟩
  | startWorker =>
      obtain rfl := Outcome.next.inj hStep
      obtain ⟨hState, hWorker, hBuilt⟩ := hCall
      unfold View.Built at hBuilt
      rcases attempt_cases c request ans.failure _ with ⟨_, _, hExit⟩ | ⟨_, hNext⟩
      · rw [hExit]
        exact h.exit request _
      · rw [hNext]
        refine ⟨h.state, ?_, h.callback, h.source, trivial⟩
        by_cases hRequest : request = .buildCapturing
        · rw [if_pos hRequest] at hBuilt
          simp only [hRequest, if_true]
          exact ⟨hBuilt, by simp [CapturePc.holdsFrame], by simp⟩
        · rw [if_neg hRequest] at hBuilt
          simp only [hRequest, if_false]
          exact ⟨hBuilt, by simp [RecordPc.holdsFrame, RecordReady]⟩

theorem Agree.start {pc : StartPc} (h : c.Agree) (hBusy : c.call = .busy request (.start pc))
    (hStep : startStep ans c request pc = .next c') : c'.Agree := by
  have hCall := h.call
  rw [hBusy] at hCall
  cases pc with
  | checkArgument =>
      obtain rfl := Outcome.next.inj hStep
      split_ifs
      · exact h.exit request _
      · exact h.same rfl rfl rfl id h.state trivial
  | readReady =>
      obtain rfl := Outcome.next.inj hStep
      split_ifs
      · exact h.same rfl rfl rfl id h.state trivial
      · exact h.exit request _
  | readPaused =>
      obtain rfl := Outcome.next.inj hStep
      split_ifs with hPaused
      · exact h.same rfl rfl rfl id h.state hPaused
      · exact h.exit request _
  | checkDisk =>
      obtain rfl := Outcome.next.inj hStep
      split_ifs
      · exact h.exit request _
      · exact h.same rfl rfl rfl id h.state hCall
  | clearReason | storeTarget | storeCaptureTime =>
      obtain rfl := Outcome.next.inj hStep
      exact h.same rfl rfl rfl id h.state hCall
  | storeState =>
      obtain rfl := Outcome.next.inj hStep
      have hShape := h.state
      unfold View.StateShape at hShape
      have hPaused : c.view.state = .capturePaused := hCall
      rw [hPaused] at hShape
      exact h.same rfl rfl rfl id hShape hShape
  | ctrlPlay =>
      rw [command_next hStep]
      exact h.exit request _

theorem Agree.control {pc : ControlPc} (h : c.Agree)
    (hStep : controlStep c request pc = .next c') : c'.Agree := by
  have hShape := h.state
  unfold View.StateShape at hShape
  cases pc with
  | stopCapturing =>
      obtain rfl := Outcome.next.inj hStep
      split_ifs with hState
      · have hView : c.view.state = .capturing := hState
        rw [hView] at hShape
        exact h.same rfl rfl rfl id hShape hShape
      · exact h.exit request _
  | startRecording =>
      obtain rfl := Outcome.next.inj hStep
      split_ifs with hState
      · have hView : c.view.state = .recordPaused := hState
        rw [hView] at hShape
        exact h.same rfl rfl rfl id hShape hShape
      · exact h.exit request _
  | stopRecording =>
      obtain rfl := Outcome.next.inj hStep
      split_ifs with hState
      · have hView : c.view.state = .recording := hState
        rw [hView] at hShape
        exact h.same rfl rfl rfl id hShape hShape
      · exact h.exit request _
  | clearReason =>
      obtain rfl := Outcome.next.inj hStep
      exact h.same rfl rfl rfl id h.state trivial
  | ctrlPause | ctrlRecord | ctrlRecPause =>
      rw [command_next hStep]
      exact h.exit request _
  | transport =>
      obtain rfl := Outcome.next.inj hStep
      exact h.exit request _

/-- A worker that is still running keeps the agreement by what it secures. -/
theorem Agree.worker_step (h : c.Agree) {w' : World} {worker' : Worker}
    (hOld : c.worker.isAbsent = false) (hNew : worker'.isAbsent = false)
    (hQueue : w'.queue.isSome = c.world.queue.isSome)
    (hState : w'.state = c.world.state ∨
      (c.world.state = .capturing ∨ c.world.state = .recording) ∧ w'.state = .finished)
    (hReady : ({ c with world := w', worker := worker' } : Config).WorkerReady) :
    ({ c with world := w', worker := worker' } : Config).Agree := by
  have hView : ({ c with world := w', worker := worker' } : Config).view =
      { c.view with state := w'.state } := by
    simp [view, hOld, hNew, hQueue]
  have hShape := h.state
  refine ⟨?_, hReady, h.callback, ?_, ?_⟩
  · rw [hView]
    rcases hState with hSame | ⟨hActive, hFinished⟩
    · rw [hSame]
      exact hShape
    · unfold View.StateShape at hShape ⊢
      rw [hFinished]
      rcases hActive with hActive | hActive
      · have hCapturing : c.view.state = .capturing := hActive
        rw [hCapturing] at hShape
        exact Or.inl hShape
      · have hRecording : c.view.state = .recording := hActive
        rw [hRecording] at hShape
        exact Or.inr hShape
  · rw [hView]
    exact h.source
  · rw [hView]
    rcases hState with hSame | ⟨hActive, hFinished⟩
    · rw [hSame]
      exact h.call
    · rw [hFinished]
      exact View.AtCall.finish h.call hActive hOld

/-- No worker runs inside a Build call. -/
theorem Agree.build_absent (h : c.Agree) {pc : BuildPc} (hBusy : c.call = .busy request (.build pc)) :
    c.worker = .absent := by
  have hCall := h.call
  rw [hBusy] at hCall
  apply isAbsent_iff.mp
  cases pc with
  | runSource | recPause | startWorker => exact hCall.2.1
  | _ => exact hCall.1.noWorker

/-- Every step of every thread keeps state and pipeline in agreement. -/
theorem Agree.step {action : Action} (h : c.Agree) (hStep : c.step env action = some c') :
    c'.Agree := by
  cases step_move hStep with
  | @begin request free =>
      refine h.same rfl rfl rfl id h.state ?_
      cases request <;> trivial
  | @control ans request pc _ busy step =>
      cases pc with
      | destroy pc => exact h.destroy busy step
      | build pc => exact h.build busy step
      | start pc => exact h.start busy step
      | control pc => exact h.control step
  | @capture ans pc l w' t thread move =>
      have hReady := h.worker
      unfold WorkerReady at hReady
      rw [thread] at hReady
      have hQueue := move.keeps.queueSet
      refine h.worker_step (by rw [thread]; rfl) ?_ hQueue ?_ ?_
      · cases t <;> rfl
      · exact move.state.imp_right fun hState => ⟨Or.inl hState.1, hState.2⟩
      · cases t with
        | none => trivial
        | some next =>
            refine ⟨?_, move.ready hReady.2⟩
            have hShape := hReady.1
            simp only [View.CaptureShape, view] at hShape ⊢
            rwa [hQueue]
  | @record ans pc l w' t thread move =>
      have hReady := h.worker
      unfold WorkerReady at hReady
      rw [thread] at hReady
      have hQueue := move.keeps.queueSet
      refine h.worker_step (by rw [thread]; rfl) ?_ hQueue ?_ ?_
      · cases t <;> rfl
      · exact move.state.imp_right fun hState => ⟨Or.inr hState.1, hState.2⟩
      · cases t with
        | none => trivial
        | some next =>
            refine ⟨?_, move.ready hReady.2⟩
            have hShape := hReady.1
            simp only [View.RecordShape, view] at hShape ⊢
            rwa [hQueue]
  | deliver running free => exact ⟨h.state, h.worker, fun _ => running, h.source, h.call⟩
  | @callback callback w' next thread move =>
      have hKeeps := move.keeps
      have hView : (c.callbackResult (w', next)).view = c.view := by
        simp [view, callbackResult, hKeeps.state, hKeeps.queueSet]
      refine h.same ?_ rfl hKeeps.aviWriter (fun _ => by simp [thread]) ?_ ?_
      · rw [hView]
        simp [view, callbackResult, hKeeps.state]
      · rw [hView]
        exact h.state
      · rw [hView]
        exact h.call
  | tick => exact h.same rfl rfl rfl id h.state h.call
  | setOptions => exact h.same rfl rfl rfl id h.state h.call
  | takeError => exact h.same rfl rfl rfl id h.state h.call

end Config

section NoCrash

variable {env : Environment} {ans : Answer} {clock : Nat} {pipeline : Pipeline} {w : World}

/-- With its input, its queue and what it has secured, the capture thread
follows no null pointer. -/
theorem captureStep_safe {l : CaptureLocals} {pc : CapturePc} (hInput : pipeline.dvInput = true)
    (hQueue : w.queue.isSome = true) (hReady : CaptureReady w l pc) (p : Pointer) :
    captureStep env ans clock pipeline w l pc ≠ .crash p := by
  obtain ⟨queue, hQueue⟩ := Option.isSome_iff_exists.mp hQueue
  cases pc with
  | getMediaType | readDropped | updateDropped | rereadDropped => simp [captureStep, hInput]
  | getFrame =>
      simp only [captureStep, hQueue, Outcome.follow]
      split <;> simp
  | readState | readDiskState | checkDisk | splitFile | exchange =>
      simp only [captureStep]
      split_ifs <;> simp
  | noFrame => simp [captureStep, hQueue]
  | preview =>
      simp only [captureStep, hQueue, Outcome.follow]
      split_ifs <;> simp
  | openWriter =>
      simp only [captureStep]
      split <;> simp
  | frameSeen | addTime =>
      obtain ⟨span, hSpan⟩ := Option.isSome_iff_exists.mp (hReady.frame rfl)
      simp [captureStep, hQueue, hSpan]
  | writeFrame =>
      obtain ⟨span, hSpan⟩ := Option.isSome_iff_exists.mp (hReady.frame rfl)
      obtain ⟨writer, hWriter⟩ := Option.isSome_iff_exists.mp (hReady.writer rfl)
      simp only [captureStep, hQueue, hSpan, hWriter, Outcome.follow]
      split_ifs
      · split <;> simp
      · simp
  | _ => simp [captureStep]

theorem recordStep_safe {l : RecordLocals} {pc : RecordPc} (hOutput : pipeline.dvOutput = true)
    (hQueue : w.queue.isSome = true) (hReady : RecordReady l pc) (p : Pointer) :
    recordStep env ans clock pipeline w l pc ≠ .crash p := by
  obtain ⟨queue, hQueue⟩ := Option.isSome_iff_exists.mp hQueue
  cases pc with
  | firstFrame | nextFrame =>
      simp only [recordStep, hQueue, Outcome.follow]
      split <;> simp
  | preview =>
      simp only [recordStep, hQueue, Outcome.follow]
      split_ifs <;> simp
  | frameSeen | addTime =>
      obtain ⟨span, hSpan⟩ := Option.isSome_iff_exists.mp (hReady rfl)
      simp [recordStep, hQueue, hSpan]
  | output =>
      obtain ⟨span, hSpan⟩ := Option.isSome_iff_exists.mp (hReady rfl)
      simp only [recordStep, hQueue, hSpan, hOutput, Outcome.follow, Outcome.require, if_true]
      split <;> simp
  | exchange =>
      simp only [recordStep]
      split_ifs <;> simp
  | _ => simp [recordStep]

theorem callbackStep_safe {callback : Callback} (hQueue : w.queue.isSome = true) (p : Pointer) :
    callbackStep w callback ≠ .crash p := by
  obtain ⟨queue, hQueue⟩ := Option.isSome_iff_exists.mp hQueue
  cases callback with
  | putFrame frame =>
      simp only [callbackStep, hQueue, Outcome.follow]
      split <;> simp
  | _ => simp [callbackStep, hQueue]

namespace Config

variable {c : Config} {request : Request}

theorem command_safe {pointer : Pointer} {isSet : Bool} {next : Config} (hSet : isSet = true)
    (p : Pointer) : c.command pointer isSet next ≠ .crash p := by
  unfold command
  split_ifs
  · simp [hSet]
  · simp

theorem buildStep_safe {pc : BuildPc} (hCall : c.view.AtBuild request pc) (p : Pointer) :
    buildStep ans c request pc ≠ .crash p := by
  cases pc with
  | getMediaType =>
      obtain ⟨_, hInput, hJoiner, _⟩ := hCall
      simp only [view] at hInput hJoiner
      by_cases hRequest : request = .buildCapturing
      · simp [buildStep, hRequest, hInput]
      · simp [buildStep, hRequest, hJoiner]
  | runSource =>
      obtain ⟨_, _, hBuilt⟩ := hCall
      unfold View.Built at hBuilt
      by_cases hRequest : request = .buildCapturing
      · rw [if_pos hRequest] at hBuilt
        have hInput : c.pipeline.dvInput = true := hBuilt.1
        simp [buildStep, hRequest, hInput]
      · rw [if_neg hRequest] at hBuilt
        have hJoiner : c.pipeline.aviJoiner = true := hBuilt.1
        simp [buildStep, hRequest, hJoiner]
  | recPause =>
      obtain ⟨_, _, hBuilt, hRequest⟩ := hCall
      unfold View.Built at hBuilt
      rw [if_neg hRequest] at hBuilt
      exact command_safe hBuilt.2.1 p
  | _ => simp [buildStep]

/-- No thread follows a null pointer. -/
theorem Agree.safe (h : c.Agree) (action : Action) (p : Pointer) :
    c.outcome env action ≠ .crash p := by
  cases action with
  | begin request =>
      simp only [outcome]
      split <;> simp
  | control ans =>
      have hCall := h.call
      cases hBusy : c.call with
      | ready => simp [outcome, hBusy]
      | exited request result => simp [outcome, hBusy]
      | busy request pc =>
          simp only [outcome, hBusy]
          rw [hBusy] at hCall
          cases pc with
          | destroy pc =>
              change destroyStep env ans c request pc ≠ _
              cases pc <;> simp only [destroyStep] <;> repeat' split
              all_goals simp
          | build pc => exact buildStep_safe hCall p
          | start pc =>
              cases pc with
              | ctrlPlay =>
                  have hShape : c.view.CaptureShape := hCall
                  exact command_safe hShape.1 p
              | _ => simp [callStep, startStep]
          | control pc =>
              cases pc with
              | ctrlPause =>
                  have hShape : c.view.CaptureShape := hCall
                  exact command_safe hShape.1 p
              | ctrlRecord | ctrlRecPause =>
                  have hShape : c.view.RecordShape := hCall
                  exact command_safe hShape.2.1 p
              | _ => simp [callStep, controlStep]
  | worker ans =>
      have hReady := h.worker
      unfold WorkerReady at hReady
      cases hThread : c.worker with
      | absent => simp [outcome, hThread]
      | returned => simp [outcome, hThread]
      | capture pc l =>
          rw [hThread] at hReady
          simp only [outcome, hThread, ne_eq, Outcome.map_crash]
          exact captureStep_safe hReady.1.1 hReady.1.2.1 hReady.2 p
      | record pc l =>
          rw [hThread] at hReady
          simp only [outcome, hThread, ne_eq, Outcome.map_crash]
          exact recordStep_safe hReady.1.2.1 hReady.1.2.2.1 hReady.2 p
  | deliver event =>
      unfold outcome
      split_ifs <;> simp
  | callback =>
      cases hThread : c.callback with
      | none => simp [outcome, hThread]
      | some callback =>
          simp only [outcome, hThread, ne_eq, Outcome.map_crash]
          have hRunning := h.callback (by simp [hThread])
          exact callbackStep_safe (h.source hRunning).1 p
  | tick elapsed => simp [outcome]
  | setOptions options => simp [outcome]
  | takeError => simp [outcome]

end Config

end NoCrash

open Transition in
/-- Over all interleavings: which pointers are set follows from the state, the
worker only ever finishes a capture or a recording, and no step follows a null
pointer. -/
theorem state_and_pipeline_agree (env : Environment) {c : Config}
    (h : Reachable (Config.step env) {} c) :
    ((c.world.state = .capturePaused ∨ c.world.state = .capturing) →
      c.pipeline.dvInput = true ∧ c.world.queue.isSome = true ∧
        c.pipeline.aviJoiner = false ∧ c.pipeline.dvOutput = false) ∧
    ((c.world.state = .recordPaused ∨ c.world.state = .recording) →
      c.pipeline.aviJoiner = true ∧ c.pipeline.dvOutput = true ∧
        c.world.queue.isSome = true ∧ c.pipeline.dvInput = false) ∧
    (c.world.state = .finished →
      (c.pipeline.dvInput = true ∧ c.world.queue.isSome = true ∧
        c.pipeline.aviJoiner = false ∧ c.pipeline.dvOutput = false) ∨
      (c.pipeline.aviJoiner = true ∧ c.pipeline.dvOutput = true ∧
        c.world.queue.isSome = true ∧ c.pipeline.dvInput = false)) ∧
    (∀ ans c', c.step env (.worker ans) = some c' →
      c'.world.state = c.world.state ∨
        (c.world.state = .capturing ∨ c.world.state = .recording) ∧ c'.world.state = .finished) ∧
    ∀ action p, c.outcome env action ≠ .crash p := by
  have hAgree : c.Agree := h.invariant Config.Agree Config.agree_initial fun s a t hs hStep => hs.step hStep
  have hShape := hAgree.state
  unfold View.StateShape at hShape
  have hView : c.view.state = c.world.state := rfl
  refine ⟨?_, ?_, ?_, ?_, hAgree.safe⟩
  · intro hState
    rcases hState with hState | hState <;> rw [hView, hState] at hShape <;> exact hShape
  · intro hState
    rcases hState with hState | hState <;> rw [hView, hState] at hShape <;> exact hShape
  · intro hState
    rw [hView, hState] at hShape
    exact hShape
  · intro ans c' hStep
    cases Config.step_move hStep with
    | capture thread move => exact move.state.imp_right fun hState => ⟨Or.inl hState.1, hState.2⟩
    | record thread move => exact move.state.imp_right fun hState => ⟨Or.inr hState.1, hState.2⟩

open Transition in
/-- A capture in progress, reached by a build and a start. -/
theorem state_and_pipeline_agree_capturing :
    ∃ c, Reachable (Config.step .plain) {} c ∧ c.world.state = .capturing ∧
      c.pipeline.dvInput = true ∧ c.world.queue.isSome = true ∧
        c.pipeline.aviJoiner = false ∧ c.pipeline.dvOutput = false := by
  obtain ⟨log, c, run, hTest⟩ := exec_witness (Config.step .plain) {}
    (perform .buildCapturing 15 ++ work 4 ++ perform (.startCapturing ⟨wide "tape", [], 0, 0⟩) 7)
    (fun _ c => c.world.state == .capturing) (by decide +kernel)
  have hState : c.world.state = .capturing := by simpa using hTest
  exact ⟨c, ⟨log, run⟩, hState, (state_and_pipeline_agree .plain ⟨log, run⟩).1 (Or.inr hState)⟩

end WinDV
