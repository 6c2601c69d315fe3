import WinDV.Engine.RecordMoves
import WinDV.Engine.System

/-! Everything a step of the whole engine can do, thread by thread. -/
namespace WinDV

/-- The moves of a source callback. -/
inductive CallbackMove (w : World) : Callback → World → Option Callback → Prop where
  | count {frame : Frame} : CallbackMove w (.handleFrame frame)
      { w with framesReceived := w.framesReceived + 1 } (some (.putFrame frame))
  | oversized {queue : FrameQueue} {frame : Frame} (isSet : w.queue = some queue)
      (tooLong : queue.frameSize < frame.data.length) :
      CallbackMove w (.putFrame frame) w (some .reportOversized)
  | refused {queue : FrameQueue} {frame : Frame} (isSet : w.queue = some queue)
      (closed : queue.closed = true) : CallbackMove w (.putFrame frame) w none
  | stored {queue queue' : FrameQueue} {frame : Frame} (isSet : w.queue = some queue)
      (put : queue.put frame = .stored queue') :
      CallbackMove w (.putFrame frame) (w.enqueue queue' frame) none
  | reportOversized :
      CallbackMove w .reportOversized (w.reportError oversizedMessage) (some .closeQueue)
  | sourceError {message : WString} :
      CallbackMove w (.sourceError message) (w.reportError message) (some .closeQueue)
  | close {callback : Callback} (closes : callback = .closeQueue ∨ callback = .endOfStream) :
      CallbackMove w callback w.closeQueue none

theorem callbackStep_move {w w' : World} {callback : Callback} {next : Option Callback}
    (h : callbackStep w callback = .next (w', next)) : CallbackMove w callback w' next := by
  cases callback with
  | handleFrame frame =>
      obtain ⟨rfl, rfl⟩ := Outcome.next_pair h
      exact .count
  | putFrame frame =>
      obtain ⟨queue, hQueue, h⟩ := Outcome.follow_next.mp h
      cases hPut : queue.put frame with
      | lengthError =>
          rw [hPut] at h
          obtain ⟨rfl, rfl⟩ := Outcome.next_pair h
          exact .oversized hQueue (FrameQueue.put_lengthError.mp hPut)
      | blocked => simp [hPut] at h
      | refused =>
          rw [hPut] at h
          obtain ⟨rfl, rfl⟩ := Outcome.next_pair h
          exact .refused hQueue (FrameQueue.put_refused.mp hPut).2
      | stored queue' =>
          rw [hPut] at h
          obtain ⟨rfl, rfl⟩ := Outcome.next_pair h
          exact .stored hQueue hPut
  | reportOversized =>
      obtain ⟨rfl, rfl⟩ := Outcome.next_pair h
      exact .reportOversized
  | sourceError message =>
      obtain ⟨rfl, rfl⟩ := Outcome.next_pair h
      exact .sourceError
  | closeQueue =>
      obtain ⟨_, _, h⟩ := Outcome.follow_next.mp h
      obtain ⟨rfl, rfl⟩ := Outcome.next_pair h
      exact .close (Or.inl rfl)
  | endOfStream =>
      obtain ⟨_, _, h⟩ := Outcome.follow_next.mp h
      obtain ⟨rfl, rfl⟩ := Outcome.next_pair h
      exact .close (Or.inr rfl)

/-- The moves of the engine. -/
inductive Config.Move (env : Environment) (c : Config) : Action → Config → Prop where
  | begin {request : Request} (free : ∀ r pc, c.call ≠ .busy r pc) :
      Config.Move env c (.begin request) (c.goto request request.entry)
  | control {ans : Answer} {request : Request} {pc : CallPc} {c' : Config}
      (busy : c.call = .busy request pc) (step : callStep env ans c request pc = .next c') :
      Config.Move env c (.control ans) c'
  | capture {ans : Answer} {pc : CapturePc} {l : CaptureLocals} {w' : World} {t : CaptureThread}
      (thread : c.worker = .capture pc l)
      (move : CaptureMove env ans c.clock c.world l pc w' t) :
      Config.Move env c (.worker ans) (c.captureResult (w', t))
  | record {ans : Answer} {pc : RecordPc} {l : RecordLocals} {w' : World} {t : RecordThread}
      (thread : c.worker = .record pc l)
      (move : RecordMove env ans c.clock c.world l pc w' t) :
      Config.Move env c (.worker ans) (c.recordResult (w', t))
  | deliver {event : SourceEvent} (running : c.running = true) (free : c.callback = none) :
      Config.Move env c (.deliver event) { c with callback := some event.callback }
  | callback {callback : Callback} {w' : World} {next : Option Callback}
      (thread : c.callback = some callback) (move : CallbackMove c.world callback w' next) :
      Config.Move env c .callback (c.callbackResult (w', next))
  | tick {elapsed : Nat} : Config.Move env c (.tick elapsed) { c with clock := c.clock + elapsed }
  | setOptions {options : Options} :
      Config.Move env c (.setOptions options) { c with world := { c.world with options := options } }
  | takeError : Config.Move env c .takeError { c with world := { c.world with error := [] } }

/-- What a step of the engine found and did. -/
theorem Config.step_move {env : Environment} {c c' : Config} {action : Action}
    (h : c.step env action = some c') : c.Move env action c' := by
  rw [step_iff] at h
  cases action with
  | begin request =>
      cases hCall : c.call with
      | busy r pc => simp [outcome, hCall] at h
      | ready =>
          simp only [outcome, hCall, Outcome.next.injEq] at h
          exact h ▸ .begin (by simp [hCall])
      | exited r result =>
          simp only [outcome, hCall, Outcome.next.injEq] at h
          exact h ▸ .begin (by simp [hCall])
  | control ans =>
      cases hCall : c.call with
      | busy request pc =>
          simp only [outcome, hCall] at h
          exact .control hCall h
      | ready => simp [outcome, hCall] at h
      | exited r result => simp [outcome, hCall] at h
  | worker ans =>
      cases hWorker : c.worker with
      | capture pc l =>
          simp only [outcome, hWorker, Outcome.map_next] at h
          obtain ⟨⟨w', t⟩, hStep, rfl⟩ := h
          exact .capture hWorker (captureStep_move hStep)
      | record pc l =>
          simp only [outcome, hWorker, Outcome.map_next] at h
          obtain ⟨⟨w', t⟩, hStep, rfl⟩ := h
          exact .record hWorker (recordStep_move hStep)
      | absent => simp [outcome, hWorker] at h
      | returned => simp [outcome, hWorker] at h
  | deliver event =>
      simp only [outcome] at h
      split_ifs at h with hRunning
      obtain rfl := Outcome.next.inj h
      exact .deliver hRunning.1 hRunning.2
  | callback =>
      cases hCallback : c.callback with
      | some callback =>
          simp only [outcome, hCallback, Outcome.map_next] at h
          obtain ⟨⟨w', next⟩, hStep, rfl⟩ := h
          exact .callback hCallback (callbackStep_move hStep)
      | none => simp [outcome, hCallback] at h
  | tick elapsed => exact Outcome.next.inj h ▸ .tick
  | setOptions options => exact Outcome.next.inj h ▸ .setOptions
  | takeError => exact Outcome.next.inj h ▸ .takeError

/-- The state a Build call assigns. -/
def Request.pausedState (request : Request) : EngineState :=
  if request = .buildCapturing then .capturePaused else .recordPaused

/-- The thread a Build call starts. -/
def Request.thread (request : Request) : Worker :=
  if request = .buildCapturing then .capture .getMediaType {} else .record .notifyStarted {}

/-- What a step of the controlling thread does to the shared members and to
the worker. Most steps change neither. -/
inductive CallMove (env : Environment) (ans : Answer) (w : World) (worker : Worker)
    (request : Request) : CallPc → World → Worker → Prop where
  | pass {pc : CallPc} : CallMove env ans w worker request pc w worker
  | setIdle : CallMove env ans w worker request (.destroy .setIdle) { w with state := .idle } worker
  | closeQueue : CallMove env ans w worker request (.destroy .closeQueue) w.closeQueue worker
  | join (returned : worker = .returned) :
      CallMove env ans w worker request (.destroy .join) w .absent
  | release : CallMove env ans w worker request (.destroy .release) (w.release env ans) worker
  | clearStatus : CallMove env ans w worker request (.destroy .clearStatus) w.clearStatus worker
  | takeError : CallMove env ans w worker request (.build .takeError) w.beginPipeline worker
  | createQueue {sampleSize : Nat} : CallMove env ans w worker request (.build (.createQueue sampleSize))
      { w with queue := some (.new kQueueFrames sampleSize) } worker
  | setPaused : CallMove env ans w worker request (.build .setPaused)
      { w with state := request.pausedState } worker
  | startWorker : CallMove env ans w worker request (.build .startWorker) w request.thread
  | clearReason {pc : CallPc} (clears : pc = .start .clearReason ∨ pc = .control .clearReason) :
      CallMove env ans w worker request pc w.clearReason worker
  | storeTarget : CallMove env ans w worker request (.start .storeTarget)
      { w with target := request.startArgs.target (w.history.captures + 1) } worker
  | storeCaptureTime : CallMove env ans w worker request (.start .storeCaptureTime)
      { w with captureTime := request.startArgs.captureTime } worker
  | storeState : CallMove env ans w worker request (.start .storeState)
      (w.beginCapture request.startArgs) worker
  | stopCapturing (capturing : w.state = .capturing) :
      CallMove env ans w worker request (.control .stopCapturing)
        { w with state := .capturePaused } worker
  | startRecording (paused : w.state = .recordPaused) :
      CallMove env ans w worker request (.control .startRecording) { w with state := .recording } worker
  | stopRecording (recording : w.state = .recording) :
      CallMove env ans w worker request (.control .stopRecording)
        { w with state := .recordPaused } worker

/-- The method a step of a call belongs to. -/
inductive CallPhase where
  | destroy
  | build
  | start
  | control

def CallPc.phase : CallPc → CallPhase
  | .destroy _ => .destroy
  | .build _ => .build
  | .start _ => .start
  | .control _ => .control

namespace Config

variable {env : Environment} {ans : Answer} {c c' : Config} {request : Request}

theorem command_next {pointer : Pointer} {isSet : Bool} {next : Config}
    (h : c.command pointer isSet next = .next c') : c' = next := by
  unfold command at h
  split_ifs at h
  · exact (Outcome.next.inj (Outcome.require_next.mp h).2).symm
  · exact (Outcome.next.inj h).symm

theorem attempt_cases (c : Config) (request : Request) (failure : Option WString) (success : Config) :
    (∃ message, failure = some message ∧
      c.attempt request failure success = c.exit request (.failed message)) ∨
    failure = none ∧ c.attempt request failure success = success := by
  cases failure with
  | none => exact Or.inr ⟨rfl, rfl⟩
  | some message => exact Or.inl ⟨message, rfl, rfl⟩

/-- A step of a call goes on with a step of the same method, except from the
end of `Destroy` in a Build call. -/
theorem callStep_phase {pc nextPc : CallPc} {next : Request}
    (h : callStep env ans c request pc = .next c') (hCall : c'.call = .busy next nextPc) :
    nextPc.phase = pc.phase ∨ pc = .destroy .clearStatus ∧ nextPc.phase = .build := by
  cases pc with
  | destroy pc =>
      cases pc <;> simp only [callStep, destroyStep] at h <;> (repeat' split at h) <;> cases h <;>
        cases hCall <;> first | exact Or.inl rfl | exact Or.inr ⟨rfl, rfl⟩
  | build pc =>
      left
      cases pc <;> simp only [callStep, buildStep, attempt] at h <;> (repeat' split at h) <;>
        first
        | (cases command_next h; cases hCall; rfl)
        | (cases Outcome.next.inj (Outcome.require_next.mp h).2; cases hCall; rfl)
        | (cases h; cases hCall; rfl)
        | (cases Outcome.next.inj (Outcome.require_next.mp h).2; cases hCall)
        | (cases h; cases hCall)
  | start pc =>
      left
      cases pc <;> simp only [callStep, startStep] at h <;> (repeat' split at h) <;>
        first
        | (cases command_next h; cases hCall)
        | (cases h; cases hCall; rfl)
        | (cases h; cases hCall)
  | control pc =>
      left
      cases pc <;> simp only [callStep, controlStep] at h <;> (repeat' split at h) <;>
        first
        | (cases command_next h; cases hCall)
        | (cases h; cases hCall; rfl)
        | (cases h; cases hCall)

/-- Only a Start call goes on to a step of a Start call. -/
theorem callStep_start {pc : CallPc} {next : Request} {startPc : StartPc}
    (h : callStep env ans c request pc = .next c') (hCall : c'.call = .busy next (.start startPc)) :
    ∃ before, pc = .start before ∧ startStep ans c request before = .next c' := by
  rcases callStep_phase h hCall with hSame | ⟨-, hBuild⟩
  · cases pc with
    | start before => exact ⟨before, rfl, h⟩
    | _ => cases hSame
  · cases hBuild

/-- Only the end of its `Destroy` or a Build call goes on to a step of a Build call. -/
theorem callStep_build {pc : CallPc} {next : Request} {buildPc : BuildPc}
    (h : callStep env ans c request pc = .next c') (hCall : c'.call = .busy next (.build buildPc)) :
    pc = .destroy .clearStatus ∨ ∃ before, pc = .build before := by
  rcases callStep_phase h hCall with hSame | ⟨hEnd, -⟩
  · cases pc with
    | build before => exact Or.inr ⟨before, rfl⟩
    | _ => cases hSame
  · exact Or.inl hEnd

/-- What a step of the controlling thread leaves to the other threads. -/
structure Steps (env : Environment) (ans : Answer) (c : Config) (request : Request) (pc : CallPc)
    (c' : Config) : Prop where
  move : CallMove env ans c.world c.worker request pc c'.world c'.worker
  callback : c'.callback = c.callback
  clock : c'.clock = c.clock

theorem Steps.pass {pc : CallPc} (hWorld : c'.world = c.world) (hWorker : c'.worker = c.worker)
    (hCallback : c'.callback = c.callback) (hClock : c'.clock = c.clock) :
    Steps env ans c request pc c' := by
  refine ⟨?_, hCallback, hClock⟩
  rw [hWorld, hWorker]
  exact .pass

theorem destroyStep_steps {pc : DestroyPc} (h : destroyStep env ans c request pc = .next c') :
    Steps env ans c request (.destroy pc) c' := by
  cases pc with
  | setIdle =>
      obtain rfl := Outcome.next.inj h
      exact ⟨.setIdle, rfl, rfl⟩
  | closeQueue =>
      obtain rfl := Outcome.next.inj h
      exact ⟨.closeQueue, rfl, rfl⟩
  | stopJoiner =>
      simp only [destroyStep] at h
      split_ifs at h
      all_goals
        obtain rfl := Outcome.next.inj h
        exact .pass rfl rfl rfl rfl
  | stopInput =>
      simp only [destroyStep] at h
      split_ifs at h
      all_goals
        obtain rfl := Outcome.next.inj h
        exact .pass rfl rfl rfl rfl
  | join =>
      cases hWorker : c.worker with
      | absent =>
          simp only [destroyStep, hWorker] at h
          obtain rfl := Outcome.next.inj h
          exact .pass rfl rfl rfl rfl
      | returned =>
          simp only [destroyStep, hWorker] at h
          obtain rfl := Outcome.next.inj h
          exact ⟨.join hWorker, rfl, rfl⟩
      | capture pc l => simp [destroyStep, hWorker] at h
      | record pc l => simp [destroyStep, hWorker] at h
  | release =>
      obtain rfl := Outcome.next.inj h
      exact ⟨.release, rfl, rfl⟩
  | clearStatus =>
      obtain rfl := Outcome.next.inj h
      split_ifs
      · exact ⟨.clearStatus, rfl, rfl⟩
      · exact ⟨.clearStatus, rfl, rfl⟩

theorem Steps.attempt {pc : CallPc} {failure : Option WString} {success : Config}
    (h : Steps env ans c request pc success) :
    Steps env ans c request pc (c.attempt request failure success) := by
  rcases attempt_cases c request failure success with ⟨message, _, hExit⟩ | ⟨_, hSuccess⟩
  · rw [hExit]
    exact .pass rfl rfl rfl rfl
  · rw [hSuccess]
    exact h

theorem buildStep_steps {pc : BuildPc} (h : buildStep ans c request pc = .next c') :
    Steps env ans c request (.build pc) c' := by
  cases pc with
  | takeError =>
      obtain rfl := Outcome.next.inj h
      exact ⟨.takeError, rfl, rfl⟩
  | openSource =>
      obtain rfl := Outcome.next.inj h
      exact Steps.attempt (.pass rfl rfl rfl rfl)
  | getMediaType =>
      simp only [buildStep] at h
      split_ifs at h
      all_goals
        obtain rfl := Outcome.next.inj (Outcome.require_next.mp h).2
        exact Steps.attempt (.pass rfl rfl rfl rfl)
  | createMonitor sampleSize =>
      obtain rfl := Outcome.next.inj h
      exact Steps.attempt (.pass rfl rfl rfl rfl)
  | openOutput sampleSize =>
      obtain rfl := Outcome.next.inj h
      exact Steps.attempt (.pass rfl rfl rfl rfl)
  | createQueue sampleSize =>
      obtain rfl := Outcome.next.inj h
      exact Steps.attempt ⟨.createQueue, rfl, rfl⟩
  | setPaused =>
      obtain rfl := Outcome.next.inj h
      exact ⟨.setPaused, rfl, rfl⟩
  | runSource =>
      simp only [buildStep] at h
      split_ifs at h
      all_goals
        obtain rfl := Outcome.next.inj (Outcome.require_next.mp h).2
        unfold attempt
        split <;> exact .pass rfl rfl rfl rfl
  | recPause =>
      rw [command_next h]
      exact .pass rfl rfl rfl rfl
  | startWorker =>
      obtain rfl := Outcome.next.inj h
      exact Steps.attempt ⟨.startWorker, rfl, rfl⟩

theorem startStep_steps {pc : StartPc} (h : startStep ans c request pc = .next c') :
    Steps env ans c request (.start pc) c' := by
  cases pc with
  | checkArgument | readReady | readPaused | checkDisk =>
      obtain rfl := Outcome.next.inj h
      split_ifs
      · exact .pass rfl rfl rfl rfl
      · exact .pass rfl rfl rfl rfl
  | clearReason =>
      obtain rfl := Outcome.next.inj h
      exact ⟨.clearReason (Or.inl rfl), rfl, rfl⟩
  | storeTarget =>
      obtain rfl := Outcome.next.inj h
      exact ⟨.storeTarget, rfl, rfl⟩
  | storeCaptureTime =>
      obtain rfl := Outcome.next.inj h
      exact ⟨.storeCaptureTime, rfl, rfl⟩
  | storeState =>
      obtain rfl := Outcome.next.inj h
      exact ⟨.storeState, rfl, rfl⟩
  | ctrlPlay =>
      rw [command_next h]
      exact .pass rfl rfl rfl rfl

theorem controlStep_steps {pc : ControlPc} (h : controlStep c request pc = .next c') :
    Steps env ans c request (.control pc) c' := by
  cases pc with
  | stopCapturing =>
      obtain rfl := Outcome.next.inj h
      split_ifs with hState
      · exact ⟨.stopCapturing hState, rfl, rfl⟩
      · exact .pass rfl rfl rfl rfl
  | startRecording =>
      obtain rfl := Outcome.next.inj h
      split_ifs with hState
      · exact ⟨.startRecording hState, rfl, rfl⟩
      · exact .pass rfl rfl rfl rfl
  | stopRecording =>
      obtain rfl := Outcome.next.inj h
      split_ifs with hState
      · exact ⟨.stopRecording hState, rfl, rfl⟩
      · exact .pass rfl rfl rfl rfl
  | clearReason =>
      obtain rfl := Outcome.next.inj h
      exact ⟨.clearReason (Or.inr rfl), rfl, rfl⟩
  | ctrlPause | ctrlRecord | ctrlRecPause =>
      rw [command_next h]
      exact .pass rfl rfl rfl rfl
  | transport =>
      obtain rfl := Outcome.next.inj h
      exact .pass rfl rfl rfl rfl

theorem callStep_steps {pc : CallPc} (h : callStep env ans c request pc = .next c') :
    Steps env ans c request pc c' := by
  cases pc with
  | destroy pc => exact destroyStep_steps h
  | build pc => exact buildStep_steps h
  | start pc => exact startStep_steps h
  | control pc => exact controlStep_steps h

end Config

end WinDV
