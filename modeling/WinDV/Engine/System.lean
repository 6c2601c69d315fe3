import WinDV.Engine.Controller
import WinDV.Library.Transition

/-! The engine as one machine: the controlling thread, the worker thread, the
source's callbacks and the clock move in any order. -/
namespace WinDV

/-- What the source may do while it runs. -/
inductive SourceEvent where
  | frame (frame : Frame)
  | endOfStream
  | error (message : WString)
  deriving DecidableEq, Repr

/-- The first step of the callback for an event. -/
def SourceEvent.callback : SourceEvent → Callback
  | .frame received => .handleFrame received
  | .endOfStream => .endOfStream
  | .error message => .sourceError message

/-- `HandleFrame`, `EndOfStream` and `SourceError`. A callback that has
returned is `none`. -/
def callbackStep (w : World) : Callback → Outcome (World × Option Callback)
  | .handleFrame frame =>
      .next ({ w with framesReceived := w.framesReceived + 1 }, some (.putFrame frame))
  | .putFrame frame =>
      .follow .queue w.queue fun queue =>
        match queue.put frame with
        | .lengthError => .next (w, some .reportOversized)
        | .blocked => .blocked
        | .refused => .next (w, none)
        | .stored queue' => .next (w.enqueue queue' frame, none)
  | .reportOversized => .next (w.reportError oversizedMessage, some .closeQueue)
  | .closeQueue | .endOfStream => .follow .queue w.queue fun _ => .next (w.closeQueue, none)
  | .sourceError message => .next (w.reportError message, some .closeQueue)

/-- One step of some thread. An action carries all that the environment
decides in the step. -/
inductive Action where
  | begin (request : Request)
  | control (ans : Answer)
  | worker (ans : Answer)
  | deliver (event : SourceEvent)
  | callback
  | tick (elapsed : Nat)
  | setOptions (options : Options)
  | takeError

def Action.isWorker : Action → Bool
  | .worker _ => true
  | _ => false

def Action.isCallback : Action → Bool
  | .callback => true
  | _ => false

namespace Config

/-- The worker after a step of its thread function. -/
def captureResult (c : Config) (result : World × CaptureThread) : Config :=
  { c with
    world := result.1
    worker := match result.2 with
      | some (pc, l) => .capture pc l
      | none => .returned }

def recordResult (c : Config) (result : World × RecordThread) : Config :=
  { c with
    world := result.1
    worker := match result.2 with
      | some (pc, l) => .record pc l
      | none => .returned }

def callbackResult (c : Config) (result : World × Option Callback) : Config :=
  { c with world := result.1, callback := result.2 }

variable (env : Environment)

/-- What happens when an action is scheduled. -/
def outcome (c : Config) : Action → Outcome Config
  | .begin request =>
      match c.call with
      | .busy _ _ => .blocked
      | .ready | .exited _ _ => .next (c.goto request request.entry)
  | .control ans =>
      match c.call with
      | .busy request pc => callStep env ans c request pc
      | .ready | .exited _ _ => .blocked
  | .worker ans =>
      match c.worker with
      | .capture pc l => (captureStep env ans c.clock c.pipeline c.world l pc).map c.captureResult
      | .record pc l => (recordStep env ans c.clock c.pipeline c.world l pc).map c.recordResult
      | .absent | .returned => .blocked
  | .deliver event =>
      if c.running = true ∧ c.callback = none then .next { c with callback := some event.callback }
      else .blocked
  | .callback =>
      match c.callback with
      | some callback => (callbackStep c.world callback).map c.callbackResult
      | none => .blocked
  | .tick elapsed => .next { c with clock := c.clock + elapsed }
  | .setOptions options => .next { c with world := { c.world with options := options } }
  | .takeError => .next { c with world := { c.world with error := [] } }

/-- The step function of the engine. -/
def step (c : Config) (action : Action) : Option Config :=
  match c.outcome env action with
  | .next c' => some c'
  | .blocked | .crash _ | .overflow => none

variable {env}

theorem step_iff {c c' : Config} {action : Action} :
    c.step env action = some c' ↔ c.outcome env action = .next c' := by
  unfold step
  cases c.outcome env action <;> simp

end Config

/-- An environment for concrete runs: no recording times, no dates in names. -/
def Environment.plain : Environment where
  mktime _ := none
  formatTime _ _ := []
  caseFold := .ascii

/-- A call and its next steps, none of which fails. -/
def perform (request : Request) (steps : Nat) : List Action :=
  .begin request :: List.replicate steps (.control {})

/-- Steps of the worker, none of which fails. -/
def work (steps : Nat) : List Action := List.replicate steps (.worker {})

/-- A frame arrives and is put into the queue. -/
def receive (duration : Int64) : List Action := [.deliver (.frame ⟨duration, []⟩), .callback, .callback]

/-- A capture pipeline whose worker has come to its loop. -/
def readyToCapture : List Action := perform .buildCapturing 15 ++ work 4

/-- A capture that has written its first frame and is then stopped. -/
def stoppedCapture : List Action :=
  readyToCapture ++ perform (.startCapturing ⟨wide "tape", [], 0, 0⟩) 7 ++ receive 400 ++ work 19 ++
    perform .stopCapturing 2

end WinDV
