import WinDV.Engine.RecordLoop

/-! The public methods of `DVEngine`, called one at a time by the controlling
thread, and the callbacks of the source. -/
namespace WinDV

/-- The arguments of `StartCapturing`. -/
structure StartArgs where
  filename : WString
  dtformat : WString
  ndigits : Int
  captureTime : Int64
  deriving DecidableEq, Repr

/-- The calls. `captureStart` is `windv_capture_start`; the other exports only
forward to the method of their name. -/
inductive Request where
  | destroy
  | buildCapturing
  | buildRecording
  | startCapturing (args : StartArgs)
  | captureStart (fileBase dateFormat : WString) (suffixDigits : Int) (duration : Int64)
  | stopCapturing
  | startRecording
  | stopRecording
  | transport
  deriving DecidableEq, Repr

/-- The steps of `Destroy`. -/
inductive DestroyPc where
  | setIdle
  | closeQueue
  | stopJoiner
  | stopInput
  | join
  | release
  | clearStatus
  deriving DecidableEq, Repr

/-- The steps of a Build call after its `Destroy`. -/
inductive BuildPc where
  | takeError
  | openSource
  | getMediaType
  | createMonitor (sampleSize : Nat)
  | openOutput (sampleSize : Nat)
  | createQueue (sampleSize : Nat)
  | setPaused
  | runSource
  | recPause
  | startWorker
  deriving DecidableEq, Repr

/-- The steps of `windv_capture_start` and, from `readPaused` on, of
`StartCapturing`. -/
inductive StartPc where
  | checkArgument
  | readReady
  | readPaused
  | checkDisk
  | clearReason
  | storeTarget
  | storeCaptureTime
  | storeState
  | ctrlPlay
  deriving DecidableEq, Repr

/-- The steps of the calls that only pause and continue. -/
inductive ControlPc where
  | stopCapturing
  | ctrlPause
  | clearReason
  | startRecording
  | ctrlRecord
  | stopRecording
  | ctrlRecPause
  | transport
  deriving DecidableEq, Repr

/-- The next step of the controlling thread inside a call. -/
inductive CallPc where
  | destroy (pc : DestroyPc)
  | build (pc : BuildPc)
  | start (pc : StartPc)
  | control (pc : ControlPc)
  deriving DecidableEq, Repr

inductive Result where
  | ok
  | invalidArgument
  | failed (message : WString)
  deriving DecidableEq, Repr

/-- The controlling thread. -/
inductive Call where
  | ready
  | busy (request : Request) (pc : CallPc)
  | exited (request : Request) (result : Result)
  deriving DecidableEq, Repr

/-- `m_thread`. A thread that has returned stays joinable. -/
inductive Worker where
  | absent
  | capture (pc : CapturePc) (l : CaptureLocals)
  | record (pc : RecordPc) (l : RecordLocals)
  | returned

/-- A callback of the source, at its next step. -/
inductive Callback where
  | handleFrame (frame : Frame)
  | putFrame (frame : Frame)
  | reportOversized
  | closeQueue
  | endOfStream
  | sourceError (message : WString)
  deriving DecidableEq, Repr

/-- The engine and its threads. `running` says that the source has been run
and not stopped since; it makes one callback at a time. -/
structure Config where
  world : World := {}
  pipeline : Pipeline := {}
  worker : Worker := .absent
  running : Bool := false
  callback : Option Callback := none
  call : Call := .ready
  clock : Nat := 0

/-- Where a call starts. -/
def Request.entry : Request → CallPc
  | .destroy | .buildCapturing | .buildRecording => .destroy .setIdle
  | .startCapturing _ => .start .readPaused
  | .captureStart _ _ _ _ => .start .checkArgument
  | .stopCapturing => .control .stopCapturing
  | .startRecording => .control .clearReason
  | .stopRecording => .control .stopRecording
  | .transport => .control .transport

/-- What `StartCapturing` is called with. `windv_capture_start` clamps the
digits to 0..4 and the duration to 0 and up. -/
def Request.startArgs : Request → StartArgs
  | .startCapturing args => args
  | .captureStart fileBase dateFormat suffixDigits duration =>
      ⟨fileBase, dateFormat, max 0 (min suffixDigits 4), max duration 0⟩
  | _ => ⟨[], [], 0, 0⟩

/-- `StartCapturing`'s `m_target`, numbered after the captures so far. -/
def StartArgs.target (args : StartArgs) (session : Nat) : CaptureTarget :=
  ⟨args.filename, args.dtformat, args.ndigits, session⟩

namespace World

/-- `m_queue->Close()`, if there is a queue. -/
def closeQueue (w : World) : World := { w with queue := w.queue.map FrameQueue.close }

/-- What `Destroy` releases when no other thread is left. -/
def release (env : Environment) (ans : Answer) (w : World) : World :=
  { w.resetWriter env ans with queue := none }

/-- The members `Destroy` resets at its end. -/
def clearStatus (w : World) : World :=
  { w with
    dropped := 0
    counter := -1
    time := -1
    captureTime := 0
    framesReceived := 0
    stopReason := .none }

/-- `TakeError` at the start of a Build call. The history of a pipeline begins here. -/
def beginPipeline (w : World) : World :=
  { w with
    error := []
    history := { w.history with errorReported := false, accepted := [], taken := [], sent := [] } }

/-- The store of `m_state = Capturing`. The history of a capture begins here. -/
def beginCapture (w : World) (args : StartArgs) : World :=
  { w with
    state := .capturing
    history := { w.history with
      captures := w.history.captures + 1
      captureOf := args.target (w.history.captures + 1)
      requested := args.captureTime
      dequeued := []
      lastDequeue := none
      watchTimeout := 0
      measured := none } }

end World

namespace Config

/-- Go on with the call at `pc`. -/
def goto (c : Config) (request : Request) (pc : CallPc) : Config :=
  { c with call := .busy request pc }

/-- The call returns or throws. -/
def exit (c : Config) (request : Request) (result : Result) : Config :=
  { c with call := .exited request result }

/-- A step that throws if it fails. -/
def attempt (c : Config) (request : Request) (failure : Option WString) (success : Config) : Config :=
  match failure with
  | some message => c.exit request (.failed message)
  | none => success

/-- A deck command, given when the deck follows the pipeline. -/
def command (c : Config) (pointer : Pointer) (isSet : Bool) (next : Config) : Outcome Config :=
  if c.world.options.DVctrl then .require pointer isSet (.next next) else .next next

section

variable (env : Environment) (ans : Answer) (c : Config) (request : Request)

/-- `Destroy`. -/
def destroyStep : DestroyPc → Outcome Config
  | .setIdle =>
      .next ({ c with world := { c.world with state := .idle } }.goto request (.destroy .closeQueue))
  | .closeQueue => .next ({ c with world := c.world.closeQueue }.goto request (.destroy .stopJoiner))
  | .stopJoiner =>
      if c.pipeline.aviJoiner then
        if c.callback = none then .next ({ c with running := false }.goto request (.destroy .stopInput))
        else .blocked
      else .next (c.goto request (.destroy .stopInput))
  | .stopInput =>
      if c.pipeline.dvInput then
        if c.callback = none then .next ({ c with running := false }.goto request (.destroy .join))
        else .blocked
      else .next (c.goto request (.destroy .join))
  | .join =>
      match c.worker with
      | .absent => .next (c.goto request (.destroy .release))
      | .returned => .next ({ c with worker := .absent }.goto request (.destroy .release))
      | .capture _ _ | .record _ _ => .blocked
  | .release =>
      .next ({ c with
        pipeline := {}
        world := c.world.release env ans }.goto request (.destroy .clearStatus))
  | .clearStatus =>
      let c' := { c with world := c.world.clearStatus }
      .next (if request = .destroy then c'.exit request .ok
        else c'.goto request (.build .takeError))

/-- `BuildCapturing` and `BuildRecording`. -/
def buildStep : BuildPc → Outcome Config
  | .takeError =>
      .next ({ c with world := c.world.beginPipeline }.goto request (.build .openSource))
  | .openSource =>
      let pipeline :=
        if request = .buildCapturing then { c.pipeline with dvInput := true }
        else { c.pipeline with aviJoiner := true }
      .next (c.attempt request ans.failure
        ({ c with pipeline := pipeline }.goto request (.build .getMediaType)))
  | .getMediaType =>
      let next := c.attempt request ans.failure
        (c.goto request (.build (.createMonitor (max ans.sampleSize kDVFrameSizePAL))))
      if request = .buildCapturing then .require .dvInput c.pipeline.dvInput (.next next)
      else .require .aviJoiner c.pipeline.aviJoiner (.next next)
  | .createMonitor sampleSize =>
      let pc := if request = .buildCapturing then .createQueue sampleSize else .openOutput sampleSize
      .next (c.attempt request ans.failure
        ({ c with pipeline := { c.pipeline with monitor := ans.monitor } }.goto request (.build pc)))
  | .openOutput sampleSize =>
      .next (c.attempt request ans.failure
        ({ c with pipeline := { c.pipeline with dvOutput := true } }.goto request
          (.build (.createQueue sampleSize))))
  | .createQueue sampleSize =>
      .next (c.attempt request ans.failure
        ({ c with world := { c.world with queue := some (.new kQueueFrames sampleSize) } }.goto request
          (.build .setPaused)))
  | .setPaused =>
      let state := if request = .buildCapturing then .capturePaused else .recordPaused
      .next ({ c with world := { c.world with state := state } }.goto request (.build .runSource))
  | .runSource =>
      -- The handler is set before the graph is run, so frames may come even if that fails.
      let next := fun pc =>
        { c with running := true }.attempt request ans.failure
          ({ c with running := true }.goto request (.build pc))
      if request = .buildCapturing then
        .require .dvInput c.pipeline.dvInput (.next (next .startWorker))
      else .require .aviJoiner c.pipeline.aviJoiner (.next (next .recPause))
  | .recPause => c.command .dvOutput c.pipeline.dvOutput (c.goto request (.build .startWorker))
  | .startWorker =>
      let worker :=
        if request = .buildCapturing then Worker.capture .getMediaType {}
        else Worker.record .notifyStarted {}
      .next (c.attempt request ans.failure ({ c with worker := worker }.exit request .ok))

/-- `windv_capture_start` and `StartCapturing`. -/
def startStep : StartPc → Outcome Config
  | .checkArgument =>
      .next (if request.startArgs.filename = [] then c.exit request .invalidArgument
        else c.goto request (.start .readReady))
  | .readReady =>
      .next (if c.world.state = .capturePaused then c.goto request (.start .readPaused)
        else c.exit request (.failed notReadyMessage))
  | .readPaused =>
      .next (if c.world.state = .capturePaused then c.goto request (.start .checkDisk)
        else c.exit request .ok)
  | .checkDisk =>
      let filename := request.startArgs.filename
      .next (if diskNearlyFull ans filename then c.exit request (.failed (diskFullMessage ans filename))
        else c.goto request (.start .clearReason))
  | .clearReason => .next ({ c with world := c.world.clearReason }.goto request (.start .storeTarget))
  | .storeTarget =>
      let target := request.startArgs.target (c.world.history.captures + 1)
      .next ({ c with world := { c.world with target := target } }.goto request
        (.start .storeCaptureTime))
  | .storeCaptureTime =>
      .next ({ c with world := { c.world with captureTime := request.startArgs.captureTime } }.goto
        request (.start .storeState))
  | .storeState =>
      .next ({ c with world := c.world.beginCapture request.startArgs }.goto request (.start .ctrlPlay))
  | .ctrlPlay => c.command .dvInput c.pipeline.dvInput (c.exit request .ok)

/-- `StopCapturing`, `StartRecording`, `StopRecording` and `Transport`. -/
def controlStep : ControlPc → Outcome Config
  | .stopCapturing =>
      .next (if c.world.state = .capturing then
          { c with world := { c.world with state := .capturePaused } }.goto request (.control .ctrlPause)
        else c.exit request .ok)
  | .ctrlPause => c.command .dvInput c.pipeline.dvInput (c.exit request .ok)
  | .clearReason =>
      .next ({ c with world := c.world.clearReason }.goto request (.control .startRecording))
  | .startRecording =>
      .next (if c.world.state = .recordPaused then
          { c with world := { c.world with state := .recording } }.goto request (.control .ctrlRecord)
        else c.exit request .ok)
  | .ctrlRecord => c.command .dvOutput c.pipeline.dvOutput (c.exit request .ok)
  | .stopRecording =>
      .next (if c.world.state = .recording then
          { c with world := { c.world with state := .recordPaused } }.goto request (.control .ctrlRecPause)
        else c.exit request .ok)
  | .ctrlRecPause => c.command .dvOutput c.pipeline.dvOutput (c.exit request .ok)
  | .transport => .next (c.exit request .ok)

/-- One step of the controlling thread inside a call. -/
def callStep : CallPc → Outcome Config
  | .destroy pc => destroyStep env ans c request pc
  | .build pc => buildStep ans c request pc
  | .start pc => startStep ans c request pc
  | .control pc => controlStep c request pc

end

end Config

end WinDV
