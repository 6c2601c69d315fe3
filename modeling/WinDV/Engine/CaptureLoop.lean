import WinDV.Engine.World

/-! `CapturingThread` and `CaptureLoop`. Every read and every write of a member
another thread can touch is a step of its own; the program counter says which
one is next. -/
namespace WinDV

/-- What is still to do after `FinishOnItsOwn` in the capture loop. -/
inductive Resume where
  | loopHead
  | readWriteState
  | updateDropped
  deriving DecidableEq, Repr

/-- The next step of the capture thread. -/
inductive CapturePc where
  | getMediaType
  | readDropped
  | clearCounter
  | clearTime
  | loopHead
  | getFrame
  | readClock
  | readState
  | newWatch
  | newFile
  | noFrame
  | signalLost
  | frameSeen
  | preview
  | readDiskState
  | checkDisk
  | diskFull
  | readWriteState
  | splitFile
  | copyTarget
  | openWriter
  | writeFrame
  | countFrame
  | addTime
  | readCaptureTime
  | clearCaptureTime
  | storeReason (reason : StopReason) (resume : Resume)
  | exchange (reason : StopReason) (resume : Resume)
  | rollback (resume : Resume)
  | updateDropped
  | closeFile
  | rereadDropped
  | readFinished
  | resetCounts
  | afterLoop
  | report (message : WString)
  | releaseWriter
  | notifyStopped
  deriving DecidableEq, Repr

/-- The locals of `CaptureLoop`. `frame` is the span `GetFor` returned. -/
structure CaptureLocals where
  counter : Int := 0
  dropped : Int32 := 0
  dvTime : Int := 0
  lastValidDVTime : Int := 0
  wasCapturing : Bool := false
  signal : SignalWatch := {}
  captureFile : WString := []
  framesSinceDiskCheck : Int := 0
  frame : Option FrameQueue.Span := none
  now : Nat := 0
  capturing : Bool := false
  deltaDVTime : Int := 0
  target : CaptureTarget := {}

/-- The recording time of the frame in hand, 0 if it has none. -/
def recordingTime (env : Environment) (frame : Frame) : Int :=
  (getDVRecordingTime env.mktime frame.data).getD 0

/-- The tracking of the recording timestamp. -/
def CaptureLocals.track (l : CaptureLocals) (newDVTime : Int) : CaptureLocals :=
  if newDVTime = l.dvTime then { l with deltaDVTime := 0 }
  else if 0 < newDVTime then
    { l with
      deltaDVTime := if 0 < l.lastValidDVTime then |newDVTime - l.lastValidDVTime| else 0
      lastValidDVTime := newDVTime
      dvTime := newDVTime }
  else { l with deltaDVTime := 0, dvTime := newDVTime }

/-- The test for a new file: the current one is full, or the scene changed. -/
def CaptureLocals.splits (l : CaptureLocals) (w : World) : Bool :=
  w.options.maxAVIFrames ≤ w.fileFrameCount ||
    (0 < w.options.discontinuityThreshold && w.options.discontinuityThreshold.toInt < l.deltaDVTime)

/-- Where an iteration goes once it knows whether the engine is capturing. -/
def CaptureLocals.afterState (l : CaptureLocals) : CapturePc :=
  if l.frame = none then .noFrame else .frameSeen

def Resume.pc : Resume → CapturePc
  | .loopHead => .loopHead
  | .readWriteState => .readWriteState
  | .updateDropped => .updateDropped

/-- A capture thread that has returned is `none`. -/
abbrev CaptureThread := Option (CapturePc × CaptureLocals)

section

variable (env : Environment) (ans : Answer) (clock : Nat) (pipeline : Pipeline) (w : World)
  (l : CaptureLocals)

/-- A step that may throw: the handler of `CapturingThread` reports it. -/
def orReport (failure : Option WString) (w : World) (l : CaptureLocals) (pc : CapturePc) :
    World × CaptureThread :=
  match failure with
  | some message => (w, some (.report message, l))
  | none => (w, some (pc, l))

/-- `FinishWriter` in the loop, then go on. -/
def finishThen (pc : CapturePc) : World × CaptureThread :=
  orReport (w.finishWriter env ans).2 (w.finishWriter env ans).1 l pc

/-- One step of `CapturingThread`. -/
def captureStep : CapturePc → Outcome (World × CaptureThread)
  | .getMediaType =>
      .require .dvInput pipeline.dvInput (.next (orReport ans.failure w l .readDropped))
  | .readDropped =>
      .require .dvInput pipeline.dvInput
        (.next (w, some (.clearCounter, { l with dropped := ans.droppedFrames })))
  | .clearCounter => .next ({ w with counter := 0 }, some (.clearTime, l))
  | .clearTime => .next ({ w with time := 0 }, some (.loopHead, l))
  | .loopHead => .next (w, some (if w.state = .idle then .afterLoop else .getFrame, l))
  | .getFrame =>
      .follow .queue w.queue fun queue =>
        match queue.getFor with
        | .frame span queue' =>
            .next (w.dequeue queue' span clock, some (.readClock, { l with frame := some span }))
        | .nullopt | .blocked => .next (w, some (.readClock, { l with frame := none }))
  | .readClock => .next (w, some (.readState, { l with now := clock }))
  | .readState =>
      let capturing := decide (w.state = .capturing)
      if capturing && !l.wasCapturing then
        .next (w, some (.newWatch, { l with capturing := capturing }))
      else
        .next (w, some (l.afterState, { l with capturing := capturing, wasCapturing := capturing }))
  | .newWatch =>
      let timeout := (max w.options.signalLossSeconds 0).toInt * 1000
      .next ({ w with history := { w.history with watchTimeout := timeout } },
        some (.newFile, { l with signal := { timeout := timeout } }))
  | .newFile =>
      .next (w, some (l.afterState, { l with
        captureFile := w.target.filename
        framesSinceDiskCheck := kDiskCheckFrames
        wasCapturing := l.capturing }))
  | .noFrame =>
      .follow .queue w.queue fun queue =>
        .next (w, some (
          if queue.closed then .afterLoop
          else if l.capturing && l.signal.lost l.now then .signalLost
          else .loopHead, l))
  | .signalLost => .next (finishThen env ans w l (.storeReason .signalLost .loopHead))
  | .frameSeen =>
      .follow .queue w.queue fun queue =>
        .follow .frame l.frame fun span =>
          let newDVTime := recordingTime env (queue.view span)
          let l' := if l.capturing then { l with signal := l.signal.frame l.now } else l
          .next (if newDVTime = l.dvTime then w else w.notifyTimeChange newDVTime,
            some (.preview, l'.track newDVTime))
  | .preview =>
      if pipeline.monitor then
        .follow .queue w.queue fun _ => .next (w, some (.readDiskState, l))
      else .next (w, some (.readDiskState, l))
  | .readDiskState =>
      if w.state = .capturing then
        if kDiskCheckFrames ≤ l.framesSinceDiskCheck + 1 then
          .next (w, some (.checkDisk, { l with framesSinceDiskCheck := 0 }))
        else
          .next (w, some (.readWriteState,
            { l with framesSinceDiskCheck := l.framesSinceDiskCheck + 1 }))
      else .next (w, some (.readWriteState, l))
  | .checkDisk =>
      if diskNearlyFull ans l.captureFile then
        .next ({ w with history := { w.history with
            measured := some (captureDirectory l.captureFile) } }, some (.diskFull, l))
      else .next (w, some (.readWriteState, l))
  | .diskFull => .next (finishThen env ans w l (.storeReason .diskFull .readWriteState))
  | .readWriteState =>
      .next (w, some (if w.state = .capturing then .splitFile else .closeFile, l))
  | .splitFile =>
      if w.aviWriter = none then .next (w, some (.copyTarget, l))
      else if l.splits w then .next (finishThen env ans w l .copyTarget)
      else .next (w, some (.writeFrame, l))
  | .copyTarget => .next (w, some (.openWriter, { l with target := w.target }))
  | .openWriter =>
      match ans.failure with
      | some message => .next (w, some (.report message, l))
      | none =>
          .next ({ w with
              aviWriter := some (AVIWriter.new env ans l.target l.dvTime w.options.type2AVI)
              fileFrameCount := 0 },
            some (.writeFrame, { l with counter := 0 }))
  | .writeFrame =>
      .follow .aviWriter w.aviWriter fun writer =>
        .follow .queue w.queue fun queue =>
          .follow .frame l.frame fun span =>
            if l.counter % (max w.options.everyNth 1).toInt = 0 then
              match ans.failure with
              | some message => .next (w, some (.report message, l))
              | none =>
                  .increment l.counter fun counter =>
                    .next ({ w with
                        aviWriter := some ((writer.handleFrame (queue.view span)).stampTime l.dvTime)
                        fileFrameCount := w.fileFrameCount + 1 },
                      some (.countFrame, { l with counter := counter }))
            else
              .increment l.counter fun counter =>
                .next ({ w with aviWriter := some (writer.stampTime l.dvTime) },
                  some (.countFrame, { l with counter := counter }))
  | .countFrame => .next ({ w with counter := w.counter + 1 }, some (.addTime, l))
  | .addTime =>
      .follow .frame l.frame fun span =>
        .next ({ w with time := w.time + span.duration }, some (.readCaptureTime, l))
  | .readCaptureTime =>
      .next (w, some (
        if w.captureTime ≠ 0 ∧ w.captureTime ≤ w.time then .clearCaptureTime
        else .updateDropped, l))
  | .clearCaptureTime =>
      .next ({ w with captureTime := 0 }, some (.storeReason .duration .updateDropped, l))
  | .storeReason reason resume =>
      .next (w.storeReason reason, some (.exchange reason resume, l))
  | .exchange reason resume =>
      if w.state = .capturing then .next (w.enterFinished reason, some (resume.pc, l))
      else .next (w, some (.rollback resume, l))
  | .rollback resume => .next (w.storeReason .none, some (resume.pc, l))
  | .updateDropped =>
      .require .dvInput pipeline.dvInput
        (.next ({ w with dropped := ans.droppedFrames - l.dropped }, some (.loopHead, l)))
  | .closeFile => .next (finishThen env ans w l .rereadDropped)
  | .rereadDropped =>
      .require .dvInput pipeline.dvInput
        (.next (w, some (.readFinished, { l with dropped := ans.droppedFrames })))
  | .readFinished =>
      .next (w, some (if w.state = .finished then .loopHead else .resetCounts, l))
  | .resetCounts =>
      .next ({ w with dropped := 0, counter := 0, time := 0, fileFrameCount := -1 },
        some (.loopHead, l))
  | .afterLoop => .next (finishThen env ans w l .releaseWriter)
  | .report message => .next (w.reportError message, some (.releaseWriter, l))
  | .releaseWriter => .next (w.resetWriter env ans, some (.notifyStopped, l))
  | .notifyStopped => .next (w.notifyTimeChange 0, none)

end

end WinDV
