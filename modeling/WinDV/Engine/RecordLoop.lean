import WinDV.Engine.CaptureLoop

/-! `RecordingThread` and `RecordLoop`, step by step as `CaptureLoop`. -/
namespace WinDV

/-- The next step of the record thread. -/
inductive RecordPc where
  | notifyStarted
  | firstFrame
  | clearCounter
  | clearTime
  | loopHead
  | frameSeen
  | preview
  | output
  | readState
  | countFrame
  | addTime
  | nextFrame
  | storeReason
  | exchange
  | rollback
  | report (message : WString)
  | notifyStopped
  deriving DecidableEq, Repr

/-- The locals of `RecordLoop`. -/
structure RecordLocals where
  frame : Option FrameQueue.Span := none
  dvTime : Int := 0

/-- A record thread that has returned is `none`. -/
abbrev RecordThread := Option (RecordPc × RecordLocals)

section

variable (env : Environment) (ans : Answer) (clock : Nat) (pipeline : Pipeline) (w : World)
  (l : RecordLocals)

/-- One step of `RecordingThread`. -/
def recordStep : RecordPc → Outcome (World × RecordThread)
  | .notifyStarted => .next (w.notifyTimeChange 0, some (.firstFrame, l))
  | .firstFrame =>
      .follow .queue w.queue fun queue =>
        match queue.get with
        | .blocked => .blocked
        | .nullopt => .next (w, some (.notifyStopped, l))
        | .frame span queue' =>
            .next (w.dequeue queue' span clock, some (.clearCounter, { l with frame := some span }))
  | .clearCounter => .next ({ w with counter := 0 }, some (.clearTime, l))
  | .clearTime => .next ({ w with time := 0 }, some (.loopHead, l))
  | .loopHead => .next (w, some (if w.state = .idle then .notifyStopped else .frameSeen, l))
  | .frameSeen =>
      .follow .queue w.queue fun queue =>
        .follow .frame l.frame fun span =>
          let newDVTime := recordingTime env (queue.view span)
          .next (if newDVTime = l.dvTime then w else w.notifyTimeChange newDVTime,
            some (.preview, { l with dvTime := newDVTime }))
  | .preview =>
      if pipeline.monitor && w.options.recordPreview then
        .follow .queue w.queue fun _ => .next (w, some (.output, l))
      else .next (w, some (.output, l))
  | .output =>
      .require .dvOutput pipeline.dvOutput
        (.follow .queue w.queue fun queue =>
          .follow .frame l.frame fun span =>
            match ans.failure with
            | some message => .next (w, some (.report message, l))
            | none =>
                .next ({ w with history := { w.history with
                    sent := w.history.sent ++ [queue.view span] } }, some (.readState, l)))
  | .readState => .next (w, some (if w.state = .recording then .countFrame else .loopHead, l))
  | .countFrame => .next ({ w with counter := w.counter + 1 }, some (.addTime, l))
  | .addTime =>
      .follow .frame l.frame fun span =>
        .next ({ w with time := w.time + span.duration }, some (.nextFrame, l))
  | .nextFrame =>
      .follow .queue w.queue fun queue =>
        match queue.get with
        | .blocked => .blocked
        | .nullopt => .next (w, some (.storeReason, l))
        | .frame span queue' =>
            .next (w.dequeue queue' span clock, some (.loopHead, { l with frame := some span }))
  | .storeReason => .next (w.storeReason .endOfFiles, some (.exchange, l))
  | .exchange =>
      if w.state = .recording then .next (w.enterFinished .endOfFiles, some (.loopHead, l))
      else .next (w, some (.rollback, l))
  | .rollback => .next (w.storeReason .none, some (.loopHead, l))
  | .report message => .next (w.reportError message, some (.notifyStopped, l))
  | .notifyStopped => .next (w.notifyTimeChange 0, none)

end

end WinDV
