import WinDV.Engine.AviWriter

/-! The members of `DVEngine` that several threads touch, with the history the
properties speak about. The owning pointers, which only the controlling thread
changes, are in `Pipeline`. -/
namespace WinDV

/-- Bookkeeping that no step reads. `captures` counts the `StartCapturing`
calls that have set `m_state`; the fields up to `measured` are about the last
of them, those after it about the pipeline as a whole. -/
structure History where
  captures : Nat := 0
  captureOf : CaptureTarget := {}
  requested : Int64 := 0
  dequeued : List Frame := []
  lastDequeue : Option Nat := none
  watchTimeout : Int := 0
  measured : Option WString := none
  files : List SavedFile := []
  enteredBy : Option StopReason := none
  reasonCleared : Bool := false
  errorReported : Bool := false
  accepted : List Frame := []
  taken : List Frame := []
  sent : List Frame := []

/-- The atomics, what `m_mutex` guards, the queue and the open writer. -/
structure World where
  options : Options := {}
  state : EngineState := .idle
  target : CaptureTarget := {}
  error : WString := []
  dropped : Int32 := 0
  counter : Int32 := -1
  fileFrameCount : Int32 := -1
  time : Int64 := -1
  captureTime : Int64 := 0
  dvTime : Int := 0
  framesReceived : Int32 := 0
  stopReason : StopReason := .none
  queue : Option FrameQueue := none
  aviWriter : Option AVIWriter := none
  history : History := {}

/-- Which owning pointers are set. -/
structure Pipeline where
  aviJoiner : Bool := false
  dvInput : Bool := false
  dvOutput : Bool := false
  monitor : Bool := false
  deriving DecidableEq, Repr

namespace World

/-- `ReportError`. The first error is kept. -/
def reportError (w : World) (message : WString) : World :=
  { w with
    error := if w.error = [] then message else w.error
    history := { w.history with errorReported := true } }

/-- `NotifyTimeChange`. -/
def notifyTimeChange (w : World) (dvTime : Int) : World := { w with dvTime := dvTime }

/-- `FinishWriter`: the writer is moved out before it is finished, so it is
gone even if finishing it throws. The second component is the exception. -/
def finishWriter (env : Environment) (ans : Answer) (w : World) : World × Option WString :=
  match w.aviWriter with
  | none => (w, none)
  | some writer =>
      match writer.finish env ans with
      | .error message => ({ w with aviWriter := none }, some message)
      | .ok file =>
          ({ w with
            aviWriter := none
            history := { w.history with files := w.history.files ++ [file] } }, none)

/-- `m_aviWriter.reset()`: the destructor finishes the file and swallows the
exception. -/
def resetWriter (env : Environment) (ans : Answer) (w : World) : World := (w.finishWriter env ans).1

/-- The store of `FinishOnItsOwn`. -/
def storeReason (w : World) (reason : StopReason) : World :=
  { w with
    stopReason := reason
    history := { w.history with reasonCleared := false } }

/-- The store of `StopReason::None` in the two Start calls. -/
def clearReason (w : World) : World :=
  { w with
    stopReason := .none
    history := { w.history with reasonCleared := true } }

/-- The compare-exchange of `FinishOnItsOwn` when it succeeds. -/
def enterFinished (w : World) (reason : StopReason) : World :=
  { w with
    state := .finished
    history := { w.history with enteredBy := some reason } }

/-- A frame has left the queue. It counts for the capture in progress. -/
def dequeue (w : World) (queue : FrameQueue) (span : FrameQueue.Span) (clock : Nat) : World :=
  { w with
    queue := some queue
    history := { w.history with
      taken := w.history.taken ++ [queue.view span]
      dequeued :=
        if w.state = .capturing then w.history.dequeued ++ [queue.view span]
        else w.history.dequeued
      lastDequeue := if w.state = .capturing then some clock else w.history.lastDequeue } }

/-- A frame has entered the queue. -/
def enqueue (w : World) (queue : FrameQueue) (frame : Frame) : World :=
  { w with
    queue := some queue
    history := { w.history with accepted := w.history.accepted ++ [frame] } }

end World

end WinDV
