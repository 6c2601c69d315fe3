import WinDV.Library.Transition

/-! `CAVIJoiner` plays a list of files as one stream. Three threads meet here:
the one that calls `Run` and `Stop`, `JoinerThread`, and the streaming thread
of the current reader. A file is the list of its frames. A reader delivers them
in order, one callback at a time, then the end of the stream once; a graph is
destroyed when no callback of it is in flight, and delivers nothing after. -/
namespace WinDV

universe u

variable {F : Type u}

/-- A reader's graph: built, playing, at its end, or refused by `Run`. -/
inductive ReaderPhase where
  | opened
  | running
  | finished
  | broken
  deriving DecidableEq, Repr

/-- `CAVIReader`: the index of its file, and how many frames it has delivered. -/
structure AviReader where
  file : Nat
  sent : Nat := 0
  phase : ReaderPhase := .opened
  deriving DecidableEq, Repr

/-- `CAVIReader::Run`, which may throw. -/
def AviReader.run (reader : AviReader) (failure : Option String) : AviReader :=
  { reader with phase := if failure = none then .running else .broken }

/-- What the handler is called with. -/
inductive HandlerCall (F : Type u) where
  | frame (frame : F)
  | endOfStream
  | sourceError (message : String)
  deriving DecidableEq, Repr

/-- The next step of a callback: three in `HandleFrame`, two in `EndOfStream`. -/
inductive ReaderCallback (F : Type u) where
  | checkStopping (frame : F)
  | readHandler (frame : F)
  | deliver (frame : F)
  | setFlag
  | notify
  deriving DecidableEq, Repr

/-- The next step of `JoinerThread`. -/
inductive JoinerPc where
  | waiting
  | resetReader
  | checkNext
  | loadEnd
  | deliverEnd
  | openReader
  | runReader
  | loadError (message : String)
  | deliverError (message : String)
  deriving DecidableEq, Repr

inductive JoinerThread where
  | absent
  | running (pc : JoinerPc)
  | returned
  deriving DecidableEq, Repr

/-- The next step of the caller, in `Run` up to `runFirst` and in `Stop` from
`requestStop` on. -/
inductive JoinerCaller where
  | constructed
  | startThread
  | runFirst
  | ran
  | requestStop
  | join
  | resetReader
  | clearStopping
  | clearHandler
  | stopped
  deriving DecidableEq, Repr

/-- The members of `CAVIJoiner` and where each thread is. `m_handler` is only
set or null. The last three are what has happened: the calls to the handler, the
frames whose callback has begun, and the file that could not be opened or run. -/
structure AviJoiner (F : Type u) where
  filenames : List (List F)
  next : Nat := 1
  reader : Option AviReader := some { file := 0 }
  handler : Bool := false
  stopping : Bool := false
  readerEndedFlag : Bool := false
  stopRequested : Bool := false
  thread : JoinerThread := .absent
  callback : Option (ReaderCallback F) := none
  caller : JoinerCaller := .constructed
  received : List (HandlerCall F) := []
  streamed : List F := []
  failed : Option (Nat × String) := none

namespace AviJoiner

/-- After the constructor, which has opened the first file. -/
def initial (files : List (List F)) : AviJoiner F where
  filenames := files

/-- What may be scheduled. A failure is the message of the `DShowError` that
opening or running a reader throws in that step. -/
inductive Action where
  | callRun
  | callStop
  | caller (failure : Option String)
  | joiner (failure : Option String)
  | deliver
  | callback
  deriving DecidableEq, Repr

def frames (s : AviJoiner F) (file : Nat) : List F := s.filenames[file]?.getD []

/-- The caller. `join` waits for `JoinerThread`, and destroying the reader for
its callback. -/
def callerStep (s : AviJoiner F) (failure : Option String) : Option (AviJoiner F) :=
  match s.caller with
  | .constructed | .ran | .stopped => none
  | .startThread => some { s with thread := .running .waiting, caller := .runFirst }
  | .runFirst =>
      match s.reader with
      | some reader => some { s with reader := some (reader.run failure), caller := .ran }
      | none => none
  | .requestStop => some { s with stopRequested := true, caller := .join }
  | .join => if s.thread = .returned then some { s with caller := .resetReader } else none
  | .resetReader =>
      if s.callback.isNone then some { s with reader := none, caller := .clearStopping } else none
  | .clearStopping => some { s with stopping := false, caller := .clearHandler }
  | .clearHandler => some { s with handler := false, caller := .stopped }

/-- `JoinerThread`. The wait goes by the flag first, also once a stop has been
requested. -/
def joinerStep (s : AviJoiner F) (failure : Option String) : Option (AviJoiner F) :=
  match s.thread with
  | .absent | .returned => none
  | .running .waiting =>
      if s.readerEndedFlag then
        some { s with readerEndedFlag := false, thread := .running .resetReader }
      else if s.stopRequested then some { s with thread := .returned } else none
  | .running .resetReader =>
      if s.callback.isNone then some { s with reader := none, thread := .running .checkNext }
      else none
  | .running .checkNext =>
      if s.filenames.length ≤ s.next then some { s with thread := .running .loadEnd }
      else some { s with thread := .running .openReader }
  | .running .loadEnd =>
      some { s with thread := if s.handler then .running .deliverEnd else .returned }
  | .running .deliverEnd =>
      some { s with received := s.received ++ [.endOfStream], thread := .returned }
  | .running .openReader =>
      match failure with
      | none =>
          some { s with
            reader := some { file := s.next }, next := s.next + 1, thread := .running .runReader }
      | some message =>
          -- `m_next++` comes before the constructor throws
          some { s with
            next := s.next + 1, failed := some (s.next, message)
            thread := .running (.loadError message) }
  | .running .runReader =>
      match s.reader, failure with
      | none, _ => none
      | some reader, none =>
          some { s with reader := some (reader.run none), thread := .running .waiting }
      | some reader, some message =>
          some { s with
            reader := some (reader.run (some message)), failed := some (reader.file, message)
            thread := .running (.loadError message) }
  | .running (.loadError message) =>
      some { s with thread := if s.handler then .running (.deliverError message) else .returned }
  | .running (.deliverError message) =>
      some { s with received := s.received ++ [.sourceError message], thread := .returned }

/-- The reader's streaming thread begins its next callback. -/
def deliverStep (s : AviJoiner F) : Option (AviJoiner F) :=
  match s.reader, s.callback with
  | some reader, none =>
      if reader.phase = .running then
        match (s.frames reader.file)[reader.sent]? with
        | some frame =>
            some { s with
              reader := some { reader with sent := reader.sent + 1 }
              callback := some (.checkStopping frame), streamed := s.streamed ++ [frame] }
        | none =>
            some { s with
              reader := some { reader with phase := .finished }, callback := some .setFlag }
      else none
  | _, _ => none

/-- `HandleFrame` and `EndOfStream`. -/
def callbackStep (s : AviJoiner F) : Option (AviJoiner F) :=
  match s.callback with
  | none => none
  | some (.checkStopping frame) =>
      some { s with callback := if s.stopping then none else some (.readHandler frame) }
  | some (.readHandler frame) =>
      some { s with callback := if s.handler then some (.deliver frame) else none }
  | some (.deliver frame) => some { s with received := s.received ++ [.frame frame], callback := none }
  | some .setFlag => some { s with readerEndedFlag := true, callback := some .notify }
  | some .notify => some { s with callback := none }

/-- The step function. `Run` is called once, and `Stop` at most once, by the
thread that would call `Run`. -/
def step (s : AviJoiner F) : Action → Option (AviJoiner F)
  | .callRun =>
      if s.caller = .constructed then some { s with handler := true, caller := .startThread } else none
  | .callStop =>
      if s.caller = .constructed ∨ s.caller = .ran then
        some { s with
          stopping := true, caller := if s.thread = .absent then .resetReader else .requestStop }
      else none
  | .caller failure => s.callerStep failure
  | .joiner failure => s.joinerStep failure
  | .deliver => s.deliverStep
  | .callback => s.callbackStep

end AviJoiner

end WinDV
