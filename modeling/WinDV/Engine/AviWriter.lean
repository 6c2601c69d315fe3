import WinDV.Engine.Types

/-! `CAVIWriter`: one AVI file, written under a temporary name and moved to its
final name when it is finished. -/
namespace WinDV

/-- `NextCaptureFilename` of the writer: the next free name for a base and a
formatted date. A time that is not positive means now. -/
def writerFilename (env : Environment) (ans : Answer) (base dtformat : WString) (ndigits tim : Int) :
    WString :=
  nextCaptureFilename env.caseFold
    (captureStem base (env.formatTime dtformat (if tim ≤ 0 then ans.now else tim))) ndigits ans.listing

/-- `CAVIWriter`, with the frames handed to it so far. `session` is that of the
target it was constructed with. -/
structure AVIWriter where
  base : WString
  dtformat : WString
  ndigits : Int
  dvTime : Int
  type2AVI : Bool
  tmpfile : WString
  frames : List Frame := []
  session : Nat
  deriving DecidableEq, Repr

/-- A file that has been finished and has its final name. -/
structure SavedFile where
  filename : WString
  writer : AVIWriter
  deriving DecidableEq, Repr

namespace AVIWriter

/-- The constructor. -/
def new (env : Environment) (ans : Answer) (target : CaptureTarget) (dvTime : Int) (type2AVI : Bool) :
    AVIWriter where
  base := target.filename
  dtformat := target.dtformat
  ndigits := target.ndigits
  dvTime := dvTime
  type2AVI := type2AVI
  tmpfile := writerFilename env ans target.filename (wide "~" ++ target.dtformat) target.ndigits dvTime
  session := target.session

/-- `HandleFrame`, when the graph accepts the frame. -/
def handleFrame (writer : AVIWriter) (frame : Frame) : AVIWriter :=
  { writer with frames := writer.frames ++ [frame] }

/-- `Finish`: the file under its final name, or the exception of a failed rename. -/
def finish (env : Environment) (ans : Answer) (writer : AVIWriter) : Except WString SavedFile :=
  let filename := writerFilename env ans writer.base writer.dtformat writer.ndigits writer.dvTime
  match ans.moveFailure with
  | some detail => .error (wide "Can't rename " ++ writer.tmpfile ++ wide " to " ++ filename ++ detail)
  | none => .ok ⟨filename, writer⟩

/-- `m_dvTime` is filled in from the first frame with a recording time. -/
def stampTime (writer : AVIWriter) (dvTime : Int) : AVIWriter :=
  if 0 < dvTime ∧ writer.dvTime ≤ 0 then { writer with dvTime := dvTime } else writer

@[simp] theorem stampTime_frames (writer : AVIWriter) (dvTime : Int) :
    (writer.stampTime dvTime).frames = writer.frames := by
  unfold stampTime
  split_ifs <;> rfl

/-- A writer made for the target of some session, with that target's name,
date format and digits. -/
def BuiltFrom (writer : AVIWriter) (target : CaptureTarget) : Prop :=
  writer.base = target.filename ∧ writer.dtformat = target.dtformat ∧
    writer.ndigits = target.ndigits ∧ writer.session = target.session

theorem new_builtFrom (env : Environment) (ans : Answer) (target : CaptureTarget) (dvTime : Int)
    (type2AVI : Bool) : (new env ans target dvTime type2AVI).BuiltFrom target :=
  ⟨rfl, rfl, rfl, rfl⟩

theorem BuiltFrom.handleFrame {writer : AVIWriter} {target : CaptureTarget}
    (h : writer.BuiltFrom target) (frame : Frame) : (writer.handleFrame frame).BuiltFrom target := h

theorem BuiltFrom.stampTime {writer : AVIWriter} {target : CaptureTarget}
    (h : writer.BuiltFrom target) (dvTime : Int) : (writer.stampTime dvTime).BuiltFrom target := by
  unfold AVIWriter.stampTime
  split_ifs
  · exact h
  · exact h

end AVIWriter

end WinDV
