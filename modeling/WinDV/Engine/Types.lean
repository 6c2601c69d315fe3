import WinDV.Core.CaptureGuards
import WinDV.Core.CaptureNaming
import WinDV.Core.DVTimecode
import WinDV.Core.FrameQueue

/-! The data of `DVEngine`: its enumerations, options and messages, the
environment it runs in, and what the environment decides in one step. -/
namespace WinDV

/-- `DVEngine::State`. -/
inductive EngineState where
  | idle
  | recordPaused
  | recording
  | capturePaused
  | capturing
  | finished
  deriving DecidableEq, Repr

/-- `DVEngine::StopReason`. -/
inductive StopReason where
  | none
  | duration
  | endOfFiles
  | signalLost
  | diskFull
  deriving DecidableEq, Repr

/-- The settings: public atomic members of the engine, written at any time. -/
structure Options where
  type2AVI : Bool := true
  discontinuityThreshold : Int32 := 1
  maxAVIFrames : Int32 := 25 * 60 * 15
  everyNth : Int32 := 1
  recordPreview : Bool := true
  DVctrl : Bool := false
  signalLossSeconds : Int32 := 0
  deriving DecidableEq, Repr

/-- `DVEngine::CaptureTarget`. `session` is not in the source: it numbers the
`StartCapturing` call that stored the target. -/
structure CaptureTarget where
  filename : WString := []
  dtformat : WString := []
  ndigits : Int := 0
  session : Nat := 0
  deriving DecidableEq, Repr

/-- `kQueueFrames`. -/
def kQueueFrames : Nat := 100

/-- `kDiskCheckFrames`. -/
def kDiskCheckFrames : Int := 25

/-- The parts of the C runtime that depend on the machine: the local time zone
in `mktime` and `FormatTime`, and the case fold of file names. -/
structure Environment where
  mktime : Tm → Option Int
  formatTime : WString → Int → WString
  caseFold : CaseFold

/-- What the outside decides in one step. `failure` is the message of the
exception a DirectShow call of this step throws, if it throws; `moveFailure`
is what `DShowError` appends for the result of a rename that fails; `monitor`
says whether a preview window is there and can be drawn into. -/
structure Answer where
  failure : Option WString := none
  freeBytes : WString → Option Nat := fun _ => none
  droppedFrames : Int32 := 0
  monitor : Bool := false
  sampleSize : Nat := 0
  now : Int := 0
  listing : List WString := []
  moveFailure : Option WString := none

/-- The pointers the code follows without a test of its own at that place,
with the optional `frame` of the two loops. -/
inductive Pointer where
  | dvInput
  | dvOutput
  | aviJoiner
  | queue
  | aviWriter
  | frame
  deriving DecidableEq, Repr

/-- What a thread does when it is scheduled: it waits, it follows a null
pointer, a `long` of its own overflows, which C++ does not define, or it takes
a step. -/
inductive Outcome (α : Type) where
  | blocked
  | crash (pointer : Pointer)
  | overflow
  | next (value : α)

namespace Outcome

variable {α β : Type}

/-- Follow an owning pointer. -/
def follow (pointer : Pointer) : Option α → (α → Outcome β) → Outcome β
  | none, _ => .crash pointer
  | some value, continuation => continuation value

/-- Follow an owning pointer of which the model keeps only whether it is set. -/
def require (pointer : Pointer) (isSet : Bool) (continuation : Outcome β) : Outcome β :=
  if isSet then continuation else .crash pointer

/-- Add 1 to a `long` that is not atomic. -/
def increment (n : Int) (continuation : Int → Outcome β) : Outcome β :=
  if n + 1 < 2 ^ 31 then continuation (n + 1) else .overflow

def map (f : α → β) : Outcome α → Outcome β
  | .blocked => .blocked
  | .crash pointer => .crash pointer
  | .overflow => .overflow
  | .next value => .next (f value)

theorem next_pair {a a' : α} {b b' : β} (h : Outcome.next (a, b) = .next (a', b')) :
    a = a' ∧ b = b' := Prod.mk.inj (next.inj h)

@[simp] theorem follow_next {pointer : Pointer} {owner : Option α} {f : α → Outcome β} {b : β} :
    follow pointer owner f = .next b ↔ ∃ a, owner = some a ∧ f a = .next b := by
  cases owner <;> simp [follow]

@[simp] theorem require_next {pointer : Pointer} {isSet : Bool} {k : Outcome β} {b : β} :
    require pointer isSet k = .next b ↔ isSet = true ∧ k = .next b := by
  cases isSet <;> simp [require]

@[simp] theorem increment_next {n : Int} {f : Int → Outcome β} {b : β} :
    increment n f = .next b ↔ n + 1 < 2 ^ 31 ∧ f (n + 1) = .next b := by
  unfold increment
  split_ifs with hFits
  · exact (and_iff_right hFits).symm
  · exact iff_of_false (by simp) fun h => hFits h.1

@[simp] theorem follow_crash {pointer p : Pointer} {owner : Option α} {f : α → Outcome β} :
    follow pointer owner f = .crash p ↔
      (owner = none ∧ pointer = p) ∨ ∃ a, owner = some a ∧ f a = .crash p := by
  cases owner <;> simp [follow]

@[simp] theorem require_crash {pointer p : Pointer} {isSet : Bool} {k : Outcome β} :
    require pointer isSet k = .crash p ↔
      (isSet = false ∧ pointer = p) ∨ (isSet = true ∧ k = .crash p) := by
  cases isSet <;> simp [require]

@[simp] theorem increment_crash {p : Pointer} {n : Int} {f : Int → Outcome β} :
    increment n f = .crash p ↔ n + 1 < 2 ^ 31 ∧ f (n + 1) = .crash p := by
  unfold increment
  split_ifs with hFits
  · exact (and_iff_right hFits).symm
  · exact iff_of_false (by simp) fun h => hFits h.1

@[simp] theorem map_next {f : α → β} {o : Outcome α} {b : β} :
    o.map f = .next b ↔ ∃ a, o = .next a ∧ f a = b := by
  cases o <;> simp [map]

@[simp] theorem map_crash {f : α → β} {o : Outcome α} {p : Pointer} :
    o.map f = .crash p ↔ o = .crash p := by
  cases o <;> simp [map]

end Outcome

/-- `FreeDiskBytes`. -/
def freeDiskBytes (ans : Answer) (fileBase : WString) : Option Nat :=
  let dir := captureDirectory fileBase
  ans.freeBytes (if dir = [] then wide "." else dir)

/-- `freeBytes && IsDiskNearlyFull(*freeBytes)`. -/
def diskNearlyFull (ans : Answer) (fileBase : WString) : Bool :=
  (freeDiskBytes ans fileBase).any isDiskNearlyFull

/-- `std::to_wstring` of a number that is not negative. -/
def toWString (n : Nat) : WString := (Decimal.shortest n).map digitChar

/-- The message of `StartCapturing` when the disk is nearly full. -/
def diskFullMessage (ans : Answer) (filename : WString) : WString :=
  let dir := captureDirectory filename
  wide "Not enough free disk space to capture to " ++
    (if dir = [] then wide "the current folder" else dir) ++ wide " (" ++
    toWString ((freeDiskBytes ans filename).getD 0 / (1024 * 1024)) ++ wide " MB free; " ++
    toWString (kDiskReserveBytes / (1024 * 1024)) ++ wide " MB are kept in reserve)"

def oversizedMessage : WString := wide "Received a DV frame larger than expected"

def notReadyMessage : WString := wide "The camcorder is not ready for capture"

end WinDV
