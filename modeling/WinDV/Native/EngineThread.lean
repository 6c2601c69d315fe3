import WinDV.Library.Transition
import Mathlib.Logic.Function.Basic

/-! `EngineThread` runs queued tasks on a thread of its own. Every `Post` and
`Invoke` is a call from another thread, known by a number that is also its
task's; the look at the stop flag, the push and the wake-up are steps of their
own, and so are those of `Run` and of the destructor. The wait of `Run` has a
timeout, so it may end at any time; that of an `Invoke`, in `WaitPumpingSentMessages`
or `WaitForSingleObject`, is taken not to fail. The calls of the thread itself, which
`IsCurrent` lets run their task at once, are left out. -/
namespace WinDV

/-- The next step of a call: `Post`, or the `Post` inside an `Invoke`, which
waits for its task afterwards. -/
inductive PostPc where
  | notCalled
  | checkInvoke
  | createEvent
  | runDirectly
  | checkPost (invoked : Bool)
  | pushing (invoked : Bool)
  | settingWake (invoked : Bool)
  | awaiting
  | returned
  deriving DecidableEq, Repr

/-- Where a call goes on when its `Post` has returned. -/
def PostPc.afterPost (invoked : Bool) : PostPc := if invoked then .awaiting else .returned

/-- The next step of `Run`. -/
inductive RunPc where
  | takeTask
  | runTask (task : Nat)
  | checkStop
  | tick
  | wait
  | returned
  deriving DecidableEq, Repr

/-- The next step of the destructor. -/
inductive DestructorPc where
  | requestStop
  | setWake
  | join
  | joined
  deriving DecidableEq, Repr

/-- The queue, the stop flag and where everyone is. The last three are what has
happened: the tasks pushed and the tasks run by the thread, in order, and those
whose `Post` had returned when the stop was requested. -/
structure EngineThread where
  tasks : List Nat := []
  stopRequested : Bool := false
  run : RunPc := .takeTask
  destructor : DestructorPc := .requestStop
  calls : Nat → PostPc := fun _ => .notCalled
  pushed : List Nat := []
  ran : List Nat := []
  due : List Nat := []

namespace EngineThread

/-- What may be scheduled: a new call, the next step of a call (in which
`CreateEventW` may fail), of `Run` or of the destructor. -/
inductive Action where
  | callPost (call : Nat)
  | callInvoke (call : Nat)
  | call (call : Nat) (eventFailed : Bool)
  | run
  | destructor
  deriving DecidableEq, Repr

def setCall (s : EngineThread) (call : Nat) (pc : PostPc) : EngineThread :=
  { s with calls := Function.update s.calls call pc }

/-- `Post` and `Invoke`. -/
def callStep (s : EngineThread) (call : Nat) (eventFailed : Bool) : Option EngineThread :=
  match s.calls call with
  | .notCalled | .returned => none
  | .checkInvoke => some (s.setCall call (if s.stopRequested then .runDirectly else .createEvent))
  | .createEvent => some (s.setCall call (if eventFailed then .runDirectly else .checkPost true))
  | .runDirectly => some (s.setCall call .returned)
  | .checkPost invoked =>
      some (s.setCall call (if s.stopRequested then .afterPost invoked else .pushing invoked))
  | .pushing invoked =>
      some ({ s with tasks := s.tasks ++ [call], pushed := s.pushed ++ [call] }.setCall call
        (.settingWake invoked))
  | .settingWake invoked => some (s.setCall call (.afterPost invoked))
  | .awaiting => if call ∈ s.ran then some (s.setCall call .returned) else none

/-- `Run`, with `TakeTask` as one step. -/
def runStep (s : EngineThread) : Option EngineThread :=
  match s.run with
  | .takeTask =>
      match s.tasks with
      | [] => some { s with run := .checkStop }
      | task :: rest => some { s with tasks := rest, run := .runTask task }
  | .runTask task => some { s with ran := s.ran ++ [task], run := .takeTask }
  | .checkStop => some { s with run := if s.stopRequested then .returned else .tick }
  | .tick => some { s with run := .wait }
  | .wait => some { s with run := .takeTask }
  | .returned => none

/-- The `Post` of a queued task has returned. -/
def PostReturned (s : EngineThread) (call : Nat) : Prop :=
  s.calls call = .awaiting ∨ s.calls call = .returned

instance (s : EngineThread) (call : Nat) : Decidable (s.PostReturned call) :=
  inferInstanceAs (Decidable (_ ∨ _))

/-- `~EngineThread`. -/
def destructorStep (s : EngineThread) : Option EngineThread :=
  match s.destructor with
  | .requestStop =>
      some { s with
        stopRequested := true, destructor := .setWake, due := s.pushed.filter (s.PostReturned ·) }
  | .setWake => some { s with destructor := .join }
  | .join => if s.run = .returned then some { s with destructor := .joined } else none
  | .joined => none

/-- The step function. -/
def step (s : EngineThread) : Action → Option EngineThread
  | .callPost call =>
      if s.calls call = .notCalled then some (s.setCall call (.checkPost false)) else none
  | .callInvoke call =>
      if s.calls call = .notCalled then some (s.setCall call .checkInvoke) else none
  | .call call eventFailed => s.callStep call eventFailed
  | .run => s.runStep
  | .destructor => s.destructorStep

end EngineThread

end WinDV
