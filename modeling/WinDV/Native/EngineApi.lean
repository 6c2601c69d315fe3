import WinDV.Engine.System
import WinDV.Library.Linear
import WinDV.Native.EngineWake

/-! `windv_engine`: any number of threads call the exports, each with `windv_engine::Call`
through `EngineThread::Invoke`, while the worker, the source and the options go their own
ways. `windv_list_devices`, whose task does not call the engine, is no `Request` and left out. -/
namespace WinDV

/-- The engine and its thread. `executing` says that the task on the thread has called its method
of `DVEngine`, and `results` is what `Call` returns. The events are what is seen of the calls. -/
structure EngineApi where
  waking : WakingThread
  engine : Config := {}
  executing : Bool := false
  results : Nat → Option Result := fun _ => none
  events : List (Linear.Event Nat Result) := []

namespace EngineApi

open Transition

/-- Before any call. -/
def start (clock : Nat) : EngineApi := { waking := .start clock }

/-- The `Call` whose task is on the thread. What is posted is no call of the engine. -/
def task (s : EngineApi) : Option Nat :=
  match s.waking.thread.run with
  | .runTask task => if task ∈ s.waking.invoked then some task else none
  | _ => none

/-- A step of the callers, of `Run` outside a `Call`, of the destructor or of the surroundings
of the thread; the task begins its method, goes on with it, and ends behind it; and a step
of the worker, the source, the clock, or of a member that is set from outside. -/
inductive Action where
  | thread (action : WakingThread.Action)
  | begin
  | control (ans : Answer)
  | finish
  | beside (action : WinDV.Action)

/-- What is seen of a step of the thread: that a `Call` is made, and that it returns. -/
def seen (s : EngineApi) (waking : WakingThread) : WakingThread.Action → List (Linear.Event Nat Result)
  | .invoke call => [.invoked call]
  | .call call _ =>
      if call ∈ s.waking.invoked ∧ waking.thread.calls call = .returned then
        [.returned call ((s.results call).getD .ok)]
      else []
  | _ => []

/-- A step of the method, and the result when it is over. -/
def controlled (s : EngineApi) (task : Nat) (engine : Config) : EngineApi :=
  match engine.call with
  | .exited _ result =>
      { s with
        engine, results := Function.update s.results task (some result),
        events := s.events ++ [.finished task result] }
  | _ => { s with engine }

/-- What an export checks before its `Call`. -/
def accepts : Request → Bool
  | .captureStart fileBase _ _ _ => !fileBase.isEmpty
  | _ => true

/-- The actions of the controlling thread. -/
def controls : WinDV.Action → Bool
  | .begin _ | .control _ => true
  | _ => false

variable (env : Environment) (request : Nat → Request)

/-- `Run` ends a task that is a `Call` only with `finish`, and no refused call is made. -/
def allowed (s : EngineApi) : WakingThread.Action → Bool
  | .run => s.task.isNone
  | .invoke call => accepts (request call)
  | _ => true

/-- The step function. -/
def step (s : EngineApi) : Action → Option EngineApi
  | .thread action =>
      if s.allowed request action then
        (s.waking.step action).map fun waking =>
          { s with waking, events := s.events ++ s.seen waking action }
      else none
  | .begin =>
      match s.task with
      | some task =>
          if s.executing then none
          else
            (s.engine.step env (.begin (request task))).map fun engine =>
              { s with engine, executing := true, events := s.events ++ [.began task] }
      | none => none
  | .control ans =>
      match s.task with
      | some task =>
          if s.executing then (s.engine.step env (.control ans)).map (s.controlled task) else none
      | none => none
  | .finish =>
      match s.engine.call with
      | .exited _ _ =>
          if s.executing then
            (s.waking.step .run).map fun waking => { s with waking, executing := false }
          else none
      | .ready | .busy _ _ => none
  | .beside action =>
      if controls action then none
      else (s.engine.step env action).map fun engine => { s with engine }

/-- The calls the engine has begun and those that have ended, with their results. -/
def begun (log : List (Config × WinDV.Action)) : List Request :=
  log.filterMap fun entry =>
    match entry.2 with
    | .begin request => some request
    | _ => none

def ended (log : List (Config × WinDV.Action)) : List (Request × Result) :=
  log.filterMap fun entry =>
    match entry.2, (entry.1.step env entry.2).map Config.call with
    | .control _, some (.exited request result) => some (request, result)
    | _, _ => none

end EngineApi

end WinDV
