import WinDV.Engine.DeckTransport
import WinDV.Engine.Pipeline

/-! The engine together with what it tells the decks. The camcorder that is captured from and
the one that is recorded to each have a transport of their own. -/
namespace WinDV

open Transition

/-- The two devices with a transport: `m_dvInput` and `m_dvOutput`. -/
inductive DeckSide where
  | source
  | output
  deriving DecidableEq, Repr

/-- Who calls `put_Mode`: the pipeline, or a button with what `get_Mode` has answered. -/
inductive DeckSender where
  | pipeline (control : DeckControl)
  | button (command : DeckCommand) (mode : Option Int)
  deriving DecidableEq, Repr

structure DeckPut where
  mode : EdMode
  sender : DeckSender
  deriving DecidableEq, Repr

/-- A device since it was opened: whether it has transport control, and what it was told. -/
structure DeckDevice where
  attached : Bool := false
  puts : List DeckPut := []
  deriving DecidableEq, Repr

/-- What the devices and the caller decide in a step: whether a device that is opened has
transport control, what `get_Mode` answers, and which button `Transport` is called for. -/
structure DeckAnswer where
  attached : Bool := true
  mode : Option Int := none
  command : DeckCommand := .play
  deriving DecidableEq, Repr

/-- The engine, its open devices and those that were released. -/
structure Decks where
  config : Config := {}
  device : DeckSide → DeckDevice := fun _ => {}
  released : List (DeckSide × DeckDevice) := []

def DeckSide.isOpen : DeckSide → Pipeline → Bool
  | source, pipeline => pipeline.dvInput
  | output, pipeline => pipeline.dvOutput

namespace DeckDevice

/-- `CtrlStop`, `CtrlPlay`, `CtrlPause`, `CtrlRecord` and `CtrlRecPause`. -/
def control (d : DeckDevice) (control : DeckControl) : DeckDevice :=
  if d.attached then { d with puts := d.puts ++ control.puts.map fun mode => ⟨mode, .pipeline control⟩ } else d

/-- `Command`. -/
def command (ed : EdCodes) (d : DeckDevice) (command : DeckCommand) (mode : Option Int) : DeckDevice :=
  { d with
    puts := d.puts ++ (transportCommand ed d.attached mode command).map fun put => ⟨put, .button command mode⟩ }

end DeckDevice

/-- The steps that tell a deck something if the decks follow the pipeline, but for `Destroy`. -/
def CallPc.tells : CallPc → Option (DeckSide × DeckControl)
  | .build .recPause => some (.output, .recPause)
  | .start .ctrlPlay => some (.source, .play)
  | .control .ctrlPause => some (.source, .pause)
  | .control .ctrlRecord => some (.output, .record)
  | .control .ctrlRecPause => some (.output, .recPause)
  | _ => none

namespace Decks

variable (env : Environment) (ed : EdCodes)

/-- `if (m_DVctrl)`. -/
def follow (s : Decks) (side : DeckSide) (control : DeckControl) : DeckDevice :=
  if s.config.world.options.DVctrl then (s.device side).control control else s.device side

/-- `Destroy` stops and releases the devices that are open, the input first. -/
def release (s : Decks) : Decks :=
  { s with
    device := fun _ => {}
    released := s.released ++
      ([DeckSide.source, .output].filter (·.isOpen s.config.pipeline)).map fun side => (side, s.follow side .stop) }

def setDevice (s : Decks) (side : DeckSide) (device : DeckDevice) : Decks :=
  { s with device := fun other => if other = side then device else s.device other }

/-- The decks in a step of the controlling thread. -/
def told (s : Decks) (ans : Answer) (deck : DeckAnswer) (request : Request) : CallPc → Decks
  | .destroy .release => s.release
  | .build .openSource =>
      if request = .buildCapturing ∧ ans.failure = none then s.setDevice .source { attached := deck.attached } else s
  | .build (.openOutput _) => if ans.failure = none then s.setDevice .output { attached := deck.attached } else s
  -- Buttons act on the capture source only, and whether or not the deck follows the pipeline.
  | .control .transport =>
      if s.config.pipeline.dvInput then
        s.setDevice .source ((s.device .source).command ed deck.command deck.mode)
      else s
  | pc =>
      match pc.tells with
      | some (side, control) => s.setDevice side (s.follow side control)
      | none => s

/-- The decks in a step of the engine. No other thread tells them anything. -/
def afterStep (s : Decks) (action : Action × DeckAnswer) : Decks :=
  match action.1, s.config.call with
  | .control ans, .busy request pc => s.told ed ans action.2 request pc
  | _, _ => s

/-- The step function of the engine and its decks. -/
def step (s : Decks) (action : Action × DeckAnswer) : Option Decks :=
  (s.config.step env action.1).map fun config => { s.afterStep ed action with config := config }

/-- The engine of a new window, with its options. -/
def start (options : Options) : Decks where
  config := { world := { options := options } }

variable {env : Environment} {ed : EdCodes} {s s' : Decks} {action : Action × DeckAnswer}

theorem step_iff : s.step env ed action = some s' ↔
    ∃ config, s.config.step env action.1 = some config ∧ s' = { s.afterStep ed action with config := config } := by
  rw [step, Option.map_eq_some_iff]
  simp only [eq_comm]

/-- A run with decks is a run. -/
theorem config_run {start : Decks} {log : List (Decks × (Action × DeckAnswer))}
    (run : Runs (Decks.step env ed) start log s) :
    Runs (Config.step env) start.config (log.map fun entry => (entry.1.config, entry.2.1)) s.config := by
  induction run with
  | zero => exact Runs.zero
  | succ prior last ih =>
      obtain ⟨config, hConfig, rfl⟩ := step_iff.mp last
      rw [List.map_append]
      exact Runs.succ ih hConfig

end Decks

end WinDV
