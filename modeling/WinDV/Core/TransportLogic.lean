import Mathlib.Tactic.Common

/-! What a press of a transport button asks the deck to do. -/
namespace WinDV

/-- `DeckCommand`, a transport button. -/
inductive DeckCommand where
  | play
  | pause
  | stop
  | fastForward
  | rewind
  deriving DecidableEq, Repr

/-- `DeckMode`, what the deck reports. -/
inductive DeckMode where
  | unknown
  | stopped
  | playing
  | paused
  | fastForward
  | rewind
  | cueForward
  | cueReverse
  | recording
  | recordPaused
  deriving DecidableEq, Repr

/-- `DeckRequest`, the mode change to send. -/
inductive DeckRequest where
  | none
  | play
  | freeze
  | playThenFreeze
  | stop
  | windForward
  | windReverse
  | cueForward
  | cueReverse
  deriving DecidableEq, Repr

/-- `IsOnTape`. -/
def DeckMode.isOnTape : DeckMode → Bool
  | playing | paused | cueForward | cueReverse => true
  | _ => false

/-- `ResolveDeckCommand`. -/
def resolveDeckCommand (command : DeckCommand) (current : DeckMode) : DeckRequest :=
  if current = .recording || current = .recordPaused then
    if command = .stop then .stop else .none
  else
    match command with
    | .play => if current = .playing then .none else .play
    | .pause =>
        if current = .paused then .play else if current.isOnTape then .freeze else .playThenFreeze
    | .stop => if current = .stopped then .none else .stop
    | .fastForward => if current.isOnTape then .cueForward else .windForward
    | .rewind => if current.isOnTape then .cueReverse else .windReverse

end WinDV
