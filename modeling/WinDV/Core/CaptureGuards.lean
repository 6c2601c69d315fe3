import WinDV.Core.WideString

/-! When a capture stops on its own: disk space and the end of the signal. -/
namespace WinDV

/-- `kDiskReserveBytes`. -/
def kDiskReserveBytes : Nat := 256 * 1024 * 1024

/-- `IsDiskNearlyFull`. -/
def isDiskNearlyFull (freeBytes : Nat) : Bool := freeBytes < kDiskReserveBytes

/-- `CaptureDirectory`. -/
def captureDirectory (fileBase : WString) : WString :=
  match findLastOf isSeparator fileBase with
  | none => []
  | some separator => fileBase.take (separator + 1)

/-- `SignalWatch`. The timeout is in milliseconds, time points are nanoseconds
of the steady clock. -/
structure SignalWatch where
  timeout : Int := 0
  lastFrame : Option Nat := none
  deriving DecidableEq, Repr

namespace SignalWatch

/-- `Frame`. -/
def frame (watch : SignalWatch) (now : Nat) : SignalWatch := { watch with lastFrame := some now }

/-- `Lost`. -/
def lost (watch : SignalWatch) (now : Nat) : Bool :=
  match watch.lastFrame with
  | none => false
  | some last => 0 < watch.timeout && watch.timeout * 1000000 ≤ (now : Int) - last

/-- A lost signal has been there, and then been away for the whole timeout. -/
theorem lost_iff (watch : SignalWatch) (now : Nat) :
    watch.lost now = true ↔ 0 < watch.timeout ∧
      ∃ last, watch.lastFrame = some last ∧ watch.timeout * 1000000 ≤ (now : Int) - last := by
  unfold lost
  cases watch.lastFrame with
  | none => simp
  | some last => simp

end SignalWatch

end WinDV
