import WinDV.Core.WideString
import WinDV.Library.GrowingBuffer

/-! How a string crosses from C++ to C#. `CopyOut` says what size it needs and
writes only what fits; the C# side offers an array and grows it. -/
namespace WinDV

open GrowingBuffer

/-- `static_cast<std::int32_t>(text.size() + 1)`. -/
def neededSize (text : WString) : Int32 := Int32.ofNat (text.length + 1)

/-- `CopyOut` into a buffer, which is as long as the length passed with it. -/
def copyOut (text buffer : WString) : Int32 × WString :=
  let needed := neededSize text
  (needed,
    if needed.toInt ≤ buffer.length then
      (text ++ [0]).take needed.toInt.toNat ++ buffer.drop needed.toInt.toNat
    else buffer)

/-- The part of a text that arrives if the buffer is not too small. -/
def copied (text : WString) : WString := text.take ((neededSize text).toInt.toNat - 1)

/-- The cast is exact up to the largest `int32`, and past it the size it gives
is below that of the text. -/
theorem neededSize_le (text : WString) : (neededSize text).toInt ≤ text.length + 1 := by
  have hSize : (Int32.size : Int) = 4294967296 := rfl
  rw [neededSize, Int32.toInt_ofNat', Int.bmod_def, hSize]
  split_ifs <;> omega

theorem neededSize_of_lt {text : WString} (h : text.length + 1 < 2 ^ 31) :
    (neededSize text).toInt = text.length + 1 := by
  rw [neededSize, Int32.toInt_ofNat_of_lt h]
  rfl

theorem copied_of_lt {text : WString} (h : text.length + 1 < 2 ^ 31) : copied text = text := by
  rw [copied, neededSize_of_lt h]
  exact List.take_of_length_le (by omega)

theorem neededSize_toNat_le (text : WString) : (neededSize text).toInt.toNat ≤ text.length + 1 := by
  have := neededSize_le text
  omega

/-- The array `CopyOut` has filled starts with the text, as far as it is copied. -/
theorem copyOut_take (text buffer : WString)
    (h : (neededSize text).toInt ≤ buffer.length) :
    (copyOut text buffer).2.take ((neededSize text).toInt.toNat - 1) = copied text := by
  have hLe := neededSize_toNat_le text
  rw [copyOut, if_pos h, List.take_append_of_le_length, List.take_take,
    Nat.min_eq_left (Nat.sub_le _ _), copied, List.take_append_of_le_length]
  · omega
  · rw [List.length_take, List.length_append, List.length_singleton]
    omega

section ReadString

universe u

variable {State : Type u}

/-- One turn of the loop of `ReadString`. The native function says how much it
needs and leaves the array filled or not. -/
def readStringTry (native : State → WString → (Int32 × WString) × State) (s : State) (length : Nat) :
    Attempt WString × State :=
  let answer := native s (List.replicate length 0)
  let needed := answer.1.1.toInt
  (if needed ≤ 0 then .done []
    else if needed ≤ length then .done (answer.1.2.take (needed.toNat - 1))
    else .tooSmall needed.toNat, answer.2)

theorem readStringTry_grows (native : State → WString → (Int32 × WString) × State) (s : State)
    (length needed : Nat) (h : (readStringTry native s length).1 = .tooSmall needed) :
    length < needed ∧ needed ≤ 2 ^ 31 := by
  have hLt := (native s (List.replicate length 0)).1.1.toInt_lt
  simp only [readStringTry] at h
  split_ifs at h with hZero hFits
  have hNeeded := Attempt.tooSmall.inj h
  omega

def readStringFiller (native : State → WString → (Int32 × WString) × State) : Filler State WString where
  limit := 2 ^ 31
  fill := readStringTry native
  grows := readStringTry_grows native

/-- `NativeMethods.ReadString`. -/
def readString (native : State → WString → (Int32 × WString) × State) (s : State) : WString × State :=
  (readStringFiller native).read 512 s

/-- One turn when the native function hands out a text with `CopyOut`. -/
theorem readStringTry_copyOut {native : State → WString → (Int32 × WString) × State} {s next : State}
    {text : WString} (h : ∀ buffer, native s buffer = (copyOut text buffer, next)) (length : Nat) :
    readStringTry native s length =
      (if (neededSize text).toInt ≤ length then .done (copied text)
        else .tooSmall (neededSize text).toInt.toNat, next) := by
  have hNeeded (buffer : WString) : (copyOut text buffer).1 = neededSize text := rfl
  simp only [readStringTry, h, hNeeded]
  by_cases hFits : (neededSize text).toInt ≤ length
  · have hTake := copyOut_take text (List.replicate length 0) (by simpa using hFits)
    rw [if_pos hFits, if_pos hFits, hTake]
    split_ifs with hZero
    · rw [copied, Int.toNat_of_nonpos hZero]
      rfl
    · rfl
  · rw [if_neg hFits, if_neg hFits, if_neg (by omega)]

end ReadString

end WinDV
