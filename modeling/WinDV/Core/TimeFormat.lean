import WinDV.Core.WideString

/-! `strftime`-style formatting of user-typed formats. A format is checked
before it reaches `wcsftime`; the check reads it item by item. -/
namespace WinDV

/-- `kConversions`. -/
def kConversions : WString := wide "aAbBcCdDeFgGhHIjmMnprRStTuUVwWxXyYzZ%"

/-- `kEModified`. -/
def kEModified : WString := wide "cCxXyY"

/-- `kOModified`. -/
def kOModified : WString := wide "deHImMSuUVwWy"

/-- `kHashModified`. -/
def kHashModified : WString := wide "cCdDeFgGhHIjmMrRStTuUVwWxXyYzZ"

/-- The set a modifier allows after it, if the character is one. -/
def modifierSet (c : WChar) : Option WString :=
  if c = wchar '#' then some kHashModified
  else if c = wchar 'E' then some kEModified
  else if c = wchar 'O' then some kOModified
  else none

/-- `IsValidTimeFormat`. The index moves on by one, two or three characters. -/
def isValidTimeFormat : WString → Bool
  | [] => true
  | c :: rest =>
      if c ≠ wchar '%' then isValidTimeFormat rest
      else
        match rest with
        | [] => false
        | d :: tail =>
            match modifierSet d with
            | none => kConversions.contains d && isValidTimeFormat tail
            | some allowed =>
                match tail with
                | [] => false
                | e :: others => allowed.contains e && isValidTimeFormat others

/-- The C runtime's side of `FormatTime`: the local time, where there is one,
and the text `wcsftime` makes of a C string with room enough. Ordinary
characters are copied. -/
structure TimeRuntime where
  Local : Type
  localtime : Int → Option Local
  text : WString → Local → WString
  text_nil : ∀ tm, text [] tm = []
  text_ordinary : ∀ (c : WChar) (rest : WString) (tm : Local), c ≠ wchar '%' →
    text (c :: rest) tm = c :: text rest tm

namespace TimeRuntime

/-- The text of a format as a C string, which ends at its first zero. -/
def written (runtime : TimeRuntime) (format : WString) (tm : runtime.Local) : WString :=
  runtime.text (format.takeWhile (· != 0)) tm

/-- `wcsftime`: no characters when the text and its final zero do not fit. -/
def wcsftime (runtime : TimeRuntime) (size : Nat) (format : WString) (tm : runtime.Local) : WString :=
  if (runtime.written format tm).length < size then runtime.written format tm else []

/-- The sizes of the buffer: 256, four times as much each time, up to 16384. -/
def bufferSizes : List Nat := [256, 1024, 4096, 16384]

/-- The loop of `FormatTime`. -/
def tryBuffers (runtime : TimeRuntime) (format : WString) (tm : runtime.Local) : List Nat → WString
  | [] => []
  | size :: larger =>
      let written := runtime.wcsftime size format tm
      if 0 < written.length then written else runtime.tryBuffers format tm larger

/-- `FormatTime`. -/
def formatTime (runtime : TimeRuntime) (format : WString) (time : Int) : WString :=
  if format.isEmpty || !isValidTimeFormat format then []
  else
    match runtime.localtime time with
    | none => []
    | some tm => runtime.tryBuffers format tm bufferSizes

end TimeRuntime

/-- An ordinary character in front changes nothing about the check. -/
theorem isValidTimeFormat_ordinary {c : WChar} (h : c ≠ wchar '%') (rest : WString) :
    isValidTimeFormat (c :: rest) = isValidTimeFormat rest := by
  conv_lhs => unfold isValidTimeFormat
  rw [if_pos h]

namespace TimeRuntime

variable (runtime : TimeRuntime)

/-- A buffer that is too small is no different from an empty text. -/
theorem tryBuffers_eq (format : WString) (tm : runtime.Local) (sizes : List Nat) :
    runtime.tryBuffers format tm sizes =
      if ∃ size ∈ sizes, (runtime.written format tm).length < size then runtime.written format tm
      else [] := by
  induction sizes with
  | nil => simp [tryBuffers]
  | cons size larger ih =>
      rw [tryBuffers, wcsftime, ih]
      by_cases hFits : (runtime.written format tm).length < size
      · rw [if_pos hFits, if_pos (⟨size, List.mem_cons_self, hFits⟩ : ∃ s ∈ size :: larger, _)]
        by_cases hSome : 0 < (runtime.written format tm).length
        · rw [if_pos hSome]
        · have hNil : runtime.written format tm = [] := List.length_eq_zero_iff.mp (by omega)
          rw [if_neg hSome, hNil, ite_self]
      · rw [if_neg hFits, if_neg (by simp)]
        simp [hFits]

/-- The date a format gives at a time, with room for so many characters and
the final zero left out. -/
def dateText (room : Nat) (format : WString) (time : Int) : Option WString :=
  match runtime.localtime time with
  | none => none
  | some tm =>
      if (runtime.written format tm).length < room then some (runtime.written format tm) else none

theorem written_nil (tm : runtime.Local) : runtime.written [] tm = [] :=
  runtime.text_nil tm

theorem written_ordinary {c : WChar} (hOrdinary : c ≠ wchar '%') (hZero : c ≠ 0) (format : WString)
    (tm : runtime.Local) : runtime.written (c :: format) tm = c :: runtime.written format tm := by
  have hTake : (c :: format).takeWhile (· != 0) = c :: format.takeWhile (· != 0) :=
    List.takeWhile_cons_of_pos (by simpa using hZero)
  rw [written, hTake, runtime.text_ordinary c _ tm hOrdinary]
  rfl

theorem bufferSizes_le : ∀ size ∈ bufferSizes, size ≤ 16384 := by decide

/-- `FormatTime` on a valid format: nothing stands for no date. -/
theorem formatTime_valid {format : WString} (h : isValidTimeFormat format = true) (time : Int) :
    runtime.formatTime format time = (runtime.dateText 16384 format time).getD [] := by
  rw [formatTime, dateText, h]
  cases format with
  | nil => cases runtime.localtime time <;> simp [written_nil]
  | cons c rest =>
      cases runtime.localtime time with
      | none => rfl
      | some tm =>
          simp only [List.isEmpty_cons, Bool.not_true, Bool.or_self, Bool.false_eq_true, if_false]
          rw [tryBuffers_eq]
          by_cases hFits : (runtime.written (c :: rest) tm).length < 16384
          · rw [if_pos hFits, if_pos ⟨16384, by decide, hFits⟩, Option.getD_some]
          · have hNone : ¬ ∃ size ∈ bufferSizes, (runtime.written (c :: rest) tm).length < size := by
              rintro ⟨size, hSize, hLess⟩
              have hLargest : size ≤ 16384 := bufferSizes_le size hSize
              omega
            rw [if_neg hFits, if_neg hNone, Option.getD_none]

/-- A mark in front takes one character of the room. -/
theorem dateText_ordinary {c : WChar} (hOrdinary : c ≠ wchar '%') (hZero : c ≠ 0) (room : Nat)
    (format : WString) (time : Int) :
    runtime.dateText (room + 1) (c :: format) time = (runtime.dateText room format time).map (c :: ·) := by
  rw [dateText, dateText]
  cases runtime.localtime time with
  | none => rfl
  | some tm =>
      have hRoom : (runtime.written format tm).length + 1 < room + 1 ↔
          (runtime.written format tm).length < room := Nat.add_lt_add_iff_right
      simp only [runtime.written_ordinary hOrdinary hZero, List.length_cons, hRoom]
      split_ifs <;> rfl

/-- `FormatTime` on the format of the temporary name. -/
theorem formatTime_marked {format : WString} (h : isValidTimeFormat format = true) (time : Int) :
    runtime.formatTime (wide "~" ++ format) time =
      ((runtime.dateText 16383 format time).map (wchar '~' :: ·)).getD [] := by
  have hMark : wide "~" ++ format = wchar '~' :: format := rfl
  have hOrdinary : wchar '~' ≠ wchar '%' := by decide
  rw [hMark, formatTime_valid, dateText_ordinary runtime hOrdinary (by decide)]
  rw [isValidTimeFormat_ordinary hOrdinary]
  exact h

theorem formatTime_invalid {format : WString} (h : isValidTimeFormat format = false) (time : Int) :
    runtime.formatTime format time = [] := by
  rw [formatTime, h]
  simp

end TimeRuntime

end WinDV
