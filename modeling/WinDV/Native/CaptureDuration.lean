import WinDV.Core.DurationRange
import WinDV.Engine.Controller

/-! The requested length on its way from the command line to `StartCapturing`:
parsed into an `int64`, and cut off at zero, which means no limit. -/
namespace WinDV

/-- A length `int64` can hold in units of 100 ns: less than 922337203685.4775808 s. -/
def DurationText.InRange (duration : DurationText) : Prop :=
  duration.clock.inSeconds < 922337203685 ∨
    duration.clock.inSeconds = 922337203685 ∧ duration.fractionUnits ≤ 4775807

instance (duration : DurationText) : Decidable duration.InRange := inferInstanceAs (Decidable (_ ∨ _ ∧ _))

/-- A parse without an overflow: all its values are in the range of `int64`, what
it returns is not negative, and a length that is not zero stays a limit. -/
structure ParsedWithoutOverflow (text : WString) : Prop where
  steps : ∀ value ∈ (tracedDuration text).steps, value < 2 ^ 63
  nonneg : ∀ value, parseDuration text = some value → 0 ≤ value.toInt
  limited : ∀ value (duration : DurationText), parseDuration text = some value → duration.text = text →
    0 < duration.units → ∀ fileBase dateFormat suffixDigits,
      0 < (Request.captureStart fileBase dateFormat suffixDigits value).startArgs.captureTime

namespace DurationText

theorem inRange_iff (duration : DurationText) : duration.InRange ↔ duration.units < 2 ^ 63 := by
  have hNonneg := duration.fractionUnits_nonneg
  have hLess := duration.fractionUnits_lt
  rw [InRange, units]
  omega

/-- In range, the parse returns the length. -/
theorem InRange.toInt {duration : DurationText} (h : duration.InRange) {value : Int64}
    (hValue : parseDuration duration.text = some value) : value.toInt = duration.units := by
  obtain ⟨returned, hReturned, hLength⟩ := duration.parseDuration_toInt (duration.inRange_iff.mp h)
  rw [hReturned, Option.some.injEq] at hValue
  rw [← hValue, hLength]

end DurationText

/-- Only the last step of a parse can overflow, and does so exactly for a length
beyond the range. -/
theorem parsedWithoutOverflow_iff (text : WString) :
    ParsedWithoutOverflow text ↔ ∀ duration : DurationText, duration.text = text → duration.InRange := by
  constructor
  · rintro h duration rfl
    obtain ⟨units, hUnits, hLength⟩ := duration.units_mem
    have hLess := h.steps units hUnits
    rw [duration.inRange_iff]
    omega
  · intro h
    have hBelow := tracedDuration_below fun duration hText => duration.inRange_iff.mp (h duration hText)
    constructor
    · exact hBelow.1
    · intro value hValue
      rw [tracedDuration_result] at hValue
      obtain ⟨units, hUnits, rfl⟩ := Option.map_eq_some_iff.mp hValue
      rw [Int64.toInt_ofNat_of_lt (hBelow.2 units hUnits)]
      exact Int.natCast_nonneg units
    · rintro value duration hValue rfl hPositive fileBase dateFormat suffixDigits
      have hLength := (h duration rfl).toInt hValue
      have hValuePositive : 0 < value := Int64.lt_iff_toInt_lt.mpr (by rw [hLength]; exact hPositive)
      show 0 < if value ≤ 0 then 0 else value
      rw [if_neg (Int64.not_le.mpr hValuePositive)]
      exact hValuePositive

/-- The largest number of hours there is room for is far beyond the range. -/
def nineDigitHours : DurationText where
  clock := .hours
    ⟨wide "999999999", by decide, by decide, List.all_eq_true.mp rfl⟩
    ⟨wide "00", by decide, by decide, List.all_eq_true.mp rfl⟩
    ⟨wide "00", by decide, by decide, List.all_eq_true.mp rfl⟩
  fraction := none

/-- What it parses into is negative, and starts a capture without a limit. -/
theorem parseDuration_nineDigitHours :
    ¬ ParsedWithoutOverflow (wide "999999999:00:00") ∧
      ∃ value, parseDuration (wide "999999999:00:00") = some value ∧ value.toInt < 0 ∧
        (Request.captureStart (wide "x") [] 0 value).startArgs.captureTime = 0 := by
  have hText : nineDigitHours.text = wide "999999999:00:00" := rfl
  have hUnits : nineDigitHours.units = 35999999964000000000 := by decide
  constructor
  · rw [parsedWithoutOverflow_iff]
    intro h
    have hRange := (nineDigitHours.inRange_iff).mp (h nineDigitHours hText)
    rw [hUnits] at hRange
    omega
  · have hParse := nineDigitHours.parseDuration_text
    rw [hText, hUnits] at hParse
    exact ⟨_, hParse, by decide, by decide⟩

end WinDV
