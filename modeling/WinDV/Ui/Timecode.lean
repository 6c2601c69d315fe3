import WinDV.Core.CaptureNamingFresh
import WinDV.Core.DurationRange

/-! The timecode the main window shows, and the length `ParseDuration` reads in it.
The text is a duration of three fields and a fraction, and stands for the tenths of
a second it was made from. -/
namespace WinDV

/-- A `long` in an interpolated string, with at least so many digits: `{n}` has one,
`{n:00}` has two. -/
def longText (width : Nat) (n : Int64) : WString :=
  if n < 0 then wide "-" ++ numberDigits width n.toInt.natAbs else numberDigits width n.toInt.natAbs

/-- `MainViewModel.FormatTimecode`. -/
def formatTimecode (time : Int64) : WString :=
  if time < 0 then wide "-:--:--.-"
  else
    let tenths := time / 1000000
    longText 1 (tenths / 36000) ++ wide ":" ++ longText 2 (tenths / 600 % 60) ++ wide ":" ++
      longText 2 (tenths / 10 % 60) ++ wide "." ++ longText 1 (tenths % 10)

/-- A number with at most nine digits is a field, whatever its leading zeros. -/
theorem isField_numberDigits {width n : Nat} (hWidth : width ≤ kMaxFieldDigits) (h : n < 10 ^ 9) :
    IsField (numberDigits width n) where
  nonempty := ((isDecimal_iff _).mp (isDecimal_numberDigits width n)).1
  short := by
    rw [numberDigits_length]
    exact max_le hWidth (Decimal.shortest_length_le (by decide) h)
  digits := ((isDecimal_iff _).mp (isDecimal_numberDigits width n)).2

/-- So many tenths of a second as a duration. -/
def timecode (tenths : Nat) (h : tenths / 36000 < 10 ^ 9) : DurationText where
  clock := .hours
    ⟨numberDigits 1 (tenths / 36000), isField_numberDigits (by decide) h⟩
    ⟨numberDigits 2 (tenths / 600 % 60), isField_numberDigits (by decide) (by omega)⟩
    ⟨numberDigits 2 (tenths / 10 % 60), isField_numberDigits (by decide) (by omega)⟩
  fraction := some
    ⟨numberDigits 1 (tenths % 10), ((isDecimal_iff _).mp (isDecimal_numberDigits _ _)).2⟩

theorem ofNat_not_neg {n : Nat} (h : n < 2 ^ 63) : ¬ Int64.ofNat n < 0 := by
  rw [Int64.lt_iff_toInt_lt, Int64.toInt_ofNat_of_lt h]
  show ¬ (n : Int) < 0
  omega

theorem longText_ofNat (width : Nat) {n : Nat} (h : n < 2 ^ 63) :
    longText width (Int64.ofNat n) = numberDigits width n := by
  rw [longText, if_neg (ofNat_not_neg h), Int64.toInt_ofNat_of_lt h, Int.natAbs_natCast]

/-- Division and remainder of `long`s that are not negative. -/
theorem ofNat_div_mod {n d m : Nat} (hn : n < 2 ^ 63) (hd : d < 2 ^ 63) (hm : m < 2 ^ 63) :
    Int64.ofNat n / Int64.ofNat d % Int64.ofNat m = Int64.ofNat (n / d % m) := by
  have hQuotient : n / d < 2 ^ 63 := lt_of_le_of_lt (Nat.div_le_self _ _) hn
  rw [← Int64.ofNat_div hn hd, ← Int64.ofNat_mod hQuotient hm]

/-- The numbers of a timecode are those of the tenths, without a limit. -/
theorem formatTimecode_text {time : Nat} (h : time < 2 ^ 63) (hHours : time / 1000000 / 36000 < 10 ^ 9) :
    formatTimecode (Int64.ofNat time) = (timecode (time / 1000000) hHours).text := by
  have hTenths : Int64.ofNat time / 1000000 = Int64.ofNat (time / 1000000) :=
    (Int64.ofNat_div h (by decide)).symm
  have hHour : Int64.ofNat (time / 1000000) / 36000 = Int64.ofNat (time / 1000000 / 36000) :=
    (Int64.ofNat_div (by omega) (by decide)).symm
  have hMinute : Int64.ofNat (time / 1000000) / 600 % 60 = Int64.ofNat (time / 1000000 / 600 % 60) :=
    ofNat_div_mod (by omega) (by decide) (by decide)
  have hSecond : Int64.ofNat (time / 1000000) / 10 % 60 = Int64.ofNat (time / 1000000 / 10 % 60) :=
    ofNat_div_mod (by omega) (by decide) (by decide)
  have hTenth : Int64.ofNat (time / 1000000) % 10 = Int64.ofNat (time / 1000000 % 10) :=
    (Int64.ofNat_mod (by omega) (by decide)).symm
  rw [formatTimecode, if_neg (ofNat_not_neg h)]
  simp only [hTenths, hHour, hMinute, hSecond, hTenth]
  rw [longText_ofNat 1 (by omega), longText_ofNat 2 (by omega), longText_ofNat 2 (by omega),
    longText_ofNat 1 (by omega)]
  show _ = (numberDigits 1 (time / 1000000 / 36000) ++ wchar ':' ::
    (numberDigits 2 (time / 1000000 / 600 % 60) ++ wchar ':' ::
      numberDigits 2 (time / 1000000 / 10 % 60))) ++ wchar '.' :: numberDigits 1 (time / 1000000 % 10)
  simp [wide]

/-- One digit behind the point counts tenths. -/
theorem truncated_digit {d : Nat} (h : d < 10) :
    Decimal.truncated 7 ((numberDigits 1 d).map digitValue) = 1000000 * d := by
  have hLength : ((numberDigits 1 d).map digitValue).length = 1 := by
    rw [List.length_map]
    exact numberDigits_length_of_lt (by decide) (by omega)
  have hValue : Decimal.value ((numberDigits 1 d).map digitValue) = d := stoi_numberDigits 1 d
  rw [Decimal.truncated, hValue, hLength]
  omega

/-- The carries between the fields cancel. -/
theorem timecode_units (tenths : Nat) (h : tenths / 36000 < 10 ^ 9) :
    (timecode tenths h).units = tenths * 1000000 := by
  have hClock : (timecode tenths h).clock.inSeconds =
      tenths / 36000 * 3600 + tenths / 600 % 60 * 60 + tenths / 10 % 60 := by
    show stoi (numberDigits 1 _) * 3600 + stoi (numberDigits 2 _) * 60 + stoi (numberDigits 2 _) = _
    rw [stoi_numberDigits, stoi_numberDigits, stoi_numberDigits]
  have hFraction : (timecode tenths h).fractionUnits = ((1000000 * (tenths % 10) : Nat) : Int) := by
    rw [← truncated_digit (Nat.mod_lt tenths (by decide))]
    exact DurationText.fractionUnits_some _ _
  rw [DurationText.units, hClock, hFraction]
  push_cast
  omega

/-- What the timecode of a time says: the time down to the last tenth of a second. -/
theorem exists_of_formatTimecode {time : Int64} (h : 0 ≤ time.toInt) :
    ∃ duration : DurationText, duration.text = formatTimecode time ∧
      duration.units = time.toInt / 1000000 * 1000000 := by
  have hTop := time.toInt_lt
  obtain ⟨units, hUnits⟩ := Int.eq_ofNat_of_zero_le h
  rw [hUnits] at hTop
  have hLess : units < 2 ^ 63 := by exact_mod_cast hTop
  have hHours : units / 1000000 / 36000 < 10 ^ 9 := by omega
  have hTime : time = Int64.ofNat units := by
    rw [← Int64.ofInt_toInt time, hUnits]
    exact Int64.ofInt_eq_ofNat
  have hLength := timecode_units (units / 1000000) hHours
  refine ⟨timecode (units / 1000000) hHours, ?_, ?_⟩
  · rw [hTime, formatTimecode_text hLess hHours]
  · rw [hUnits, hLength]
    push_cast
    rfl

/-- A timecode reads back as the tenths of a second it shows, without an overflow on
the way. -/
theorem formatTimecode_reads_back (time : Int64) (h : 0 ≤ time.toInt) :
    (∀ value ∈ (tracedDuration (formatTimecode time)).steps, value < 2 ^ 63) ∧
      ∃ value, parseDuration (formatTimecode time) = some value ∧
        value.toInt = time.toInt / 1000000 * 1000000 := by
  have hTop := time.toInt_lt
  obtain ⟨duration, hText, hUnits⟩ := exists_of_formatTimecode h
  have hFits : duration.units < 2 ^ 63 := by omega
  rw [← hText, ← hUnits]
  constructor
  · apply (tracedDuration_below fun other hOther => ?_).1
    rw [DurationText.units_of_text hOther]
    exact hFits
  · exact duration.parseDuration_toInt hFits

/-- The last time there is has an hour of nine digits. -/
theorem formatTimecode_reads_back_last :
    formatTimecode 9223372036854775807 = wide "256204778:48:05.4" ∧
      ∃ value, parseDuration (wide "256204778:48:05.4") = some value ∧
        value.toInt = 9223372036854000000 := by
  have hText : formatTimecode 9223372036854775807 = wide "256204778:48:05.4" := by decide +kernel
  obtain ⟨value, hParse, hValue⟩ := (formatTimecode_reads_back 9223372036854775807 (by decide)).2
  rw [hText] at hParse
  exact ⟨hText, value, hParse, hValue.trans (by decide)⟩

end WinDV
