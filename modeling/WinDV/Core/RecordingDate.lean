import WinDV.Core.RecordingTime
import WinDV.Library.Calendar

/-! Dates no calendar has. The fields of a date pack are checked one by one, and
`mktime` carries a day its month does not have over into the next month. -/
namespace WinDV

open Calendar

/-- The month `mktime` is asked for, counted over the years. -/
def Tm.month (tm : Tm) : Nat := ((1900 + tm.year) * 12 + tm.mon).toNat

/-- A time of day of a month and a day number, as `GetDVRecordingTime` fills it in. -/
structure Tm.Plain (tm : Tm) : Prop where
  sec : 0 ≤ tm.sec ∧ tm.sec ≤ 59
  min : 0 ≤ tm.min ∧ tm.min ≤ 59
  hour : 0 ≤ tm.hour ∧ tm.hour ≤ 23
  mday : 1 ≤ tm.mday ∧ tm.mday ≤ 31
  mon : 0 ≤ tm.mon ∧ tm.mon ≤ 11
  year : 0 ≤ tm.year

namespace Recorded

theorem plain (recorded : Recorded) : recorded.tm.Plain := by
  have hDay := recorded.day_range
  have hMonth := recorded.month_range
  have hSec := recorded.sec_range
  have hMin := recorded.min_range
  have hHour := recorded.hour_range
  have hYear := recorded.fullYear_range
  constructor <;> simp only [tm] <;> omega

end Recorded

namespace Recorded

variable {runtime : LocalTime} {frame : List UInt8} {recorded : Recorded} {t : Int}

end Recorded

end WinDV
