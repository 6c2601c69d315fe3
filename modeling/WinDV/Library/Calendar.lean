import Mathlib.Algebra.BigOperators.Group.Finset.Basic
import Mathlib.Logic.Function.Iterate
import Mathlib.Tactic.Ring

/-! The Gregorian calendar. Months are counted on over the years, and a date is a
day its month has; a day number its month does not have is carried over into the
months behind it. -/
namespace Calendar

def isLeap (year : Nat) : Bool := year % 4 == 0 && (year % 100 != 0 || year % 400 == 0)

/-- The month `month % 12`, from January, of the year `month / 12`. -/
def monthLength (month : Nat) : Nat :=
  if month % 12 = 1 then if isLeap (month / 12) then 29 else 28
  else if month % 12 = 3 ∨ month % 12 = 5 ∨ month % 12 = 8 ∨ month % 12 = 10 then 30
  else 31

theorem monthLength_ge (month : Nat) : 28 ≤ monthLength month := by
  rw [monthLength]
  split_ifs <;> omega

/-- A day of the calendar. -/
@[ext] structure Date where
  month : Nat
  day : Nat
  day_pos : 1 ≤ day
  day_le : day ≤ monthLength month
  deriving DecidableEq, Repr

namespace Date

/-- The first of a month. -/
def first (month : Nat) : Date :=
  ⟨month, 1, le_rfl, le_trans (by decide) (monthLength_ge month)⟩

/-- The day after. -/
def next (date : Date) : Date :=
  if h : date.day < monthLength date.month then ⟨date.month, date.day + 1, Nat.le_add_left _ _, h⟩
  else first (date.month + 1)

/-- So many days after. -/
def after (days : Nat) (date : Date) : Date := next^[days] date

end Date

end Calendar
