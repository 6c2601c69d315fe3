import Mathlib.Algebra.Ring.Int.Defs
import Mathlib.Data.Int.Order.Basic
import Mathlib.Order.Defs.LinearOrder
import Mathlib.Tactic.Common

/-! Sums and counts in integers of a fixed width. They wrap around, and are the
exact ones as long as those fit. -/
namespace Wrapping

/-- A count that has room for one more. -/
theorem toInt_succ {n : Int32} (h : n.toInt + 1 < 2 ^ 31) : (n + 1).toInt = n.toInt + 1 := by
  have hLow := n.le_toInt
  rw [Int32.toInt_add, Int32.toInt_one, Int.bmod]
  omega

/-- A sum that does not pass the lower end of the range is not too large. -/
theorem toInt_add_le {a b : Int64} (h : -2 ^ 63 ≤ a.toInt + b.toInt) :
    (a + b).toInt ≤ a.toInt + b.toInt := by
  rw [Int64.toInt_add, Int.bmod]
  omega

instance linearOrderInt32 : LinearOrder Int32 where
  le_refl := Int32.le_refl
  le_trans _ _ _ := Int32.le_trans
  lt_iff_le_not_ge a b := by rw [Int32.not_le]; exact ⟨fun h => ⟨Int32.le_of_lt h, h⟩, And.right⟩
  le_antisymm _ _ := Int32.le_antisymm
  le_total := Int32.le_total
  toDecidableLE := inferInstance

instance linearOrderInt64 : LinearOrder Int64 where
  le_refl := Int64.le_refl
  le_trans _ _ _ := Int64.le_trans
  lt_iff_le_not_ge a b := by rw [Int64.not_le]; exact ⟨fun h => ⟨Int64.le_of_lt h, h⟩, And.right⟩
  le_antisymm _ _ := Int64.le_antisymm
  le_total := Int64.le_total
  toDecidableLE := inferInstance

theorem toInt_max (a b : Int32) : (max a b).toInt = max a.toInt b.toInt := by
  rcases le_total a b with hLe | hLe
  · rw [max_eq_right hLe, max_eq_right (Int32.le_iff_toInt_le.mp hLe)]
  · rw [max_eq_left hLe, max_eq_left (Int32.le_iff_toInt_le.mp hLe)]

/-- What has been added to a count beyond `n` does not show exactly if `n` fits
and the rest has gone all the way round. -/
theorem toInt_ofInt32_add_eq_iff {n extra : Int} :
    (Int32.ofInt (n + extra)).toInt = n ↔ (-2 ^ 31 ≤ n ∧ n < 2 ^ 31) ∧ 2 ^ 32 ∣ extra := by
  rw [Int32.toInt_ofInt, Int.bmod, Int32.size]
  omega

/-- The same for a sum. -/
theorem toInt_ofInt64_add_eq_iff {n extra : Int} :
    (Int64.ofInt (n + extra)).toInt = n ↔ (-2 ^ 63 ≤ n ∧ n < 2 ^ 63) ∧ 2 ^ 64 ∣ extra := by
  rw [Int64.toInt_ofInt, Int.bmod, Int64.size]
  omega

end Wrapping
