import Mathlib.Data.List.Basic
import Mathlib.Data.Nat.ModEq
import Mathlib.Tactic.Common

/-! Fixed-length storage cut into windows, and ring positions on it. Storage is
a list; a write replaces a range of cells and keeps all others, and reads of
disjoint ranges are unaffected. Ring positions count from a head modulo the
number of slots. -/
namespace Storage

universe u

variable {α : Type u}

/-- Replace the cells from `start` on by `data`, as a copy into a buffer does. -/
def overwrite (cells : List α) (start : Nat) (data : List α) : List α :=
  cells.take start ++ data ++ cells.drop (start + data.length)

/-- The `length` cells from `start` on. -/
def window (cells : List α) (start length : Nat) : List α :=
  (cells.drop start).take length

theorem overwrite_length (cells : List α) (start : Nat) (data : List α)
    (h : start + data.length ≤ cells.length) :
    (overwrite cells start data).length = cells.length := by
  simp only [overwrite, List.length_append, List.length_take, List.length_drop]
  omega

theorem overwrite_getElem? (cells : List α) (start : Nat) (data : List α)
    (h : start + data.length ≤ cells.length) (i : Nat) :
    (overwrite cells start data)[i]? =
      if start ≤ i ∧ i < start + data.length then data[i - start]? else cells[i]? := by
  have hTake : (cells.take start).length = start := by simp; omega
  unfold overwrite
  rw [List.append_assoc, List.getElem?_append]
  split_ifs with hBefore hInside hInside
  · omega
  · rw [List.getElem?_take_of_lt (by omega)]
  · rw [hTake, List.getElem?_append_left (by omega)]
  · rw [hTake, List.getElem?_append_right (by omega), List.getElem?_drop]
    congr 1
    omega

theorem window_getElem? (cells : List α) (start length i : Nat) :
    (window cells start length)[i]? = if i < length then cells[start + i]? else none := by
  unfold window
  split_ifs with h
  · rw [List.getElem?_take_of_lt h, List.getElem?_drop]
  · exact List.getElem?_eq_none (by simp; omega)

/-- Reading back the range just written gives the data written. -/
theorem window_overwrite_self (cells : List α) (start : Nat) (data : List α)
    (h : start + data.length ≤ cells.length) :
    window (overwrite cells start data) start data.length = data := by
  apply List.ext_getElem?
  intro i
  rw [window_getElem?]
  split_ifs with hi
  · rw [overwrite_getElem? cells start data h, if_pos (by omega)]
    congr 1
    omega
  · exact (List.getElem?_eq_none (by omega)).symm

/-- A write leaves every range it does not meet as it was. -/
theorem window_overwrite_disjoint (cells : List α) (start : Nat) (data : List α)
    (h : start + data.length ≤ cells.length) (other length : Nat)
    (hApart : other + length ≤ start ∨ start + data.length ≤ other) :
    window (overwrite cells start data) other length = window cells other length := by
  apply List.ext_getElem?
  intro i
  rw [window_getElem?, window_getElem?]
  split_ifs with hi
  · rw [overwrite_getElem? cells start data h, if_neg (by omega)]
  · rfl

/-- Slots of equal size do not overlap, whatever part of them is used. -/
theorem slots_apart {size i j used other : Nat} (hUsed : used ≤ size) (hOther : other ≤ size)
    (h : i ≠ j) : i * size + used ≤ j * size ∨ j * size + other ≤ i * size := by
  rcases Nat.lt_or_gt_of_ne h with h | h
  · left
    have hMul : (i + 1) * size ≤ j * size := Nat.mul_le_mul_right size h
    rw [Nat.add_mul] at hMul
    omega
  · right
    have hMul : (j + 1) * size ≤ i * size := Nat.mul_le_mul_right size h
    rw [Nat.add_mul] at hMul
    omega

/-- A slot lies inside storage that has room for all slots. -/
theorem slot_inside {size count i used : Nat} (hUsed : used ≤ size) (h : i < count) :
    i * size + used ≤ count * size := by
  have hMul : (i + 1) * size ≤ count * size := Nat.mul_le_mul_right size h
  rw [Nat.add_mul] at hMul
  omega

section Ring

variable {count head i j : Nat}

/-- The slot `i` places after the head. -/
def ringSlot (count head i : Nat) : Nat := (head + i) % count

theorem ringSlot_lt (hCount : 0 < count) : ringSlot count head i < count :=
  Nat.mod_lt _ hCount

@[simp] theorem ringSlot_zero (hHead : head < count) : ringSlot count head 0 = head := by
  simpa [ringSlot] using Nat.mod_eq_of_lt hHead

/-- Fewer than `count` consecutive places occupy different slots, through
every wrap-around. -/
theorem ringSlot_injective (hi : i < count) (hj : j < count)
    (h : ringSlot count head i = ringSlot count head j) : i = j := by
  have hMod : i % count = j % count := Nat.ModEq.add_left_cancel' head h
  rwa [Nat.mod_eq_of_lt hi, Nat.mod_eq_of_lt hj] at hMod

theorem ringSlot_succ : (ringSlot count head i + 1) % count = ringSlot count head (i + 1) := by
  simp [ringSlot, Nat.add_assoc]

/-- Moving the head one slot on renumbers the places behind it. -/
theorem ringSlot_advance :
    ringSlot count ((head + 1) % count) i = ringSlot count head (i + 1) := by
  simp [ringSlot, Nat.add_assoc, Nat.add_comm 1 i]

end Ring

end Storage
