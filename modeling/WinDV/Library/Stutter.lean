import Mathlib.Data.List.Basic
import Mathlib.Tactic.Common

/-! Sequences that show a list of items in order, each of them one or more
times in a row. Equal neighbours in the list stay apart: how often each item
is shown is not read off the sequence. -/
namespace Stutter

universe u

variable {α : Type u} {items shown : List α} {item : α}

/-- `shown` repeats each of `items` at least once, in order. It grows at its
end, with the next item or with the last one again. -/
inductive Repeats : List α → List α → Prop where
  | none : Repeats [] []
  | next {items shown : List α} (prior : Repeats items shown) (item : α) :
      Repeats (items ++ [item]) (shown ++ [item])
  | again {items shown : List α} {item : α} (prior : Repeats (items ++ [item]) shown) :
      Repeats (items ++ [item]) (shown ++ [item])

/-- Each item as often as its count says. -/
def expand (counts : List Nat) (items : List α) : List α :=
  (List.zipWith List.replicate counts items).flatten

theorem expand_concat {counts : List Nat} (h : counts.length = items.length) (count : Nat)
    (item : α) :
    expand (counts ++ [count]) (items ++ [item]) = expand counts items ++ List.replicate count item := by
  rw [expand, List.zipWith_append h, List.flatten_append]
  simp [expand]

/-- How often each item is shown. -/
theorem Repeats.counts (h : Repeats items shown) :
    ∃ counts : List Nat, counts.length = items.length ∧ (∀ count ∈ counts, 1 ≤ count) ∧
      shown = expand counts items := by
  induction h with
  | none => exact ⟨[], rfl, by simp, rfl⟩
  | @next items shown prior item ih =>
      obtain ⟨counts, hLength, hPos, rfl⟩ := ih
      refine ⟨counts ++ [1], by simp [hLength], ?_, ?_⟩
      · intro count hCount
        rcases List.mem_append.mp hCount with hCount | hCount
        · exact hPos count hCount
        · exact Nat.le_of_eq (List.mem_singleton.mp hCount).symm
      · rw [expand_concat hLength, List.replicate_one]
  | @again items shown item prior ih =>
      obtain ⟨counts, hLength, hPos, rfl⟩ := ih
      rcases counts.eq_nil_or_concat' with rfl | ⟨init, last, rfl⟩
      · simp at hLength
      · have hInit : init.length = items.length := by simpa using hLength
        -- the last count goes up by one
        refine ⟨init ++ [last + 1], by simpa using hInit, ?_, ?_⟩
        · intro count hCount
          rcases List.mem_append.mp hCount with hCount | hCount
          · exact hPos count (List.mem_append_left _ hCount)
          · rw [List.mem_singleton.mp hCount]
            exact Nat.le_add_left 1 last
        · rw [expand_concat hInit, expand_concat hInit, List.replicate_succ', List.append_assoc]

end Stutter
