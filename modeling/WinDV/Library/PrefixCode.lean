import Mathlib.InformationTheory.Coding.UniquelyDecodable
import Mathlib.Tactic.Common

/-! Codes in which no word starts with another one can be read from left to right
in one way only. -/
namespace InformationTheory

variable {α : Type*} {S : Set (List α)}

/-- Of two texts that start with a word of a prefix code and agree, the words agree. -/
theorem append_inj_of_prefix (hPrefix : ∀ v ∈ S, ∀ w ∈ S, v <+: w → v = w) {v w rest others : List α}
    (hv : v ∈ S) (hw : w ∈ S) (h : v ++ rest = w ++ others) : v = w ∧ rest = others := by
  have hFirst : v <+: w ++ others := h ▸ List.prefix_append v rest
  have hSecond : w <+: w ++ others := List.prefix_append w others
  have hSame : v = w := by
    rcases Nat.le_total v.length w.length with hLess | hLess
    · exact hPrefix v hv w hw (List.prefix_of_prefix_length_le hFirst hSecond hLess)
    · exact (hPrefix w hw v hv (List.prefix_of_prefix_length_le hSecond hFirst hLess)).symm
  subst hSame
  exact ⟨rfl, List.append_cancel_left h⟩

/-- A prefix code without the empty word can be decoded in one way only. -/
theorem uniquelyDecodable_of_prefix (hNonempty : ∀ w ∈ S, w ≠ [])
    (hPrefix : ∀ v ∈ S, ∀ w ∈ S, v <+: w → v = w) : UniquelyDecodable S := by
  intro first second hFirst hSecond h
  induction first generalizing second with
  | nil =>
      cases second with
      | nil => rfl
      | cons w others =>
          simp [hNonempty w (hSecond w List.mem_cons_self)] at h
  | cons v rest ih =>
      cases second with
      | nil => simp [hNonempty v (hFirst v List.mem_cons_self)] at h
      | cons w others =>
          rw [List.flatten_cons, List.flatten_cons] at h
          obtain ⟨rfl, hRest⟩ := append_inj_of_prefix hPrefix (hFirst v List.mem_cons_self)
            (hSecond w List.mem_cons_self) h
          rw [ih others (fun u hu => hFirst u (List.mem_cons_of_mem _ hu))
            (fun u hu => hSecond u (List.mem_cons_of_mem _ hu)) hRest]

end InformationTheory
