import Mathlib.Data.List.Forall2
import Mathlib.Data.List.Induction
import Mathlib.Tactic.Common

/-! A sequence cut into consecutive parts while it grows. Whether the next
element starts a part of its own is decided from the elements so far and the
part in progress. -/
namespace Segmentation

universe u v

variable {α : Type u} {β : Type v}

/-- The parts of a sequence. The first element starts one. Each later element
starts one if it breaks with what precedes it, else it joins the last part. -/
inductive Segmented (breaks : List α → List α → α → Prop) : List α → List (List α) → Prop where
  | nil : Segmented breaks [] []
  | first (x : α) : Segmented breaks [x] [[x]]
  | extend {before : List α} {parts : List (List α)} {part : List α} {x : α}
      (prior : Segmented breaks before (parts ++ [part])) (goesOn : ¬ breaks before part x) :
      Segmented breaks (before ++ [x]) (parts ++ [part ++ [x]])
  | start {before : List α} {parts : List (List α)} {part : List α} {x : α}
      (prior : Segmented breaks before (parts ++ [part])) (starts : breaks before part x) :
      Segmented breaks (before ++ [x]) (parts ++ [part] ++ [[x]])

namespace Segmented

variable {breaks : List α → List α → α → Prop} {xs : List α} {parts : List (List α)}

/-- Nothing is lost, repeated or moved. -/
theorem flatten_eq (h : Segmented breaks xs parts) : parts.flatten = xs := by
  induction h with
  | nil => rfl
  | first x => rfl
  | extend _ _ ih | start _ _ ih =>
      rw [← ih]
      simp

theorem nil_of_no_parts (h : Segmented breaks xs []) : xs = [] := by
  rw [← h.flatten_eq]
  rfl

end Segmented

/-- The elements at the positions 0, `n`, 2`n` and so on. -/
def everyNth (n : Nat) (xs : List α) : List α :=
  xs.zipIdx.filterMap fun entry => if entry.2 % n = 0 then some entry.1 else none

@[simp] theorem everyNth_singleton (n : Nat) (x : α) : everyNth n [x] = [x] := by
  simp [everyNth]

/-- The next element is at a position of its own, the number of those before it. -/
theorem everyNth_concat (n : Nat) (xs : List α) (x : α) :
    everyNth n (xs ++ [x]) = everyNth n xs ++ if xs.length % n = 0 then [x] else [] := by
  rw [everyNth, List.zipIdx_append, List.filterMap_append, everyNth]
  congr 1
  by_cases h : xs.length % n = 0
  · simp [h]
  · simp [h]

/-- The elements at the positions in a set. -/
def atPositions (keep : Nat → Prop) [DecidablePred keep] (xs : List α) : List α :=
  xs.zipIdx.filterMap fun entry => if keep entry.2 then some entry.1 else none

theorem everyNth_eq_atPositions (n : Nat) (xs : List α) :
    everyNth n xs = atPositions (fun i => i % n = 0) xs := rfl

@[simp] theorem atPositions_nil (keep : Nat → Prop) [DecidablePred keep] :
    atPositions keep ([] : List α) = [] := rfl

theorem atPositions_concat (keep : Nat → Prop) [DecidablePred keep] (xs : List α) (x : α) :
    atPositions keep (xs ++ [x]) = atPositions keep xs ++ if keep xs.length then [x] else [] := by
  rw [atPositions, List.zipIdx_append, List.filterMap_append, atPositions]
  congr 1
  by_cases h : keep xs.length
  · simp [h]
  · simp [h]

theorem atPositions_congr {keep keep' : Nat → Prop} [DecidablePred keep] [DecidablePred keep']
    (xs : List α) (h : ∀ i < xs.length, (keep i ↔ keep' i)) :
    atPositions keep xs = atPositions keep' xs := by
  induction xs using List.reverseRecOn with
  | nil => rfl
  | append_singleton xs x ih =>
      have hLast : keep xs.length ↔ keep' xs.length := h xs.length (by simp)
      rw [atPositions_concat, atPositions_concat, if_congr hLast rfl rfl]
      congr 1
      apply ih
      intro i hi
      exact h i (by simp; omega)

/-- Of every `n` elements, begun ones counted, one is taken. -/
theorem length_everyNth {n : Nat} (hn : 0 < n) (xs : List α) :
    (everyNth n xs).length = (xs.length + (n - 1)) / n := by
  induction xs using List.reverseRecOn with
  | nil =>
      symm
      exact Nat.div_eq_of_lt (by simp; omega)
  | append_singleton xs x ih =>
      rw [everyNth_concat, List.length_append, ih, List.length_append, List.length_singleton]
      -- The quotient rises where the length before is a multiple of `n`.
      by_cases h : xs.length % n = 0
      · obtain ⟨k, hk⟩ := Nat.dvd_of_mod_eq_zero h
        have hBelow : (n * k + (n - 1)) / n = k := by
          rw [Nat.mul_add_div hn, Nat.div_eq_of_lt (by omega), Nat.add_zero]
        have hAbove : (n * k + 1 + (n - 1)) / n = k + 1 := by
          rw [show n * k + 1 + (n - 1) = n * (k + 1) by rw [Nat.mul_succ]; omega, Nat.mul_div_cancel_left _ hn]
        simp [hk, hBelow, hAbove]
      · have hSplit := Nat.div_add_mod xs.length n
        have hRest := Nat.mod_lt xs.length hn
        generalize xs.length / n = k at hSplit
        generalize xs.length % n = r at hSplit hRest h
        have hBelow : (xs.length + (n - 1)) / n = k + 1 := by
          rw [← hSplit, show n * k + r + (n - 1) = n * (k + 1) + (r - 1) by rw [Nat.mul_succ]; omega,
            Nat.mul_add_div hn, Nat.div_eq_of_lt (by omega), Nat.add_zero]
        have hAbove : (xs.length + 1 + (n - 1)) / n = k + 1 := by
          rw [← hSplit, show n * k + r + 1 + (n - 1) = n * (k + 1) + r by rw [Nat.mul_succ]; omega,
            Nat.mul_add_div hn, Nat.div_eq_of_lt hRest, Nat.add_zero]
        simp [h, hBelow, hAbove]

/-- How many elements a part takes for `m` of them to be at its positions 0,
`n`, 2`n` and so on: the last of them is its last element. -/
def partLength (m n : Nat) : Nat := (m - 1) * n + 1

/-- A part has its `m`-th such element exactly when it has that length. -/
theorem length_everyNth_eq_iff {m n : Nat} (hm : 0 < m) (hn : 0 < n) {part : List α}
    (hPart : part.length ≤ partLength m n) :
    (everyNth n part).length = m ↔ part.length = partLength m n := by
  obtain ⟨k, rfl⟩ := Nat.exists_eq_add_of_lt hm
  rw [length_everyNth hn]
  simp only [partLength, Nat.zero_add, Nat.add_sub_cancel] at hPart ⊢
  constructor
  · intro hLength
    have hEnough : (k + 1) * n ≤ part.length + (n - 1) :=
      (Nat.le_div_iff_mul_le hn).mp (Nat.le_of_eq hLength.symm)
    rw [Nat.succ_mul] at hEnough
    omega
  · intro hLength
    rw [hLength, show k * n + 1 + (n - 1) = (k + 1) * n by rw [Nat.succ_mul]; omega,
      Nat.mul_div_cancel _ hn]

/-- Parts that end at a fixed length: an element's position in its part is its
position in the sequence modulo that length. -/
theorem Segmented.everyNth_parts {breaks : List α → List α → α → Prop} {xs : List α}
    {parts : List (List α)} (h : Segmented breaks xs parts) {n p : Nat} (hp : 0 < p)
    (hBreaks : ∀ before x, before ++ [x] <+: xs → ∀ part : List α, part.length ≤ p →
      (breaks before part x ↔ part.length = p)) :
    (parts.map (everyNth n)).flatten = atPositions (fun i => i % p % n = 0) xs ∧
      ∀ done part, parts = done ++ [part] → xs.length = done.length * p + part.length ∧
        0 < part.length ∧ part.length ≤ p := by
  induction h with
  | nil => simp
  | first x =>
      refine ⟨by simp [atPositions], fun done part hParts => ?_⟩
      obtain ⟨rfl, hPart⟩ := List.append_inj' (show [] ++ [[x]] = done ++ [part] from hParts) rfl
      obtain rfl := List.singleton_inj.mp hPart
      exact ⟨by simp, Nat.zero_lt_one, hp⟩
  | @extend before done part x prior goesOn ih =>
      obtain ⟨hKept, hLast⟩ := ih fun earlier y hEarlier =>
        hBreaks earlier y (hEarlier.trans (List.prefix_append _ _))
      obtain ⟨hLength, hPos, hMost⟩ := hLast done part rfl
      have hLess : part.length < p :=
        Nat.lt_of_le_of_ne hMost fun hFull =>
          goesOn ((hBreaks before x (List.prefix_refl _) part hMost).mpr hFull)
      have hPosition : before.length % p = part.length := by
        rw [hLength, Nat.add_comm, Nat.add_mul_mod_self_right, Nat.mod_eq_of_lt hLess]
      constructor
      · rw [atPositions_concat, hPosition, ← hKept]
        simp [everyNth_concat]
      · intro done' part' hParts
        obtain ⟨rfl, hPart⟩ := List.append_inj' hParts rfl
        obtain rfl := List.singleton_inj.mp hPart
        simp only [List.length_append, List.length_singleton]
        omega
  | @start before done part x prior starts ih =>
      obtain ⟨hKept, hLast⟩ := ih fun earlier y hEarlier =>
        hBreaks earlier y (hEarlier.trans (List.prefix_append _ _))
      obtain ⟨hLength, hPos, hMost⟩ := hLast done part rfl
      have hFull : part.length = p := (hBreaks before x (List.prefix_refl _) part hMost).mp starts
      have hPosition : before.length % p = 0 := by
        rw [hLength, hFull, ← Nat.succ_mul]
        exact Nat.mul_mod_left _ _
      constructor
      · rw [atPositions_concat, hPosition, ← hKept]
        simp
      · intro done' part' hParts
        obtain ⟨rfl, hPart⟩ := List.append_inj' hParts rfl
        obtain rfl := List.singleton_inj.mp hPart
        exact ⟨by simp [hLength, hFull, Nat.add_mul], Nat.zero_lt_one, hp⟩

/-- The positions counted anew in every part are those counted throughout
exactly if every position is taken or there is one part only. -/
theorem same_positions_iff {m n count : Nat} (hn : 0 < n) :
    (∀ i < count, (i % partLength m n % n = 0 ↔ i % n = 0)) ↔ n = 1 ∨ count ≤ partLength m n := by
  constructor
  · intro hSame
    by_contra hNot
    rw [not_or, Nat.not_le] at hNot
    have hShift := hSame (partLength m n) hNot.2
    rw [Nat.mod_self, Nat.zero_mod, partLength, Nat.mul_add_mod_self_right,
      Nat.mod_eq_of_lt (by omega : 1 < n)] at hShift
    exact absurd (hShift.mp rfl) Nat.one_ne_zero
  · rintro (rfl | hCount) i hi
    · simp [Nat.mod_one]
    · rw [Nat.mod_eq_of_lt (Nat.lt_of_lt_of_le hi hCount)]

/-- No prefix of a sequence has a property. -/
def NoPrefix (has : List α → Prop) (xs : List α) : Prop := ∀ part, part <+: xs → ¬ has part

/-- The shortest prefix of a sequence that has a property. -/
structure ShortestPrefix (has : List α → Prop) (xs part : List α) : Prop where
  initial : part <+: xs
  reaches : has part
  shortest : ∀ shorter, shorter <+: part → shorter ≠ part → ¬ has shorter

theorem noPrefix_nil {has : List α → Prop} (h : ¬ has []) : NoPrefix has [] := by
  intro part hPart
  rw [List.prefix_nil.mp hPart]
  exact h

theorem NoPrefix.of_append {has : List α → Prop} {xs ys : List α} (h : NoPrefix has (xs ++ ys)) :
    NoPrefix has xs :=
  fun part hPart => h part (hPart.trans (List.prefix_append _ _))

/-- One more element decides whether there is such a prefix by now. -/
theorem NoPrefix.concat {has : List α → Prop} {xs : List α} {x : α} (h : NoPrefix has xs)
    (hNot : ¬ has (xs ++ [x])) : NoPrefix has (xs ++ [x]) := by
  intro part hPart
  rcases List.prefix_concat_iff.mp hPart with rfl | hShorter
  · exact hNot
  · exact h part hShorter

theorem NoPrefix.shortest {has : List α → Prop} {xs : List α} {x : α} (h : NoPrefix has xs)
    (hHas : has (xs ++ [x])) : ShortestPrefix has (xs ++ [x]) (xs ++ [x]) where
  initial := List.prefix_refl _
  reaches := hHas
  shortest := by
    intro shorter hShorter hNe
    rcases List.prefix_concat_iff.mp hShorter with hSame | hShorter
    · exact absurd hSame hNe
    · exact h shorter hShorter

/-- One more element completes the shortest prefix, or there is still none. -/
theorem NoPrefix.concat_or_shortest {has : List α → Prop} {xs : List α} {x : α} (h : NoPrefix has xs) :
    NoPrefix has (xs ++ [x]) ∨ ShortestPrefix has (xs ++ [x]) (xs ++ [x]) := by
  by_cases hHas : has (xs ++ [x])
  · exact Or.inr (h.shortest hHas)
  · exact Or.inl (h.concat hHas)

theorem ShortestPrefix.mono {has : List α → Prop} {xs ys part : List α} (h : ShortestPrefix has xs part)
    (hPrefix : xs <+: ys) : ShortestPrefix has ys part :=
  ⟨h.initial.trans hPrefix, h.reaches, h.shortest⟩

/-- Two sequences that correspond, element by element, up to and with their
last elements. -/
theorem forall₂_concat {rel : α → β → Prop} {xs : List α} {ys : List β} {x : α} {y : β} :
    List.Forall₂ rel (xs ++ [x]) (ys ++ [y]) ↔ List.Forall₂ rel xs ys ∧ rel x y := by
  rw [← List.forall₂_reverse_iff]
  simp [and_comm]

end Segmentation
