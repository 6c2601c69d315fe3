import WinDV.Core.TimeFormat
import WinDV.Library.PrefixCode

/-! The grammar behind `IsValidTimeFormat`: a format is a row of items, each an
ordinary character or a conversion, and is read in one way only. -/
namespace WinDV

open InformationTheory

/-- What a format is made of. -/
inductive IsTimeItem : WString → Prop where
  | ordinary {c : WChar} (h : c ≠ wchar '%') : IsTimeItem [c]
  | conversion {c : WChar} (h : c ∈ kConversions) : IsTimeItem [wchar '%', c]
  | eModified {c : WChar} (h : c ∈ kEModified) : IsTimeItem [wchar '%', wchar 'E', c]
  | oModified {c : WChar} (h : c ∈ kOModified) : IsTimeItem [wchar '%', wchar 'O', c]
  | hashModified {c : WChar} (h : c ∈ kHashModified) : IsTimeItem [wchar '%', wchar '#', c]

/-- No modifier is a conversion. -/
theorem modifiers_not_conversions :
    wchar 'E' ∉ kConversions ∧ wchar 'O' ∉ kConversions ∧ wchar '#' ∉ kConversions := by decide

theorem modifierSet_conversion {c : WChar} (h : c ∈ kConversions) : modifierSet c = none := by
  obtain ⟨hE, hO, hHash⟩ := modifiers_not_conversions
  rw [modifierSet, if_neg, if_neg, if_neg]
  · rintro rfl
    exact hO h
  · rintro rfl
    exact hE h
  · rintro rfl
    exact hHash h

theorem isValidTimeFormat_conversion {c : WChar} (h : modifierSet c = none) (rest : WString) :
    isValidTimeFormat (wchar '%' :: c :: rest) = (kConversions.contains c && isValidTimeFormat rest) := by
  conv_lhs => unfold isValidTimeFormat
  simp [h]

theorem isValidTimeFormat_modified {m : WChar} {allowed : WString} (h : modifierSet m = some allowed)
    (c : WChar) (rest : WString) :
    isValidTimeFormat (wchar '%' :: m :: c :: rest) = (allowed.contains c && isValidTimeFormat rest) := by
  conv_lhs => unfold isValidTimeFormat
  simp [h]

/-- An item in front changes nothing about the check. -/
theorem IsTimeItem.isValidTimeFormat_append {item : WString} (h : IsTimeItem item) (rest : WString) :
    isValidTimeFormat (item ++ rest) = isValidTimeFormat rest := by
  have hModified : ∀ {m c : WChar} {allowed : WString}, modifierSet m = some allowed → c ∈ allowed →
      isValidTimeFormat (wchar '%' :: m :: c :: rest) = isValidTimeFormat rest := by
    intro m c allowed hSet hMem
    rw [isValidTimeFormat_modified hSet, List.contains_iff_mem.mpr hMem, Bool.true_and]
  cases h with
  | ordinary h => exact isValidTimeFormat_ordinary h rest
  | @conversion c h =>
      show isValidTimeFormat (wchar '%' :: c :: rest) = isValidTimeFormat rest
      rw [isValidTimeFormat_conversion (modifierSet_conversion h), List.contains_iff_mem.mpr h, Bool.true_and]
  | eModified h => exact hModified (show modifierSet (wchar 'E') = some kEModified from by decide) h
  | oModified h => exact hModified (show modifierSet (wchar 'O') = some kOModified from by decide) h
  | hashModified h => exact hModified (show modifierSet (wchar '#') = some kHashModified from by decide) h

/-- A modifier and a conversion of its set are an item. -/
theorem isTimeItem_modified {m c : WChar} {allowed : WString} (h : modifierSet m = some allowed)
    (hMem : c ∈ allowed) : IsTimeItem [wchar '%', m, c] := by
  rw [modifierSet] at h
  split_ifs at h with hHash hE hO
  · cases h
    rw [hHash]
    exact .hashModified hMem
  · cases h
    rw [hE]
    exact .eModified hMem
  · cases h
    rw [hO]
    exact .oModified hMem

/-- A format that is accepted starts with an item, unless it is empty. -/
theorem isValidTimeFormat_cases {format : WString} (h : isValidTimeFormat format = true) :
    format = [] ∨ ∃ item rest, IsTimeItem item ∧ format = item ++ rest := by
  cases format with
  | nil => exact Or.inl rfl
  | cons c rest =>
      right
      by_cases hOrdinary : c ≠ wchar '%'
      · exact ⟨[c], rest, .ordinary hOrdinary, rfl⟩
      · obtain rfl := not_not.mp hOrdinary
        cases rest with
        | nil => cases h
        | cons d tail =>
            cases hSet : modifierSet d with
            | none =>
                rw [isValidTimeFormat_conversion hSet, Bool.and_eq_true] at h
                exact ⟨[wchar '%', d], tail, .conversion (List.contains_iff_mem.mp h.1), rfl⟩
            | some allowed =>
                cases tail with
                | nil =>
                    conv at h => unfold isValidTimeFormat
                    simp [hSet] at h
                | cons e others =>
                    rw [isValidTimeFormat_modified hSet, Bool.and_eq_true] at h
                    exact ⟨[wchar '%', d, e], others,
                      isTimeItem_modified hSet (List.contains_iff_mem.mp h.1), rfl⟩

theorem IsTimeItem.ne_nil {item : WString} (h : IsTimeItem item) : item ≠ [] := by
  cases h <;> exact List.cons_ne_nil _ _

/-- A row of items in front changes nothing about the check. -/
theorem isValidTimeFormat_items {items : List WString} (h : ∀ item ∈ items, IsTimeItem item)
    (rest : WString) : isValidTimeFormat (items.flatten ++ rest) = isValidTimeFormat rest := by
  induction items with
  | nil => rfl
  | cons item others ih =>
      rw [List.forall_mem_cons] at h
      rw [List.flatten_cons, List.append_assoc, h.1.isValidTimeFormat_append]
      exact ih h.2

/-- Rows of items are accepted. -/
theorem isValidTimeFormat_flatten {items : List WString} (h : ∀ item ∈ items, IsTimeItem item) :
    isValidTimeFormat items.flatten = true := by
  have hItems := isValidTimeFormat_items h []
  rw [List.append_nil] at hItems
  exact hItems

/-- And nothing else is. -/
theorem exists_items {format : WString} (h : isValidTimeFormat format = true) :
    ∃ items : List WString, (∀ item ∈ items, IsTimeItem item) ∧ items.flatten = format := by
  induction hLength : format.length using Nat.strong_induction_on generalizing format with
  | _ length ih =>
      rcases isValidTimeFormat_cases h with rfl | ⟨item, rest, hItem, rfl⟩
      · exact ⟨[], by simp, rfl⟩
      · rw [hItem.isValidTimeFormat_append] at h
        have hPos : 0 < item.length := List.length_pos_of_ne_nil hItem.ne_nil
        rw [List.length_append] at hLength
        obtain ⟨items, hItems, rfl⟩ := ih rest.length (by omega) h rfl
        refine ⟨item :: items, ?_, rfl⟩
        intro other hOther
        rcases List.mem_cons.mp hOther with rfl | hRest
        · exact hItem
        · exact hItems other hRest

/-- No item starts with another one. -/
theorem IsTimeItem.eq_of_prefix {item other : WString} (hItem : IsTimeItem item) (hOther : IsTimeItem other)
    (h : item <+: other) : item = other := by
  obtain ⟨hE, hO, hHash⟩ := modifiers_not_conversions
  cases hItem <;> cases hOther <;> simp_all [List.cons_prefix_cons]

theorem timeItems_uniquelyDecodable : UniquelyDecodable {item | IsTimeItem item} :=
  uniquelyDecodable_of_prefix (fun _ h => h.ne_nil) fun _ hItem _ hOther h => hItem.eq_of_prefix hOther h

/-- The check accepts exactly the rows of items, which are read in one way only. -/
theorem isValidTimeFormat_grammar :
    (∀ format : WString, isValidTimeFormat format = true ↔
      ∃ items : List WString, (∀ item ∈ items, IsTimeItem item) ∧ items.flatten = format) ∧
    UniquelyDecodable {item | IsTimeItem item} ∧
    (∀ front rest : WString, isValidTimeFormat front = true →
      isValidTimeFormat (front ++ rest) = isValidTimeFormat rest) ∧
    (∀ dtformat : WString, isValidTimeFormat (wide "~" ++ dtformat) = isValidTimeFormat dtformat) := by
  have hAppend : ∀ front rest : WString, isValidTimeFormat front = true →
      isValidTimeFormat (front ++ rest) = isValidTimeFormat rest := by
    intro front rest h
    obtain ⟨items, hItems, rfl⟩ := exists_items h
    exact isValidTimeFormat_items hItems rest
  refine ⟨?_, timeItems_uniquelyDecodable, hAppend, ?_⟩
  · intro format
    constructor
    · exact exists_items
    · rintro ⟨items, hItems, rfl⟩
      exact isValidTimeFormat_flatten hItems
  · intro dtformat
    exact hAppend (wide "~") dtformat (by decide)

end WinDV
