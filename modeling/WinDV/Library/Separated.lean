import Mathlib.Data.List.DropRight
import Mathlib.Tactic.Common

/-! Lists of fields in one text: separated by one character, with blanks around
a field that do not count, and with empty fields left out. -/
namespace Separated

universe u

variable {α : Type u} (sep : α) (blank : α → Bool)

/-- The text without the blanks at its two ends. -/
def trim (text : List α) : List α := (text.dropWhile blank).rdropWhile blank

variable [DecidableEq α]

/-- The fields of a text. -/
def fields (text : List α) : List (List α) := ((text.splitOn sep).map (trim blank)).filter (· ≠ [])

variable {sep blank}

omit [DecidableEq α] in
theorem dropWhile_append_blank {text : List α} {c : α} (h : blank c = true) :
    (text ++ [c]).dropWhile blank =
      if text.dropWhile blank = [] then [] else text.dropWhile blank ++ [c] := by
  rw [List.dropWhile_append]
  split_ifs with h1 h2 h2 <;> simp_all

omit [DecidableEq α] in
/-- A blank at the end does not count. -/
theorem trim_append_blank {text : List α} {c : α} (h : blank c = true) :
    trim blank (text ++ [c]) = trim blank text := by
  rw [trim, dropWhile_append_blank h, trim]
  split_ifs with hEmpty
  · rw [hEmpty]
  · rw [List.rdropWhile_concat_pos _ _ _ h]

omit [DecidableEq α] in
/-- A blank in front does not count. -/
theorem trim_cons_blank {text : List α} {c : α} (h : blank c = true) :
    trim blank (c :: text) = trim blank text := by
  rw [trim, List.dropWhile_cons_of_pos h, trim]

theorem fields_nil : fields sep blank [] = [] := rfl

/-- A separator between two texts keeps their fields apart. -/
theorem fields_append_sep (first second : List α) :
    fields sep blank (first ++ sep :: second) = fields sep blank first ++ fields sep blank second := by
  rw [fields, List.splitOn_append_cons_self, List.map_append, List.filter_append]
  rfl

/-- A text without a separator is one field, or none. -/
theorem fields_single {text : List α} (h : sep ∉ text) :
    fields sep blank text = [trim blank text].filter (· ≠ []) := by
  rw [fields, List.splitOn_eq_singleton h, List.map_singleton]

/-- A blank in front of a text changes none of its fields. -/
theorem fields_cons_blank {text : List α} {c : α} (h : blank c = true) (hSep : blank sep = false) :
    fields sep blank (c :: text) = fields sep blank text := by
  have hOther : (c == sep) = false := by
    rw [beq_eq_false_iff_ne]
    rintro rfl
    simp [hSep] at h
  rw [fields, fields, List.splitOn_cons_eq_if_modifyHead, hOther]
  cases hSplit : text.splitOn sep with
  | nil => exact absurd hSplit (List.splitOn_ne_nil _ _)
  | cons first rest => simp [trim_cons_blank h]

/-- The text up to its last separator, and what is behind it. -/
theorem splitOn_snoc (text : List α) {c : α} (h : c ≠ sep) :
    ∃ init last, text.splitOn sep = init ++ [last] ∧ (text ++ [c]).splitOn sep = init ++ [last ++ [c]] := by
  induction text with
  | nil =>
      refine ⟨[], [], rfl, ?_⟩
      rw [List.nil_append, List.splitOn_eq_singleton (by simpa using h.symm)]
      rfl
  | cons d rest ih =>
      obtain ⟨init, last, hRest, hSnoc⟩ := ih
      rw [List.cons_append, List.splitOn_cons_eq_if_modifyHead, List.splitOn_cons_eq_if_modifyHead,
        hRest, hSnoc]
      split_ifs
      · exact ⟨[] :: init, last, rfl, rfl⟩
      · cases init with
        | nil => exact ⟨[], d :: last, rfl, rfl⟩
        | cons first others => exact ⟨(d :: first) :: others, last, rfl, rfl⟩

/-- A blank behind a text changes none of its fields. -/
theorem fields_append_blank {text : List α} {c : α} (h : blank c = true) (hSep : blank sep = false) :
    fields sep blank (text ++ [c]) = fields sep blank text := by
  have hOther : c ≠ sep := by
    rintro rfl
    simp [hSep] at h
  obtain ⟨init, last, hText, hSnoc⟩ := splitOn_snoc text hOther
  rw [fields, fields, hText, hSnoc, List.map_append, List.map_append, List.map_singleton,
    List.map_singleton, trim_append_blank h]

omit [DecidableEq α] in
/-- The last separator of a text is where it is cut. -/
theorem append_sep_inj {first second rest others : List α} (hRest : sep ∉ rest) (hOthers : sep ∉ others)
    (h : first ++ sep :: rest = second ++ sep :: others) : first = second ∧ rest = others := by
  rcases List.append_eq_append_iff.mp h with ⟨between, hSecond, hTail⟩ | ⟨between, hFirst, hTail⟩
  · cases between with
    | nil => exact ⟨by simpa using hSecond.symm, (List.cons.inj hTail).2⟩
    | cons c more =>
        obtain ⟨-, hMore⟩ := List.cons.inj hTail
        exact absurd (hMore ▸ by simp) hRest
  · cases between with
    | nil => exact ⟨by simpa using hFirst, (List.cons.inj hTail).2.symm⟩
    | cons c more =>
        obtain ⟨-, hMore⟩ := List.cons.inj hTail
        exact absurd (hMore ▸ by simp) hOthers

section Join

variable {gap : α}

/-- One more part, with the separator between two blanks unless the text is
still empty. -/
def joinNext (sep gap : α) (text part : List α) : List α :=
  if text.isEmpty then part else text ++ [gap, sep, gap] ++ part

/-- Put the parts in one text. -/
def join (sep gap : α) (start : List α) (parts : List (List α)) : List α :=
  parts.foldl (joinNext sep gap) start

omit [DecidableEq α] in
/-- The separators and the blanks around them cost at most three for each part. -/
theorem join_length_le (sep gap : α) (start : List α) (parts : List (List α)) :
    (join sep gap start parts).length ≤ start.length + parts.flatten.length + 3 * parts.length := by
  induction parts generalizing start with
  | nil => simp [join]
  | cons part rest ih =>
      have hRest := ih (joinNext sep gap start part)
      have hNext : (joinNext sep gap start part).length ≤ start.length + 3 + part.length := by
        rw [joinNext]
        split_ifs
        · omega
        · rw [List.length_append, List.length_append]
          exact Nat.le_refl _
      show (join sep gap (joinNext sep gap start part) rest).length ≤ _
      rw [List.flatten_cons, List.length_append, List.length_cons]
      omega

theorem fields_joinNext (hGap : blank gap = true) (hSep : blank sep = false) (text part : List α) :
    fields sep blank (joinNext sep gap text part) =
      fields sep blank text ++ fields sep blank part := by
  rw [joinNext]
  split_ifs with hEmpty
  · rw [List.isEmpty_iff.mp hEmpty, fields_nil, List.nil_append]
  · have hParts : text ++ [gap, sep, gap] ++ part = (text ++ [gap]) ++ sep :: gap :: part := by simp
    rw [hParts, fields_append_sep, fields_append_blank hGap hSep, fields_cons_blank hGap hSep]

/-- Joining keeps the fields and their order. -/
theorem fields_join (hGap : blank gap = true) (hSep : blank sep = false) (start : List α)
    (parts : List (List α)) :
    fields sep blank (join sep gap start parts) =
      fields sep blank start ++ parts.flatMap (fields sep blank) := by
  induction parts generalizing start with
  | nil => simp [join]
  | cons part rest ih =>
      rw [List.flatMap_cons, ← List.append_assoc, ← fields_joinNext hGap hSep]
      exact ih _

omit [DecidableEq α] in
theorem mem_joinNext {text part : List α} {c : α} :
    c ∈ joinNext sep gap text part ↔ c ∈ text ∨ c ∈ part ∨ text ≠ [] ∧ (c = gap ∨ c = sep) := by
  cases text with
  | nil => simp [joinNext]
  | cons d rest =>
      simp only [joinNext, List.isEmpty_cons, Bool.false_eq_true, if_false, List.mem_append,
        List.mem_cons, List.not_mem_nil, or_false]
      tauto

omit [DecidableEq α] in
/-- Nothing of a part is lost in the text. -/
theorem mem_join {start : List α} {parts : List (List α)} {c : α}
    (h : c ∈ start ∨ ∃ part ∈ parts, c ∈ part) : c ∈ join sep gap start parts := by
  induction parts generalizing start with
  | nil => simpa [join] using h
  | cons part rest ih =>
      apply ih
      rw [mem_joinNext]
      rcases h with hStart | ⟨other, hOther, hMem⟩
      · exact Or.inl (Or.inl hStart)
      · rcases List.mem_cons.mp hOther with rfl | hRest
        · exact Or.inl (Or.inr (Or.inl hMem))
        · exact Or.inr ⟨other, hRest, hMem⟩

omit [DecidableEq α] in
/-- And nothing is in it but the parts and what stands between them. -/
theorem mem_of_mem_join {start : List α} {parts : List (List α)} {c : α}
    (h : c ∈ join sep gap start parts) :
    c ∈ start ∨ (∃ part ∈ parts, c ∈ part) ∨ c = gap ∨ c = sep := by
  induction parts generalizing start with
  | nil => exact Or.inl h
  | cons part rest ih =>
      rcases ih h with hStart | ⟨other, hOther, hMem⟩ | hBetween
      · rcases mem_joinNext.mp hStart with hOld | hPart | ⟨-, hBetween⟩
        · exact Or.inl hOld
        · exact Or.inr (Or.inl ⟨part, by simp, hPart⟩)
        · exact Or.inr (Or.inr hBetween)
      · exact Or.inr (Or.inl ⟨other, by simp [hOther], hMem⟩)
      · exact Or.inr (Or.inr hBetween)

end Join

section Parts

/-- The parts of a text between its separators, as they stand, without the empty ones. -/
def parts (sep : α) (text : List α) : List (List α) := (text.splitOn sep).filter (· ≠ [])

theorem parts_nil (sep : α) : parts sep [] = [] := rfl

/-- A separator between two texts keeps their parts apart. -/
theorem parts_append_sep (sep : α) (first second : List α) :
    parts sep (first ++ sep :: second) = parts sep first ++ parts sep second := by
  rw [parts, List.splitOn_append_cons_self, List.filter_append]
  rfl

/-- A text without a separator is one part, or none. -/
theorem parts_single {sep : α} {text : List α} (h : sep ∉ text) :
    parts sep text = [text].filter (· ≠ []) := by
  rw [parts, List.splitOn_eq_singleton h]

/-- No separator is left between separators. -/
theorem not_mem_of_mem_splitOn {sep : α} {text part : List α} (h : part ∈ text.splitOn sep) : sep ∉ part := by
  induction text generalizing part with
  | nil =>
      rw [List.splitOn_nil] at h
      obtain rfl := List.mem_singleton.mp h
      exact List.not_mem_nil
  | cons c rest ih =>
      rw [List.splitOn_cons_eq_if_modifyHead] at h
      split_ifs at h with hSep
      · rcases List.mem_cons.mp h with rfl | hRest
        · exact List.not_mem_nil
        · exact ih hRest
      · have hOther : sep ≠ c := by
          rintro rfl
          exact hSep (beq_self_eq_true sep)
        cases hSplit : rest.splitOn sep with
        | nil => exact absurd hSplit (List.splitOn_ne_nil _ _)
        | cons first others =>
            rw [hSplit] at h ih
            rcases List.mem_cons.mp h with rfl | hOthers
            · rw [List.mem_cons, not_or]
              exact ⟨hOther, ih List.mem_cons_self⟩
            · exact ih (List.mem_cons_of_mem _ hOthers)

/-- A part holds no separator and is not empty. -/
theorem mem_parts {sep : α} {text part : List α} (h : part ∈ parts sep text) : sep ∉ part ∧ part ≠ [] := by
  obtain ⟨hPart, hSome⟩ := List.mem_filter.mp h
  exact ⟨not_mem_of_mem_splitOn hPart, by simpa using hSome⟩

/-- What was joined falls apart again. -/
theorem parts_intercalate {sep : α} {texts : List (List α)} (h : ∀ text ∈ texts, sep ∉ text ∧ text ≠ []) :
    parts sep ([sep].intercalate texts) = texts := by
  cases texts with
  | nil => rfl
  | cons first rest =>
      rw [parts, List.splitOn_intercalate sep (fun text hText => (h text hText).1) (by simp)]
      apply List.filter_eq_self.mpr
      intro text hText
      simpa using (h text hText).2

/-- One more part, with the separator in front unless the text is still empty. -/
def appendPart (sep : α) (text part : List α) : List α := (if text.isEmpty then text else text ++ [sep]) ++ part

/-- Parts that were appended one by one fall apart again, but for the empty ones. -/
theorem parts_foldl_appendPart {sep : α} {texts : List (List α)} (h : ∀ text ∈ texts, sep ∉ text)
    (start : List α) :
    parts sep (texts.foldl (appendPart sep) start) = parts sep start ++ texts.filter (· ≠ []) := by
  induction texts generalizing start with
  | nil => rw [List.foldl_nil, List.filter_nil, List.append_nil]
  | cons text rest ih =>
      have hText := parts_single (h text List.mem_cons_self)
      have hFirst : parts sep (appendPart sep start text) = parts sep start ++ [text].filter (· ≠ []) := by
        cases start with
        | nil => rw [parts_nil, List.nil_append, ← hText]; rfl
        | cons c more =>
            rw [← hText, ← parts_append_sep]
            simp [appendPart]
      rw [List.foldl_cons, ih (fun other hOther => h other (List.mem_cons_of_mem _ hOther)), hFirst,
        List.append_assoc, ← List.filter_append]
      rfl

end Parts

end Separated
