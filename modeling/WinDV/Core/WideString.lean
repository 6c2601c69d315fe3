import Mathlib.Data.List.Basic
import Mathlib.Tactic.Common
import WinDV.Library.Decimal

/-! Wide strings as the C++ code sees them: lists of UTF-16 code units, with
the searches, the digit tests and the case-insensitive comparison it uses. -/
namespace WinDV

/-- `wchar_t` on Windows. -/
abbrev WChar := UInt16

/-- `std::wstring` and `std::wstring_view`. -/
abbrev WString := List WChar

/-- The code unit of an `L'x'` literal. -/
def wchar (c : Char) : WChar := UInt16.ofNat c.toNat

/-- An `L"..."` literal. -/
def wide (text : String) : WString := text.toList.map wchar

/-- `find_last_of` for a class of characters. -/
def findLastOf (test : WChar → Bool) : WString → Option Nat
  | [] => none
  | c :: rest =>
      match findLastOf test rest with
      | some i => some (i + 1)
      | none => if test c then some 0 else none

theorem find_none {c : WChar} {text : WString} (h : c ∉ text) : text.findIdx? (· == c) = none := by
  rw [List.findIdx?_eq_none_iff]
  intro d hd
  rw [beq_eq_false_iff_ne]
  rintro rfl
  exact h hd

/-- `find` stops at the first such character. -/
theorem find_append {c : WChar} {front : WString} (h : c ∉ front) (rest : WString) :
    (front ++ c :: rest).findIdx? (· == c) = some front.length := by
  rw [List.findIdx?_append, find_none h]
  simp [List.findIdx?_cons]

theorem drop_cut (front : WString) (c : WChar) (rest : WString) :
    (front ++ c :: rest).drop (front.length + 1) = rest := by
  rw [List.drop_append]
  simp

/-- The characters of `L"\\/:"`. -/
def isSeparator (c : WChar) : Bool := c == wchar '\\' || c == wchar '/' || c == wchar ':'

theorem findLastOf_none {test : WChar → Bool} {text : WString} (h : ∀ c ∈ text, test c = false) :
    findLastOf test text = none := by
  induction text with
  | nil => rfl
  | cons c rest ih =>
      rw [findLastOf, ih fun d hd => h d (List.mem_cons_of_mem _ hd)]
      simp [h c List.mem_cons_self]

theorem forall_of_findLastOf_none {test : WChar → Bool} {text : WString}
    (h : findLastOf test text = none) : ∀ c ∈ text, test c = false := by
  induction text with
  | nil => exact nofun
  | cons c rest ih =>
      rw [findLastOf] at h
      cases hRest : findLastOf test rest with
      | some i => simp [hRest] at h
      | none =>
          rw [hRest] at h
          intro d hd
          rcases List.mem_cons.mp hd with rfl | hd
          · simpa using h
          · exact ih hRest d hd

/-- A tail without such characters does not move the last one. -/
theorem findLastOf_append {test : WChar → Bool} (text : WString) {tail : WString}
    (h : ∀ c ∈ tail, test c = false) : findLastOf test (text ++ tail) = findLastOf test text := by
  induction text with
  | nil => simpa [findLastOf] using findLastOf_none h
  | cons c rest ih => simp only [List.cons_append, findLastOf, ih]

theorem findLastOf_lt {test : WChar → Bool} {text : WString} {i : Nat}
    (h : findLastOf test text = some i) : i < text.length := by
  induction text generalizing i with
  | nil => simp [findLastOf] at h
  | cons c rest ih =>
      rw [findLastOf] at h
      cases hRest : findLastOf test rest with
      | none =>
          rw [hRest] at h
          split_ifs at h
          simp only [Option.some.injEq] at h
          simp [← h]
      | some j =>
          obtain rfl : j + 1 = i := by simpa [hRest] using h
          simpa using ih hRest

/-- `L'0' + d`. -/
def digitChar (d : Nat) : WChar := UInt16.ofNat (48 + d)

def isDigit (c : WChar) : Bool := wchar '0' ≤ c && c ≤ wchar '9'

/-- The decimal digit a character stands for, as `std::stoi` reads it. -/
def digitValue (c : WChar) : Nat := c.toNat - 48

theorem isDigit_iff (c : WChar) : isDigit c = true ↔ 48 ≤ c.toNat ∧ c.toNat ≤ 57 := by
  simp only [isDigit, Bool.and_eq_true, decide_eq_true_eq, UInt16.le_iff_toNat_le]
  rfl

theorem digitChar_toNat {d : Nat} (h : d < 10) : (digitChar d).toNat = 48 + d := by
  rw [digitChar, UInt16.toNat_ofNat']
  exact Nat.mod_eq_of_lt (by omega)

theorem digitValue_digitChar {d : Nat} (h : d < 10) : digitValue (digitChar d) = d := by
  rw [digitValue, digitChar_toNat h]
  omega

theorem digitChar_digitValue {c : WChar} (h : isDigit c = true) : digitChar (digitValue c) = c := by
  have := (isDigit_iff c).mp h
  apply UInt16.toNat_inj.mp
  rw [digitChar_toNat (by simp only [digitValue]; omega), digitValue]
  omega

theorem digitValue_lt {c : WChar} (h : isDigit c = true) : digitValue c < 10 := by
  have := (isDigit_iff c).mp h
  simp only [digitValue]
  omega

theorem map_digitValue_lt {digits : WString} (h : ∀ c ∈ digits, isDigit c = true) :
    ∀ d ∈ digits.map digitValue, d < 10 := by
  intro d hd
  obtain ⟨c, hc, rfl⟩ := List.mem_map.mp hd
  exact digitValue_lt (h c hc)

theorem isDigit_digitChar {d : Nat} (h : d < 10) : isDigit (digitChar d) = true := by
  rw [isDigit_iff, digitChar_toNat h]
  omega

/-- What is assumed of the comparison behind `_wcsnicmp`: characters are
compared through a fold that takes letters to letters and leaves every other
character alone. Digits and the dot are not letters. -/
structure CaseFold where
  fold : WChar → WChar
  isLetter : WChar → Bool
  letter_fold : ∀ c, isLetter c = true → isLetter (fold c) = true
  other_fold : ∀ c, isLetter c = false → fold c = c
  dot_other : isLetter (wchar '.') = false
  digit_other : ∀ c, isDigit c = true → isLetter c = false

namespace CaseFold

/-- The fold of the "C" locale: `A`..`Z` become `a`..`z`. -/
def ascii : CaseFold where
  fold c := if wchar 'A' ≤ c ∧ c ≤ wchar 'Z' then c + 32 else c
  isLetter c := (wchar 'A' ≤ c && c ≤ wchar 'Z') || (wchar 'a' ≤ c && c ≤ wchar 'z')
  letter_fold := by
    intro c h
    have hA : (wchar 'A').toNat = 65 := rfl
    have hZ : (wchar 'Z').toNat = 90 := rfl
    have ha : (wchar 'a').toNat = 97 := rfl
    have hz : (wchar 'z').toNat = 122 := rfl
    split_ifs with hUpper
    · simp only [UInt16.le_iff_toNat_le, hA, hZ] at hUpper
      have hShift : (c + 32).toNat = c.toNat + 32 := by
        rw [UInt16.toNat_add]
        exact Nat.mod_eq_of_lt (by simp; omega)
      simp only [Bool.or_eq_true, Bool.and_eq_true, decide_eq_true_eq, UInt16.le_iff_toNat_le,
        hShift, ha, hz]
      omega
    · exact h
  other_fold := by
    intro c h
    rw [if_neg]
    rintro ⟨hA, hZ⟩
    simp [hA, hZ] at h
  dot_other := by decide
  digit_other := by
    intro c h
    have hBounds := (isDigit_iff c).mp h
    have hA : (wchar 'A').toNat = 65 := rfl
    have ha : (wchar 'a').toNat = 97 := rfl
    simp only [Bool.or_eq_false_iff, Bool.and_eq_false_iff, decide_eq_false_iff_not,
      UInt16.le_iff_toNat_le, hA, ha]
    omega

/-- A character that is no letter equals only itself under the fold. -/
theorem eq_of_fold_other (cf : CaseFold) {c d : WChar} (hd : cf.isLetter d = false)
    (h : cf.fold c = cf.fold d) : c = d := by
  rw [cf.other_fold d hd] at h
  cases hc : cf.isLetter c with
  | false => rwa [cf.other_fold c hc] at h
  | true =>
      have hLetter := cf.letter_fold c hc
      rw [h, hd] at hLetter
      cases hLetter

theorem eq_of_fold_digits (cf : CaseFold) {text digits : WString}
    (hDigits : ∀ c ∈ digits, isDigit c = true) (h : text.map cf.fold = digits.map cf.fold) :
    text = digits := by
  induction digits generalizing text with
  | nil => simpa using h
  | cons d rest ih =>
      cases text with
      | nil => simp at h
      | cons c tail =>
          simp only [List.map_cons, List.cons.injEq] at h
          have hLast := ih (fun e he => hDigits e (List.mem_cons_of_mem _ he)) h.2
          rw [cf.eq_of_fold_other (cf.digit_other d (hDigits d List.mem_cons_self)) h.1, hLast]

end CaseFold

/-- `_wcsnicmp(a, b, n) == 0`. -/
def wcsnicmpEqual (cf : CaseFold) (a b : WString) (n : Nat) : Bool :=
  (a.take n).map cf.fold == (b.take n).map cf.fold

/-- `EqualsNoCase`. -/
def equalsNoCase (cf : CaseFold) (a b : WString) : Bool :=
  a.length == b.length && wcsnicmpEqual cf a b a.length

theorem equalsNoCase_iff (cf : CaseFold) (a b : WString) :
    equalsNoCase cf a b = true ↔ a.map cf.fold = b.map cf.fold := by
  simp only [equalsNoCase, wcsnicmpEqual, Bool.and_eq_true, beq_iff_eq, List.take_length]
  constructor
  · rintro ⟨hLength, h⟩
    rwa [hLength, List.take_length] at h
  · intro h
    have hLength : a.length = b.length := by simpa using congrArg List.length h
    exact ⟨hLength, by rw [hLength, List.take_length, h]⟩

theorem equalsNoCase_length {cf : CaseFold} {a b : WString} (h : equalsNoCase cf a b = true) :
    a.length = b.length := by
  simpa using congrArg List.length ((equalsNoCase_iff cf a b).mp h)

theorem equalsNoCase_refl (cf : CaseFold) (a : WString) : equalsNoCase cf a a = true :=
  (equalsNoCase_iff cf a a).mpr rfl

theorem equalsNoCase_trans {cf : CaseFold} {a b c : WString} (hFirst : equalsNoCase cf c a = true)
    (hSecond : equalsNoCase cf c b = true) : equalsNoCase cf a b = true := by
  rw [equalsNoCase_iff] at hFirst hSecond ⊢
  rw [← hFirst, hSecond]

theorem equalsNoCase_append {cf : CaseFold} {a b : WString} (suffix : WString) :
    equalsNoCase cf (a ++ suffix) (b ++ suffix) = equalsNoCase cf a b := by
  rw [Bool.eq_iff_iff, equalsNoCase_iff, equalsNoCase_iff, List.map_append, List.map_append]
  constructor
  · intro h
    exact List.append_cancel_right h
  · intro h
    rw [h]

theorem equalsNoCase_comm (cf : CaseFold) (a b : WString) :
    equalsNoCase cf a b = equalsNoCase cf b a := by
  rw [Bool.eq_iff_iff, equalsNoCase_iff, equalsNoCase_iff, eq_comm]

end WinDV
