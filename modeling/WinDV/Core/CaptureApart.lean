import WinDV.Core.CaptureNumbering
import WinDV.Library.Separated
import Mathlib.Data.Set.Basic

/-! Two series of captures in one directory. A name one of them chooses counts
in the other only when their stems have the same file name, or, without digits
asked for, when one file name is the other with a number. -/
namespace WinDV

/-- A number chosen when no digits are asked for: 0 once, then what follows a
counted number. -/
def IsFollowing (digits : WString) : Prop :=
  isDecimal digits = true ∧
    (digits = wide "0" ∨ digits = afterLastCounted ∨ stoi digits ≠ 0 ∧ digits.length ≤ kMaxDigits)

/-- Names of the series of `own` are none that count for the series of `other`. -/
def NamesApart (cf : CaseFold) (ndigits : Nat) (own other : WString) : Prop :=
  equalsNoCase cf own other = false ∧
    (ndigits = 0 →
      (∀ digits, IsFollowing digits → equalsNoCase cf (own ++ wide "." ++ digits) other = false) ∧
        ∀ digits, isDecimal digits = true → digits.length ≤ kMaxDigits →
          equalsNoCase cf own (other ++ wide "." ++ digits) = false)

/-- A name the loop takes notice of, and that can make a difference. -/
def Counts (cf : CaseFold) (name : WString) (ndigits : Nat) (e : WString) : Prop :=
  (∃ digits, isDecimal digits = true ∧ ndigits ≤ digits.length ∧ digits.length ≤ kMaxDigits ∧
    equalsNoCase cf e (numberedName name digits) = true) ∨
    ndigits = 0 ∧ equalsNoCase cf e (name ++ kExtension) = true

section Equal

variable {cf : CaseFold} {first second digits others : WString}

theorem fold_digits (hDigits : isDecimal digits = true) : digits.map cf.fold = digits := by
  have hSame : ∀ c ∈ digits, cf.fold c = c := fun c hc =>
    cf.other_fold c (cf.digit_other c (((isDecimal_iff digits).mp hDigits).2 c hc))
  rw [List.map_congr_left hSame, List.map_id']

theorem dot_notMem (hDigits : isDecimal digits = true) : wchar '.' ∉ digits := by
  intro hDot
  have hDigit := ((isDecimal_iff digits).mp hDigits).2 _ hDot
  exact absurd hDigit (by decide)

theorem fold_numbered (hDigits : isDecimal digits = true) (name : WString) :
    (name ++ wide "." ++ digits).map cf.fold = name.map cf.fold ++ wchar '.' :: digits := by
  rw [List.map_append, List.map_append, fold_digits hDigits, wide_dot, List.map_singleton,
    cf.other_fold _ cf.dot_other, List.append_assoc]
  rfl

/-- Equal numbered names have equal names and the same digits. -/
theorem equalsNoCase_numbered (hDigits : isDecimal digits = true) (hOthers : isDecimal others = true)
    (h : equalsNoCase cf (first ++ wide "." ++ digits) (second ++ wide "." ++ others) = true) :
    equalsNoCase cf first second = true ∧ digits = others := by
  rw [equalsNoCase_iff, fold_numbered hDigits, fold_numbered hOthers] at h
  obtain ⟨hName, hSame⟩ := Separated.append_sep_inj (dot_notMem hDigits) (dot_notMem hOthers) h
  exact ⟨(equalsNoCase_iff cf first second).mpr hName, hSame⟩

end Equal

section Chosen

variable {cf : CaseFold} {stem : WString} {ndigits : Nat}

/-- Listings that agree on the names that count give the same name. -/
theorem nextCaptureFilename_of_counts {first second : List WString} (hDigits : ndigits ≤ kMaxDigits)
    (h : ∀ e, Counts cf (fileNamePart stem) ndigits e → (e ∈ first ↔ e ∈ second)) :
    nextCaptureFilename cf stem ndigits first = nextCaptureFilename cf stem ndigits second := by
  have hListed : ∀ file,
      (∀ e, equalsNoCase cf e file = true → Counts cf (fileNamePart stem) ndigits e) →
      (Listed cf first file ↔ Listed cf second file) := by
    intro file hCounts
    constructor
    · rintro ⟨e, he, hEqual⟩
      exact ⟨e, (h e (hCounts e hEqual)).mp he, hEqual⟩
    · rintro ⟨e, he, hEqual⟩
      exact ⟨e, (h e (hCounts e hEqual)).mpr he, hEqual⟩
  apply nextCaptureFilename_congr hDigits
  · intro digits hDecimal hLow hHigh
    exact hListed _ fun e hEqual => Or.inl ⟨digits, hDecimal, hLow, hHigh, hEqual⟩
  · intro hZero
    exact hListed _ fun e hEqual => Or.inr ⟨hZero, hEqual⟩

theorem nextCaptureFilename_nil_zero :
    nextCaptureFilename cf stem (0 : Nat) [] = stem ++ kExtension := by
  simp [nextCaptureFilename, search]

theorem nextCaptureFilename_nil (hPos : 0 < ndigits) :
    nextCaptureFilename cf stem ndigits [] =
      stem ++ wide "." ++ numberDigits ndigits 0 ++ kExtension := by
  have hWidth : ¬ ndigits = 0 := by omega
  simp [nextCaptureFilename, search, hWidth, numberSuffix, numberDigits]

theorem nextCaptureFilename_plain {e : WString}
    (h : equalsNoCase cf e (fileNamePart stem ++ kExtension) = true) :
    nextCaptureFilename cf stem (0 : Nat) [e] = stem ++ wide "." ++ wide "0" ++ kExtension := by
  have hFound : search cf (fileNamePart stem) 0 [e] = { width := 0, plainExists := true } := by
    rw [search, List.foldl_cons, Search.visit, if_pos h, List.foldl_nil]
  rw [nextCaptureFilename, Int.natCast_zero, max_self, Int.toNat_zero, hFound, if_pos rfl, if_pos rfl,
    List.append_assoc stem (wide ".")]
  rfl

theorem search_single {name e digits : WString} (hLow : ndigits ≤ digits.length)
    (hHigh : digits.length ≤ kMaxDigits) (h : candidateDigits cf name e = some digits) :
    search cf name ndigits [e] = { width := digits.length, highest := stoi digits } := by
  have hPlain : ¬ equalsNoCase cf e (name ++ kExtension) = true := by
    intro hEqual
    rw [candidateDigits_plain hEqual] at h
    cases h
  have hCounts : ¬ (kMaxDigits < digits.length ∨ digits.length < ndigits) := by omega
  rw [search, List.foldl_cons, List.foldl_nil, Search.visit, if_neg hPlain, h]
  simp only [hCounts, if_false]
  rcases hLow.lt_or_eq with hWider | rfl
  · rw [if_pos hWider]
  · rw [if_neg (lt_irrefl _), max_eq_right (by omega)]

/-- After one numbered name comes the next number, with as many digits. -/
theorem nextCaptureFilename_single {e digits : WString} (hLow : ndigits ≤ digits.length)
    (hHigh : digits.length ≤ kMaxDigits) (hDigits : isDecimal digits = true)
    (h : equalsNoCase cf e (numberedName (fileNamePart stem) digits) = true) :
    nextCaptureFilename cf stem ndigits [e] =
      stem ++ wide "." ++ numberDigits digits.length (stoi digits + 1) ++ kExtension := by
  have hCandidate := (candidateDigits_iff cf (fileNamePart stem) e digits).mpr ⟨hDigits, h⟩
  have hSome : ¬ digits.length = 0 := by
    intro hNone
    exact ((isDecimal_iff digits).mp hDigits).1 (List.eq_nil_of_length_eq_zero hNone)
  have hNext : ((stoi digits : Int) + 1).toNat = stoi digits + 1 := by omega
  rw [nextCaptureFilename_of_found, search_single hLow hHigh hCandidate]
  simp only [hSome, if_false, hNext, numberSuffix, numberDigits, List.append_assoc]

/-- A name that counts makes a difference in an empty directory. -/
theorem nextCaptureFilename_single_ne {e : WString} (h : Counts cf (fileNamePart stem) ndigits e) :
    nextCaptureFilename cf stem ndigits [e] ≠ nextCaptureFilename cf stem ndigits [] := by
  have hPlainName : ∀ digits : WString,
      stem ++ wide "." ++ digits ++ kExtension ≠ stem ++ kExtension := by
    intro digits hSame
    have hLength := congrArg List.length hSame
    simp at hLength
  rcases h with ⟨digits, hDecimal, hLow, hHigh, hEqual⟩ | ⟨rfl, hEqual⟩
  · rw [nextCaptureFilename_single hLow hHigh hDecimal hEqual]
    rcases Nat.eq_zero_or_pos ndigits with rfl | hPos
    · rw [nextCaptureFilename_nil_zero]
      exact hPlainName _
    · rw [nextCaptureFilename_nil hPos]
      intro hSame
      have hNumber := congrArg stoi (numbered_inj hSame)
      rw [stoi_numberDigits, stoi_numberDigits] at hNumber
      omega
  · rw [nextCaptureFilename_plain hEqual, nextCaptureFilename_nil_zero]
    exact hPlainName _

/-- Without digits asked for, a number follows one that is counted. -/
theorem Search.Describes.following {name : WString} {seen : List WString} {found : Search}
    (h : Search.Describes cf name 0 seen found) (hSome : found.width ≠ 0) :
    IsFollowing (numberDigits found.width (found.highest + 1).toNat) := by
  refine ⟨isDecimal_numberDigits _ _, Or.inr ?_⟩
  have hNone : 0 ≤ kMaxDigits := Nat.zero_le _
  have hWidth : found.width ≤ 9 := h.width_counted hNone
  have hHighest : 0 ≤ found.highest := by
    rcases (h.width_greatest hNone).1 with hSame | ⟨digits, hCounted, hLength⟩
    · exact absurd hSame hSome
    · have := h.le_highest hCounted hLength
      omega
  have hLe := h.next_le hNone
  by_cases hLast : found.highest + 1 = 10 ^ 9
  · left
    have hLt := h.highest_lt
    have hNine : found.width = 9 := by
      by_contra hNarrow
      have hPow : (10 : Int) ^ found.width ≤ 10 ^ 8 := pow_le_pow_right₀ (by decide) (by omega)
      omega
    rw [hNine, hLast]
    exact numberDigits_afterLastCounted
  · right
    constructor
    · rw [stoi_numberDigits]
      omega
    · rw [numberDigits_length]
      have hShort : (Decimal.shortest (found.highest + 1).toNat).length ≤ 9 :=
        Decimal.shortest_length_le (by decide) (by omega)
      exact max_le hWidth hShort

/-- The two kinds of names that are chosen. -/
theorem nextCaptureFilename_forms (cf : CaseFold) (stem : WString) (hDigits : ndigits ≤ kMaxDigits)
    (existingNames : List WString) :
    (ndigits = 0 ∧ nextCaptureFilename cf stem ndigits existingNames = stem ++ kExtension) ∨
      ∃ digits, isDecimal digits = true ∧ (ndigits = 0 → IsFollowing digits) ∧
        nextCaptureFilename cf stem ndigits existingNames =
          stem ++ wide "." ++ digits ++ kExtension := by
  have hDescribes := search_describes cf (fileNamePart stem) ndigits existingNames
  rw [nextCaptureFilename_of_found]
  generalize search cf (fileNamePart stem) ndigits existingNames = found at hDescribes ⊢
  by_cases hZero : found.width = 0
  · have hNone : ndigits = 0 := by
      have := hDescribes.width_ge
      omega
    cases hPlain : found.plainExists with
    | false =>
        left
        refine ⟨hNone, ?_⟩
        simp [hZero]
    | true =>
        right
        refine ⟨wide "0", by decide, fun _ => ⟨by decide, Or.inl rfl⟩, ?_⟩
        simp only [hZero, if_true, List.append_assoc]
        rfl
  · right
    refine ⟨numberDigits found.width (found.highest + 1).toNat, isDecimal_numberDigits _ _, ?_, ?_⟩
    · intro hNone
      subst hNone
      exact hDescribes.following hZero
    · simp only [hZero, if_false, numberSuffix, numberDigits, List.append_assoc]

/-- Every such number is chosen for some listing. -/
theorem exists_listing_of_following (cf : CaseFold) (stem : WString) {digits : WString}
    (h : IsFollowing digits) :
    ∃ existingNames, nextCaptureFilename cf stem (0 : Nat) existingNames =
      stem ++ wide "." ++ digits ++ kExtension := by
  obtain ⟨hDecimal, rfl | rfl | ⟨hSome, hHigh⟩⟩ := h
  · exact ⟨_, nextCaptureFilename_plain (equalsNoCase_refl cf _)⟩
  · refine ⟨[numberedName (fileNamePart stem) lastCounted], ?_⟩
    rw [nextCaptureFilename_single (Nat.zero_le _) (by decide) isDecimal_lastCounted
      (equalsNoCase_refl cf _)]
    rfl
  · have hPos : 0 < digits.length := List.length_pos_of_ne_nil ((isDecimal_iff digits).mp hDecimal).1
    have hLt := stoi_lt hDecimal
    -- The number before it, written with as many digits.
    have hLength : (numberDigits digits.length (stoi digits - 1)).length = digits.length :=
      numberDigits_length_of_lt hPos (by omega)
    refine ⟨[numberedName (fileNamePart stem) (numberDigits digits.length (stoi digits - 1))], ?_⟩
    rw [nextCaptureFilename_single (Nat.zero_le _) (hLength.trans_le hHigh) (isDecimal_numberDigits _ _)
      (equalsNoCase_refl cf _), hLength, stoi_numberDigits, Nat.sub_add_cancel (by omega)]
    have hSame : numberDigits digits.length (stoi digits) = digits :=
      stoi_injective (isDecimal_numberDigits _ _) hDecimal (numberDigits_length_of_lt hPos hLt)
        (stoi_numberDigits _ _)
    rw [hSame]

end Chosen

section Apart

variable {cf : CaseFold} {own other : WString} {ndigits : Nat}

/-- Names that count where another series chooses its names. -/
theorem not_counts_of_apart (hDigits : ndigits ≤ kMaxDigits)
    (h : NamesApart cf ndigits (fileNamePart own) (fileNamePart other)) {existingNames : List WString}
    {e : WString}
    (hChosen : equalsNoCase cf e (fileNamePart (nextCaptureFilename cf own ndigits existingNames)) = true) :
    ¬ Counts cf (fileNamePart other) ndigits e := by
  obtain ⟨hNames, hZero⟩ := h
  intro hCounts
  rcases nextCaptureFilename_forms cf own hDigits existingNames with
    ⟨hNone, hName⟩ | ⟨digits, hDecimal, hFollowing, hName⟩
  · rw [hName, fileNamePart_plain] at hChosen
    rcases hCounts with ⟨others, hOthers, -, hHigh, hEqual⟩ | ⟨-, hEqual⟩
    · have hSame := equalsNoCase_trans hChosen hEqual
      rw [numberedName, equalsNoCase_append, (hZero hNone).2 others hOthers hHigh] at hSame
      cases hSame
    · have hSame := equalsNoCase_trans hChosen hEqual
      rw [equalsNoCase_append, hNames] at hSame
      cases hSame
  · rw [hName, fileNamePart_decimal own hDecimal] at hChosen
    rcases hCounts with ⟨others, hOthers, -, hHigh, hEqual⟩ | ⟨hNone, hEqual⟩
    · have hSame := equalsNoCase_trans hChosen hEqual
      rw [numberedName, numberedName, equalsNoCase_append] at hSame
      rw [(equalsNoCase_numbered hDecimal hOthers hSame).1] at hNames
      cases hNames
    · have hSame := equalsNoCase_trans hChosen hEqual
      rw [numberedName, equalsNoCase_append, (hZero hNone).1 digits (hFollowing hNone)] at hSame
      cases hSame

/-- If the names are not apart, some listing makes one series choose a name
that counts in the other. -/
theorem exists_counts_of_not_apart (hDigits : ndigits ≤ kMaxDigits)
    (h : ¬ NamesApart cf ndigits (fileNamePart own) (fileNamePart other)) :
    ∃ existingNames, Counts cf (fileNamePart other) ndigits
      (fileNamePart (nextCaptureFilename cf own ndigits existingNames)) := by
  by_cases hNames : equalsNoCase cf (fileNamePart own) (fileNamePart other) = true
  · refine ⟨[], ?_⟩
    rcases Nat.eq_zero_or_pos ndigits with rfl | hPos
    · right
      rw [nextCaptureFilename_nil_zero, fileNamePart_plain, equalsNoCase_append]
      exact ⟨rfl, hNames⟩
    · left
      have hDecimal := isDecimal_numberDigits ndigits 0
      have hLength : (numberDigits ndigits 0).length = ndigits :=
        numberDigits_length_of_lt hPos (by positivity)
      rw [nextCaptureFilename_nil hPos, fileNamePart_decimal own hDecimal]
      refine ⟨_, hDecimal, hLength.ge, hLength.trans_le hDigits, ?_⟩
      rw [numberedName, numberedName, List.append_assoc, List.append_assoc, List.append_assoc,
        List.append_assoc, equalsNoCase_append]
      exact hNames
  · rw [Bool.not_eq_true] at hNames
    have hZero : ndigits = 0 := by
      by_contra hSome
      exact h ⟨hNames, fun hNone => absurd hNone hSome⟩
    subst hZero
    by_cases hFirst : ∀ digits, IsFollowing digits →
        equalsNoCase cf (fileNamePart own ++ wide "." ++ digits) (fileNamePart other) = false
    · have hSecond : ∃ digits, isDecimal digits = true ∧ digits.length ≤ kMaxDigits ∧
          equalsNoCase cf (fileNamePart own) (fileNamePart other ++ wide "." ++ digits) = true := by
        by_contra hNever
        push Not at hNever
        refine h ⟨hNames, fun _ => ⟨hFirst, fun digits hDecimal hHigh => ?_⟩⟩
        exact Bool.not_eq_true _ ▸ hNever digits hDecimal hHigh
      obtain ⟨digits, hDecimal, hHigh, hEqual⟩ := hSecond
      refine ⟨[], Or.inl ⟨digits, hDecimal, Nat.zero_le _, hHigh, ?_⟩⟩
      rw [nextCaptureFilename_nil_zero, fileNamePart_plain, numberedName, equalsNoCase_append]
      exact hEqual
    · push Not at hFirst
      obtain ⟨digits, hFollowing, hEqual⟩ := hFirst
      obtain ⟨existingNames, hName⟩ := exists_listing_of_following cf own hFollowing
      refine ⟨existingNames, Or.inr ⟨rfl, ?_⟩⟩
      rw [hName, fileNamePart_decimal own hFollowing.1, numberedName, equalsNoCase_append]
      exact Bool.not_eq_false _ ▸ hEqual

/-- Leaving out the names that other series may have chosen changes nothing
exactly when the series are apart. -/
theorem next_without_others_iff (cf : CaseFold) (other : WString) (hDigits : ndigits ≤ kMaxDigits)
    (others : Set WString) :
    (∀ listing kept : List WString,
      (∀ e, e ∈ kept ↔ e ∈ listing ∧ ¬ ∃ own ∈ others, ∃ existingNames, equalsNoCase cf e
        (fileNamePart (nextCaptureFilename cf own ndigits existingNames)) = true) →
      nextCaptureFilename cf other ndigits kept = nextCaptureFilename cf other ndigits listing) ↔
      ∀ own ∈ others, NamesApart cf ndigits (fileNamePart own) (fileNamePart other) := by
  constructor
  · intro hSame own hOwn
    by_contra hMeet
    obtain ⟨existingNames, hCounts⟩ := exists_counts_of_not_apart hDigits hMeet
    -- A directory that holds this name only.
    have hAlone := hSame [fileNamePart (nextCaptureFilename cf own ndigits existingNames)] [] (by
      intro e
      constructor
      · intro he
        cases he
      · rintro ⟨he, hOther⟩
        rw [List.mem_singleton.mp he] at hOther
        exact absurd ⟨own, hOwn, existingNames, equalsNoCase_refl cf _⟩ hOther)
    exact nextCaptureFilename_single_ne hCounts hAlone.symm
  · intro hApart listing kept hKept
    apply nextCaptureFilename_of_counts hDigits
    intro e hCounts
    rw [hKept]
    constructor
    · intro he
      exact he.1
    · intro he
      refine ⟨he, ?_⟩
      rintro ⟨own, hOwn, existingNames, hChosen⟩
      exact not_counts_of_apart hDigits (hApart own hOwn) hChosen hCounts

end Apart

end WinDV
