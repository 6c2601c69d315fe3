import WinDV.Core.CaptureNaming

/-! Whether the chosen name is free. It is, unless the numbers have run out:
the loop counts numbers of at most nine digits, and the number after the last
of these is written with ten. -/
namespace WinDV

/-- The digits `swprintf_s` writes. -/
def numberDigits (width n : Nat) : WString := (Decimal.padded width n).map digitChar

theorem numberDigits_length (width n : Nat) :
    (numberDigits width n).length = max width (Decimal.shortest n).length := by
  rw [numberDigits, List.length_map, Decimal.padded_length]

/-- A number that fits the width is written with so many digits. -/
theorem numberDigits_length_of_lt {width n : Nat} (hPos : 0 < width) (h : n < 10 ^ width) :
    (numberDigits width n).length = width := by
  rw [numberDigits_length]
  exact max_eq_left (Decimal.shortest_length_le hPos h)

theorem isDecimal_numberDigits (width n : Nat) : isDecimal (numberDigits width n) = true := by
  rw [isDecimal_iff]
  constructor
  · intro hNil
    have hLength := congrArg List.length hNil
    have := Decimal.shortest_pos n
    rw [numberDigits_length, List.length_nil] at hLength
    omega
  · intro c hc
    obtain ⟨d, hd, rfl⟩ := List.mem_map.mp hc
    exact isDigit_digitChar (Decimal.padded_lt width n hd)

theorem stoi_numberDigits (width n : Nat) : stoi (numberDigits width n) = n := by
  have hMap : (numberDigits width n).map digitValue = Decimal.padded width n := by
    rw [numberDigits, List.map_map]
    refine (List.map_congr_left fun d hd => ?_).trans (List.map_id _)
    exact digitValue_digitChar (Decimal.padded_lt width n hd)
  rw [stoi, hMap, Decimal.value_padded]

theorem digitValues_lt {digits : WString} (h : isDecimal digits = true) :
    ∀ d ∈ digits.map digitValue, d < 10 := by
  intro d hd
  obtain ⟨c, hc, rfl⟩ := List.mem_map.mp hd
  exact digitValue_lt (((isDecimal_iff digits).mp h).2 c hc)

theorem stoi_lt {digits : WString} (h : isDecimal digits = true) :
    stoi digits < 10 ^ digits.length := by
  have hLt := Decimal.value_lt (digitValues_lt h)
  rwa [List.length_map] at hLt

/-- Decimal strings of one length that name one number are the same string. -/
theorem stoi_injective {first second : WString} (hFirst : isDecimal first = true)
    (hSecond : isDecimal second = true) (hLength : first.length = second.length)
    (h : stoi first = stoi second) : first = second := by
  have hValues : first.map digitValue = second.map digitValue :=
    Decimal.value_injective (by simpa using hLength) (digitValues_lt hFirst) (digitValues_lt hSecond) h
  have hBack : ∀ {digits : WString}, isDecimal digits = true →
      (digits.map digitValue).map digitChar = digits := by
    intro digits hDigits
    rw [List.map_map]
    refine (List.map_congr_left fun c hc => ?_).trans (List.map_id _)
    exact digitChar_digitValue (((isDecimal_iff digits).mp hDigits).2 c hc)
  rw [← hBack hFirst, hValues, hBack hSecond]

/-- The last number the loop counts, and the one after it. -/
def lastCounted : WString := wide "999999999"

def afterLastCounted : WString := wide "1000000000"

theorem isDecimal_lastCounted : isDecimal lastCounted = true := by decide

theorem stoi_lastCounted : stoi lastCounted = 10 ^ 9 - 1 := by decide

theorem numberDigits_afterLastCounted : numberDigits 9 (10 ^ 9) = afterLastCounted := by decide

/-- A listing holds the name, up to case. -/
def Listed (cf : CaseFold) (existingNames : List WString) (file : WString) : Prop :=
  ∃ e ∈ existingNames, equalsNoCase cf e file = true

instance (cf : CaseFold) (existingNames : List WString) (file : WString) :
    Decidable (Listed cf existingNames file) :=
  inferInstanceAs (Decidable (∃ e ∈ existingNames, _))

/-- Being listed under a number is being counted by the loop's checks. -/
theorem listed_numberedName {cf : CaseFold} {existingNames : List WString} {name digits : WString}
    (hDigits : isDecimal digits = true) :
    Listed cf existingNames (numberedName name digits) ↔
      ∃ e ∈ existingNames, candidateDigits cf name e = some digits := by
  simp only [Listed, candidateDigits_iff, hDigits, true_and]

/-- Every number the loop could still count is used up. -/
def NumbersRunOut (cf : CaseFold) (name : WString) (existingNames : List WString) : Prop :=
  Listed cf existingNames (numberedName name lastCounted) ∧
    Listed cf existingNames (numberedName name afterLastCounted)

section Chosen

variable {cf : CaseFold} {name : WString} {width : Nat} {seen : List WString} {found : Search}

/-- The width stays one whose numbers are counted. -/
theorem Search.Describes.width_counted (h : Search.Describes cf name width seen found)
    (hWidth : width ≤ kMaxDigits) : found.width ≤ kMaxDigits := by
  have hMax := h.width_le
  rwa [max_eq_right hWidth] at hMax

theorem Search.Describes.highest_lt (h : Search.Describes cf name width seen found) :
    found.highest < 10 ^ found.width := by
  rcases h.attained with hNone | ⟨e, _, digits, hDigits, hLength, hHighest⟩
  · rw [hNone]
    have : (0 : Int) < 10 ^ found.width := by positivity
    omega
  · have hLt := stoi_lt ((candidateDigits_iff cf name e digits).mp hDigits).1
    rw [hHighest, ← hLength]
    exact_mod_cast hLt

theorem Search.Describes.highest_ge (h : Search.Describes cf name width seen found) :
    -1 ≤ found.highest := by
  rcases h.attained with hNone | ⟨_, _, _, _, _, hHighest⟩ <;> omega

/-- The last counted name in the listing decides what the loop ends with. -/
theorem Search.Describes.last (h : Search.Describes cf name width seen found)
    (hWidth : width ≤ kMaxDigits) :
    Listed cf seen (numberedName name lastCounted) ↔
      found.width = 9 ∧ found.highest = 10 ^ 9 - 1 := by
  rw [listed_numberedName isDecimal_lastCounted]
  have hLe : found.width ≤ 9 := h.width_counted hWidth
  constructor
  · rintro ⟨e, he, hDigits⟩
    obtain ⟨hGe, hNumber⟩ := h.covers e he lastCounted hDigits (by decide)
    have hNine : found.width = 9 := le_antisymm hLe hGe
    have hHighest := hNumber hNine.symm
    have hLt := h.highest_lt
    rw [hNine] at hLt
    rw [stoi_lastCounted] at hHighest
    exact ⟨hNine, by push_cast at hHighest; omega⟩
  · rintro ⟨hNine, hHighest⟩
    rcases h.attained with hNone | ⟨e, he, digits, hDigits, hLength, hStoi⟩
    · omega
    · have hDecimal := ((candidateDigits_iff cf name e digits).mp hDigits).1
      have hEqual : stoi digits = stoi lastCounted := by
        rw [stoi_lastCounted]
        omega
      have hSame : digits = lastCounted :=
        stoi_injective hDecimal isDecimal_lastCounted (hLength.trans hNine) hEqual
      exact ⟨e, he, hSame ▸ hDigits⟩

/-- The number after the highest one is not listed, except past the last
number the loop counts. -/
theorem Search.Describes.next_listed (h : Search.Describes cf name width seen found)
    (hWidth : width ≤ kMaxDigits) (hPos : 0 < found.width) :
    Listed cf seen (numberedName name (numberDigits found.width (found.highest + 1).toNat)) ↔
      NumbersRunOut cf name seen := by
  have hGe := h.highest_ge
  obtain ⟨n, hn⟩ : ∃ n : Nat, found.highest + 1 = n := ⟨_, (Int.toNat_of_nonneg (by omega)).symm⟩
  rw [hn, Int.toNat_natCast]
  by_cases hLast : found.width = 9 ∧ found.highest = 10 ^ 9 - 1
  · obtain rfl : n = 10 ^ 9 := by omega
    rw [hLast.1, numberDigits_afterLastCounted, NumbersRunOut, h.last hWidth]
    simp [hLast]
  · have hFree : ¬ Listed cf seen (numberedName name (numberDigits found.width n)) := by
      rw [listed_numberedName (isDecimal_numberDigits _ _)]
      rintro ⟨e, he, hDigits⟩
      have hLength := numberDigits_length found.width n
      have hLe : found.width ≤ 9 := h.width_counted hWidth
      -- Nine digits hold the next number unless the highest one is the last counted.
      have hShort : (Decimal.shortest n).length ≤ 9 := by
        apply Decimal.shortest_length_le (by decide)
        have hLt := h.highest_lt
        have hPow : (10 : Int) ^ found.width ≤ 10 ^ 9 := pow_le_pow_right₀ (by decide) hLe
        by_contra hBig
        have hHighest : found.highest = 10 ^ 9 - 1 := by omega
        refine hLast ⟨le_antisymm hLe ?_, hHighest⟩
        by_contra hNarrow
        have hPow' : (10 : Int) ^ found.width ≤ 10 ^ 8 := pow_le_pow_right₀ (by decide) (by omega)
        omega
      obtain ⟨hNarrow, hNumber⟩ := h.covers e he _ hDigits (by rw [hLength, kMaxDigits]; omega)
      have hCounted := hNumber (by omega)
      rw [stoi_numberDigits] at hCounted
      omega
    constructor
    · intro hListed
      exact absurd hListed hFree
    · intro hRunOut
      exact absurd ((h.last hWidth).mp hRunOut.1) hLast

end Chosen

/-- A separator in a fixed text is found by evaluation. -/
theorem no_separator_of_all {s : WString} (h : (s.all fun c => !isSeparator c) = true) :
    ∀ c ∈ s, isSeparator c = false := by
  intro c hc
  simpa using List.all_eq_true.mp h c hc

theorem kExtension_no_separator : ∀ c ∈ kExtension, isSeparator c = false :=
  no_separator_of_all rfl

/-- A number and the extension hold no separator. -/
theorem decimal_no_separator {digits : WString} (h : isDecimal digits = true) :
    ∀ c ∈ wide "." ++ digits ++ kExtension, isSeparator c = false := by
  intro c hc
  simp only [List.append_assoc, List.mem_append] at hc
  rcases hc with hc | hc | hc
  · exact no_separator_of_all rfl c hc
  · have hDigit := (isDigit_iff c).mp (((isDecimal_iff _).mp h).2 c hc)
    have hBack : (wchar '\\').toNat = 92 := rfl
    have hSlash : (wchar '/').toNat = 47 := rfl
    have hColon : (wchar ':').toNat = 58 := rfl
    simp only [isSeparator, Bool.or_eq_false_iff, beq_eq_false_iff_ne, ne_eq, ← UInt16.toNat_inj,
      hBack, hSlash, hColon]
    omega
  · exact kExtension_no_separator c hc

theorem fileNamePart_decimal (stem : WString) {digits : WString} (h : isDecimal digits = true) :
    fileNamePart (stem ++ wide "." ++ digits ++ kExtension) = numberedName (fileNamePart stem) digits := by
  have hAppend := fileNamePart_append stem (decimal_no_separator h)
  simpa only [numberedName, List.append_assoc] using hAppend

theorem fileNamePart_numbered (stem : WString) (width n : Nat) :
    fileNamePart (stem ++ numberSuffix width n ++ kExtension) =
      numberedName (fileNamePart stem) (numberDigits width n) := by
  have hName := fileNamePart_decimal stem (isDecimal_numberDigits width n)
  simpa only [numberSuffix, numberDigits, List.append_assoc] using hName

theorem fileNamePart_plain (stem : WString) :
    fileNamePart (stem ++ kExtension) = fileNamePart stem ++ kExtension :=
  fileNamePart_append stem kExtension_no_separator

/-- `NextCaptureFilename` picks a free name exactly when the numbers have not
run out. -/
theorem nextCaptureFilename_free_iff (cf : CaseFold) (stem : WString) (ndigits : Int)
    (existingNames : List WString) (hLow : 0 ≤ ndigits) (hHigh : ndigits ≤ 4) :
    (∀ e ∈ existingNames, equalsNoCase cf
        (fileNamePart (nextCaptureFilename cf stem ndigits existingNames)) e = false) ↔
      ¬ (Listed cf existingNames (numberedName (fileNamePart stem) (wide "999999999")) ∧
        Listed cf existingNames (numberedName (fileNamePart stem) (wide "1000000000"))) := by
  have hDescribes := search_describes cf (fileNamePart stem) (max ndigits 0).toNat existingNames
  have hWidth : (max ndigits 0).toNat ≤ kMaxDigits := by
    rw [kMaxDigits]
    omega
  have hListed : (∀ e ∈ existingNames, equalsNoCase cf
        (fileNamePart (nextCaptureFilename cf stem ndigits existingNames)) e = false) ↔
      ¬ Listed cf existingNames (fileNamePart (nextCaptureFilename cf stem ndigits existingNames)) := by
    simp only [Listed, not_exists, not_and, Bool.not_eq_true, equalsNoCase_comm cf]
  rw [hListed]
  refine not_congr ?_
  change _ ↔ NumbersRunOut cf (fileNamePart stem) existingNames
  unfold nextCaptureFilename
  generalize search cf (fileNamePart stem) (max ndigits 0).toNat existingNames = found at hDescribes ⊢
  by_cases hZero : found.width = 0
  · -- No number is counted, so the name without one decides.
    have hNotOut : ¬ NumbersRunOut cf (fileNamePart stem) existingNames := by
      intro hRunOut
      have := ((hDescribes.last hWidth).mp hRunOut.1).1
      omega
    rw [if_pos hZero]
    cases hPlain : found.plainExists with
    | false =>
        rw [if_neg (by simp), List.append_nil, fileNamePart_plain]
        constructor
        · intro hTaken
          rw [hDescribes.plain.mpr hTaken] at hPlain
          cases hPlain
        · intro hRunOut
          exact absurd hRunOut hNotOut
    | true =>
        rw [if_pos rfl]
        change Listed cf _ (fileNamePart (stem ++ numberSuffix 1 0 ++ kExtension)) ↔ _
        rw [fileNamePart_numbered, listed_numberedName (isDecimal_numberDigits 1 0)]
        constructor
        · rintro ⟨e, he, hDigits⟩
          have hCovered := (hDescribes.covers e he _ hDigits (by decide)).1
          rw [hZero] at hCovered
          exact absurd hCovered (by decide)
        · intro hRunOut
          exact absurd hRunOut hNotOut
  · rw [if_neg hZero, fileNamePart_numbered]
    exact hDescribes.next_listed hWidth (Nat.pos_of_ne_zero hZero)

/-- A two-digit listing: the number after 09 is free. -/
theorem nextCaptureFilename_free_after_nine :
    (0 : Int) ≤ 2 ∧ (2 : Int) ≤ 4 ∧ ∀ e ∈ [wide "tape.09.avi", wide "TAPE.avi"],
      equalsNoCase CaseFold.ascii (fileNamePart (nextCaptureFilename CaseFold.ascii
        (wide "c:\\tape") 2 [wide "tape.09.avi", wide "TAPE.avi"])) e = false :=
  ⟨by decide, by decide,
    (nextCaptureFilename_free_iff CaseFold.ascii (wide "c:\\tape") 2
      [wide "tape.09.avi", wide "TAPE.avi"] (by decide) (by decide)).mpr (by decide)⟩

/-- Past the nine digits the chosen name is the one already there. -/
theorem nextCaptureFilename_taken :
    ¬ ∀ (cf : CaseFold) (stem : WString) (ndigits : Int) (existingNames : List WString),
      0 ≤ ndigits → ndigits ≤ 4 → ∀ e ∈ existingNames, equalsNoCase cf
        (fileNamePart (nextCaptureFilename cf stem ndigits existingNames)) e = false := by
  intro hFree
  have hTaken := hFree CaseFold.ascii (wide "tape") 0
    [wide "tape.999999999.avi", wide "tape.1000000000.avi"] (by decide) (by decide)
    (wide "tape.1000000000.avi") (by decide)
  exact absurd hTaken (by decide)

end WinDV
