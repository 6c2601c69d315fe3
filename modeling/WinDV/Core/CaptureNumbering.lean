import WinDV.Core.CaptureSeries

/-! What the chosen number follows, and what it depends on. The loop looks for
the highest number among the widest names only; it is a function of the set of
names of the series. -/
namespace WinDV

/-- No counted number is higher than all those written with the most digits. -/
def WidestHighest (counted : Set WString) : Prop :=
  ∀ digits ∈ counted, ∃ widest ∈ counted,
    (∀ other ∈ counted, other.length ≤ widest.length) ∧ stoi digits ≤ stoi widest

section Numbering

variable {cf : CaseFold} {name : WString} {ndigits : Nat} {seen : List WString} {found : Search}

/-- The loop's number is above every counted one exactly when the widest names
hold the highest of them. -/
theorem Search.Describes.above_iff (h : Search.Describes cf name ndigits seen found)
    (hDigits : ndigits ≤ kMaxDigits) :
    (∀ digits ∈ countedDigits cf name ndigits seen, (stoi digits : Int) < found.highest + 1) ↔
      WidestHighest (countedDigits cf name ndigits seen) := by
  have hGreatest := h.width_greatest hDigits
  have hBound : ∀ other ∈ countedDigits cf name ndigits seen, other.length ≤ found.width :=
    fun other hOther => hGreatest.2 (Set.mem_insert_of_mem _ (Set.mem_image_of_mem _ hOther))
  constructor
  · intro hAbove digits hCounted
    have hNumber := hAbove digits hCounted
    rcases h.highest_attained hDigits with hNone | ⟨widest, hWidest, hLength, hHighest⟩
    · omega
    · refine ⟨widest, hWidest, ?_, by omega⟩
      rw [hLength]
      exact hBound
  · intro hHighest digits hCounted
    obtain ⟨widest, hWidest, hMost, hLe⟩ := hHighest digits hCounted
    have hLength : widest.length = found.width := by
      apply le_antisymm (hBound widest hWidest)
      -- The loop's width is the one asked for or that of a counted name.
      rcases hGreatest.1 with hAsked | ⟨other, hOther, hSame⟩
      · rw [hAsked]
        exact (mem_countedDigits.mp hWidest).1
      · rw [← hSame]
        exact hMost other hOther
    have := h.le_highest hWidest hLength
    omega

/-- Without a width there is no number. -/
theorem Search.Describes.none_of_width_zero (h : Search.Describes cf name ndigits seen found)
    (hDigits : ndigits ≤ kMaxDigits) (hZero : found.width = 0) {digits : WString} :
    digits ∉ countedDigits cf name ndigits seen := by
  intro hCounted
  have hLength : digits.length ≤ found.width :=
    (h.width_greatest hDigits).2 (Set.mem_insert_of_mem _ (Set.mem_image_of_mem _ hCounted))
  have hNil : digits = [] := List.eq_nil_of_length_eq_zero (by omega)
  exact ((isDecimal_iff digits).mp hCounted.1).1 hNil

end Numbering

/-- Only one number makes a numbered name. -/
theorem numbered_inj {stem first second : WString}
    (h : stem ++ wide "." ++ first ++ kExtension = stem ++ wide "." ++ second ++ kExtension) :
    first = second := by
  simpa using h

/-- The numbering continues after the highest number exactly when the widest
names hold it. -/
theorem nextCaptureFilename_follows_iff (cf : CaseFold) (stem : WString) {ndigits : Nat}
    (hDigits : ndigits ≤ 4) (existingNames : List WString) :
    (∀ number, isDecimal number = true →
      nextCaptureFilename cf stem ndigits existingNames = stem ++ wide "." ++ number ++ kExtension →
      ∀ digits ∈ countedDigits cf (fileNamePart stem) ndigits existingNames,
        stoi digits < stoi number) ↔
      WidestHighest (countedDigits cf (fileNamePart stem) ndigits existingNames) := by
  have hMax : ndigits ≤ kMaxDigits := hDigits.trans (by decide)
  have hDescribes := search_describes cf (fileNamePart stem) ndigits existingNames
  rw [nextCaptureFilename_of_found]
  generalize search cf (fileNamePart stem) ndigits existingNames = found at hDescribes ⊢
  by_cases hZero : found.width = 0
  · constructor
    · intro _ digits hCounted
      exact absurd hCounted (hDescribes.none_of_width_zero hMax hZero)
    · intro _ number _ _ digits hCounted
      exact absurd hCounted (hDescribes.none_of_width_zero hMax hZero)
  · have hNonneg := hDescribes.highest_ge
    have hName : stem ++ numberSuffix found.width (found.highest + 1).toNat ++ kExtension =
        stem ++ wide "." ++ numberDigits found.width (found.highest + 1).toNat ++ kExtension := by
      simp only [numberSuffix, numberDigits, List.append_assoc]
    rw [if_neg hZero, hName, ← hDescribes.above_iff hMax]
    constructor
    · intro hFollows digits hCounted
      have hLt := hFollows _ (isDecimal_numberDigits _ _) rfl digits hCounted
      rw [stoi_numberDigits] at hLt
      omega
    · intro hAbove number _ hSame digits hCounted
      have hLt := hAbove digits hCounted
      rw [← numbered_inj hSame, stoi_numberDigits]
      omega

/-- Names with one, three and four digits. -/
theorem nextCaptureFilename_follows_four :
    let names := [wide "tape.7.avi", wide "tape.0013.avi", wide "tape.012.avi"]
    nextCaptureFilename CaseFold.ascii (wide "tape") (1 : Nat) names = wide "tape.0014.avi" ∧
      ((∀ number, isDecimal number = true →
        nextCaptureFilename CaseFold.ascii (wide "tape") (1 : Nat) names =
          wide "tape" ++ wide "." ++ number ++ kExtension →
        ∀ digits ∈ countedDigits CaseFold.ascii (fileNamePart (wide "tape")) 1 names,
          stoi digits < stoi number) ↔
        WidestHighest (countedDigits CaseFold.ascii (fileNamePart (wide "tape")) 1 names)) := by
  intro names
  exact ⟨by decide, nextCaptureFilename_follows_iff CaseFold.ascii (wide "tape") (by decide) names⟩

/-- With one digit again, after two captures with four, the number after 9 is 2. -/
theorem nextCaptureFilename_before_nine :
    ¬ ∀ (cf : CaseFold) (stem : WString) (ndigits : Nat), ndigits ≤ 4 →
      ∀ (existingNames : List WString) (number : WString), isDecimal number = true →
        nextCaptureFilename cf stem ndigits existingNames =
          stem ++ wide "." ++ number ++ kExtension →
        ∀ digits ∈ countedDigits cf (fileNamePart stem) ndigits existingNames,
          stoi digits < stoi number := by
  intro hFollows
  have hNine : wide "9" ∈ countedDigits CaseFold.ascii (fileNamePart (wide "tape")) 1
      [wide "tape.0000.avi", wide "tape.0001.avi", wide "tape.9.avi"] :=
    ⟨by decide, by decide, by decide, by decide⟩
  have hLt := hFollows CaseFold.ascii (wide "tape") 1 (by decide)
    [wide "tape.0000.avi", wide "tape.0001.avi", wide "tape.9.avi"] (wide "0002")
    (by decide) (by decide) _ hNine
  exact absurd hLt (by decide)

section Bounds

variable {cf : CaseFold} {name : WString} {ndigits : Nat} {seen : List WString} {found : Search}

/-- The number written is at most the one after nine nines. -/
theorem Search.Describes.next_le (h : Search.Describes cf name ndigits seen found)
    (hDigits : ndigits ≤ kMaxDigits) : found.highest + 1 ≤ 10 ^ 9 := by
  have hLt := h.highest_lt
  have hPow : (10 : Int) ^ found.width ≤ 10 ^ 9 :=
    pow_le_pow_right₀ (by decide) (h.width_counted hDigits)
  omega

/-- The suffix has room in the buffer, with its final zero. -/
theorem numberSuffix_length_le {width n : Nat} (hWidth : width ≤ kMaxDigits) (h : n ≤ 10 ^ 9) :
    (numberSuffix width n).length ≤ 11 := by
  have hShort : (Decimal.shortest n).length ≤ 10 :=
    Decimal.shortest_length_le (by decide) (by omega)
  have hNine : width ≤ 9 := hWidth
  rw [numberSuffix, List.length_append, List.length_map, Decimal.padded_length]
  have hDot : (wide ".").length = 1 := by decide
  omega

end Bounds

/-- The chosen name is that of the series, its number fits the int and its
suffix the buffer of 32 characters. It stays the same for another listing of
the same names, and for the matches of the search pattern only. -/
theorem nextCaptureFilename_of_set (cf : CaseFold) (stem : WString) {ndigits : Nat}
    (hDigits : ndigits ≤ 4) (existingNames : List WString) :
    let counted := countedDigits cf (fileNamePart stem) ndigits existingNames
    let width := seriesWidth ndigits counted
    let next := seriesHighest counted width + 1
    nextCaptureFilename cf stem ndigits existingNames =
        nextOfSeries stem ndigits counted
          (Listed cf existingNames (fileNamePart stem ++ kExtension)) ∧
      (0 ≤ next ∧ next < 2 ^ 31) ∧ (numberSuffix width next.toNat).length + 1 ≤ 32 ∧
      (∀ other, (∀ e, e ∈ other ↔ e ∈ existingNames) →
        nextCaptureFilename cf stem ndigits other =
          nextCaptureFilename cf stem ndigits existingNames) ∧
      (∀ matching, (∀ c ∈ fileNamePart stem, c ≠ wchar '*' ∧ c ≠ wchar '?') →
        FindsMatches cf (captureSearchPattern stem) existingNames matching →
        nextCaptureFilename cf stem ndigits matching =
          nextCaptureFilename cf stem ndigits existingNames) := by
  intro counted width next
  have hMax : ndigits ≤ kMaxDigits := hDigits.trans (by decide)
  have hDescribes := search_describes cf (fileNamePart stem) ndigits existingNames
  have hWidth : (search cf (fileNamePart stem) ndigits existingNames).width = width :=
    hDescribes.width_eq hMax
  have hNext : (search cf (fileNamePart stem) ndigits existingNames).highest + 1 = next := by
    rw [hDescribes.highest_eq hMax, hWidth]
  have hLe : next ≤ 10 ^ 9 := hNext ▸ hDescribes.next_le hMax
  have hGe : 0 ≤ next := by
    have := hDescribes.highest_ge
    omega
  refine ⟨nextCaptureFilename_eq cf stem hMax existingNames, ⟨hGe, by omega⟩, ?_, ?_, ?_⟩
  · have hNarrow : width ≤ kMaxDigits := hWidth ▸ hDescribes.width_counted hMax
    have := numberSuffix_length_le hNarrow (show next.toNat ≤ 10 ^ 9 by omega)
    omega
  · intro other hSame
    have hListed : ∀ file, Listed cf other file ↔ Listed cf existingNames file := by
      intro file
      simp only [Listed, hSame]
    exact nextCaptureFilename_congr hMax (fun digits _ _ _ => hListed _) fun _ => hListed _
  · intro matching hPlain hFinds
    have hStar : ∀ c ∈ fileNamePart stem, c ≠ wchar '*' := fun c hc => (hPlain c hc).1
    apply nextCaptureFilename_congr hMax
    · intro digits _ _ _
      rw [numberedName, List.append_assoc (fileNamePart stem)]
      exact hFinds.listed_iff hStar
    · intro _
      have hListed : Listed cf matching (fileNamePart stem ++ [] ++ kExtension) ↔
          Listed cf existingNames (fileNamePart stem ++ [] ++ kExtension) := hFinds.listed_iff hStar
      rwa [List.append_nil] at hListed

/-- A capture, and a file beside it that the search pattern leaves out. -/
theorem nextCaptureFilename_of_matches :
    2 ≤ 4 ∧ nextCaptureFilename CaseFold.ascii (wide "tape") (2 : Nat) [wide "tape.07.avi"] =
      nextCaptureFilename CaseFold.ascii (wide "tape") (2 : Nat)
        [wide "log.txt", wide "tape.07.avi"] := by
  have hMatch : FindsMatches CaseFold.ascii (captureSearchPattern (wide "tape"))
      [wide "log.txt", wide "tape.07.avi"] [wide "tape.07.avi"] :=
    ⟨by decide, by decide +kernel⟩
  obtain ⟨-, -, -, -, hSame⟩ := nextCaptureFilename_of_set CaseFold.ascii (wide "tape")
    (show 2 ≤ 4 by decide) [wide "log.txt", wide "tape.07.avi"]
  exact ⟨by decide, hSame _ (no_wildcard_of_all rfl) hMatch⟩

end WinDV
