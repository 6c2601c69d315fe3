import WinDV.Core.CaptureNamingFresh
import Mathlib.Order.ConditionallyCompleteLattice.Basic
import Mathlib.Order.Lattice.Nat

/-! What a listing says about a series of captures. Only the numbers in it count,
as a set, and whether the plain name is taken; the loop that goes through the
names one by one computes a function of these. -/
namespace WinDV

/-- The digit strings of the captures of a series: those a name of the listing
has between the name and the extension, with enough digits and not too many. -/
def countedDigits (cf : CaseFold) (name : WString) (ndigits : Nat) (existingNames : List WString) :
    Set WString :=
  {digits | isDecimal digits = true ∧ ndigits ≤ digits.length ∧ digits.length ≤ kMaxDigits ∧
    Listed cf existingNames (numberedName name digits)}

/-- The most digits any of them has, and at least the digits asked for. -/
noncomputable def seriesWidth (ndigits : Nat) (counted : Set WString) : Nat :=
  sSup (insert ndigits (List.length '' counted))

open Classical in
/-- The highest number of that width, or -1. -/
noncomputable def seriesHighest (counted : Set WString) (width : Nat) : Int :=
  if (∃ digits ∈ counted, digits.length = width) then
    (sSup (stoi '' {digits | digits ∈ counted ∧ digits.length = width}) : Nat)
  else -1

open Classical in
/-- The next name of a series. -/
noncomputable def nextOfSeries (stem : WString) (ndigits : Nat) (counted : Set WString)
    (plainExists : Prop) : WString :=
  let width := seriesWidth ndigits counted
  if width = 0 then
    if plainExists then stem ++ wide ".0" ++ kExtension else stem ++ kExtension
  else stem ++ numberSuffix width (seriesHighest counted width + 1).toNat ++ kExtension

section Series

variable {cf : CaseFold} {name : WString} {ndigits : Nat} {seen : List WString} {found : Search}

theorem mem_countedDigits {digits : WString} :
    digits ∈ countedDigits cf name ndigits seen ↔
      ndigits ≤ digits.length ∧ digits.length ≤ kMaxDigits ∧
        ∃ e ∈ seen, candidateDigits cf name e = some digits := by
  constructor
  · rintro ⟨hDecimal, hLow, hHigh, hListed⟩
    exact ⟨hLow, hHigh, (listed_numberedName hDecimal).mp hListed⟩
  · rintro ⟨hLow, hHigh, e, he, hDigits⟩
    have hDecimal := ((candidateDigits_iff cf name e digits).mp hDigits).1
    exact ⟨hDecimal, hLow, hHigh, (listed_numberedName hDecimal).mpr ⟨e, he, hDigits⟩⟩

/-- A number of the loop's width is one that counts. -/
theorem Search.Describes.counted_of_width (h : Search.Describes cf name ndigits seen found)
    (hDigits : ndigits ≤ kMaxDigits) {e digits : WString} (he : e ∈ seen)
    (hFound : candidateDigits cf name e = some digits) (hLength : digits.length = found.width) :
    digits ∈ countedDigits cf name ndigits seen := by
  have hLow : ndigits ≤ digits.length := hLength ▸ h.width_ge
  have hHigh : digits.length ≤ kMaxDigits := hLength ▸ h.width_counted hDigits
  exact mem_countedDigits.mpr ⟨hLow, hHigh, e, he, hFound⟩

/-- The width the loop ends with. -/
theorem Search.Describes.width_greatest (h : Search.Describes cf name ndigits seen found)
    (hDigits : ndigits ≤ kMaxDigits) :
    IsGreatest (insert ndigits (List.length '' countedDigits cf name ndigits seen)) found.width := by
  constructor
  · rcases h.width_attained with hSame | ⟨e, he, digits, hFound, hLength⟩
    · exact Or.inl hSame
    · exact Or.inr ⟨digits, h.counted_of_width hDigits he hFound hLength, hLength⟩
  · rintro length (rfl | ⟨digits, hCounted, rfl⟩)
    · exact h.width_ge
    · obtain ⟨-, hBound, e, he, hFound⟩ := mem_countedDigits.mp hCounted
      exact (h.covers e he digits hFound hBound).1

theorem Search.Describes.width_eq (h : Search.Describes cf name ndigits seen found)
    (hDigits : ndigits ≤ kMaxDigits) :
    found.width = seriesWidth ndigits (countedDigits cf name ndigits seen) :=
  (h.width_greatest hDigits).csSup_eq.symm

/-- The numbers of the loop's width are at most the highest one. -/
theorem Search.Describes.le_highest (h : Search.Describes cf name ndigits seen found) {digits : WString}
    (hCounted : digits ∈ countedDigits cf name ndigits seen) (hLength : digits.length = found.width) :
    (stoi digits : Int) ≤ found.highest := by
  obtain ⟨-, hBound, e, he, hFound⟩ := mem_countedDigits.mp hCounted
  exact (h.covers e he digits hFound hBound).2 hLength

/-- The highest number is one of that width, unless there is none. -/
theorem Search.Describes.highest_attained (h : Search.Describes cf name ndigits seen found)
    (hDigits : ndigits ≤ kMaxDigits) :
    found.highest = -1 ∨ ∃ digits ∈ countedDigits cf name ndigits seen,
      digits.length = found.width ∧ found.highest = stoi digits := by
  rcases h.attained with hNone | ⟨e, he, digits, hFound, hLength, hHighest⟩
  · exact Or.inl hNone
  · exact Or.inr ⟨digits, h.counted_of_width hDigits he hFound hLength, hLength, hHighest⟩

theorem Search.Describes.highest_eq (h : Search.Describes cf name ndigits seen found)
    (hDigits : ndigits ≤ kMaxDigits) :
    found.highest = seriesHighest (countedDigits cf name ndigits seen) found.width := by
  rw [seriesHighest]
  split_ifs with hSome
  · obtain ⟨digits, hCounted, hLength⟩ := hSome
    have hGreatest : IsGreatest
        (stoi '' {digits | digits ∈ countedDigits cf name ndigits seen ∧ digits.length = found.width})
        found.highest.toNat := by
      constructor
      · rcases h.highest_attained hDigits with hNone | ⟨best, hBest, hBestLength, hHighest⟩
        · have := h.le_highest hCounted hLength
          omega
        · exact ⟨best, ⟨hBest, hBestLength⟩, by rw [hHighest, Int.toNat_natCast]⟩
      · rintro number ⟨other, ⟨hOther, hOtherLength⟩, rfl⟩
        have := h.le_highest hOther hOtherLength
        omega
    have := h.le_highest hCounted hLength
    rw [hGreatest.csSup_eq, Int.toNat_of_nonneg (by omega)]
  · rcases h.highest_attained hDigits with hNone | ⟨best, hBest, hBestLength, -⟩
    · exact hNone
    · exact absurd ⟨best, hBest, hBestLength⟩ hSome

end Series

/-- The loop computes the next name of the series. -/
theorem nextCaptureFilename_eq (cf : CaseFold) (stem : WString) {ndigits : Nat}
    (hDigits : ndigits ≤ kMaxDigits) (existingNames : List WString) :
    nextCaptureFilename cf stem ndigits existingNames =
      nextOfSeries stem ndigits (countedDigits cf (fileNamePart stem) ndigits existingNames)
        (Listed cf existingNames (fileNamePart stem ++ kExtension)) := by
  have hDescribes := search_describes cf (fileNamePart stem) ndigits existingNames
  rw [nextCaptureFilename_of_found, nextOfSeries]
  generalize search cf (fileNamePart stem) ndigits existingNames = found at hDescribes ⊢
  rw [← hDescribes.width_eq hDigits, ← hDescribes.highest_eq hDigits]
  by_cases hZero : found.width = 0
  · simp only [hZero, if_true]
    by_cases hPlain : found.plainExists = true
    · have hListed : Listed cf existingNames (fileNamePart stem ++ kExtension) :=
        hDescribes.plain.mp hPlain
      rw [if_pos hPlain, if_pos hListed]
    · have hFree : ¬ Listed cf existingNames (fileNamePart stem ++ kExtension) :=
        fun hListed => hPlain (hDescribes.plain.mpr hListed)
      rw [if_neg hPlain, if_neg hFree, List.append_nil]
  · simp only [hZero, if_false]

section Listings

variable {cf : CaseFold} {stem : WString} {ndigits : Nat} {first second : List WString}

/-- Two listings that agree on the names of the series give the same name. -/
theorem nextCaptureFilename_congr (hDigits : ndigits ≤ kMaxDigits)
    (hNumbered : ∀ digits, isDecimal digits = true → ndigits ≤ digits.length →
      digits.length ≤ kMaxDigits →
      (Listed cf first (numberedName (fileNamePart stem) digits) ↔
        Listed cf second (numberedName (fileNamePart stem) digits)))
    (hPlain : ndigits = 0 → (Listed cf first (fileNamePart stem ++ kExtension) ↔
      Listed cf second (fileNamePart stem ++ kExtension))) :
    nextCaptureFilename cf stem ndigits first = nextCaptureFilename cf stem ndigits second := by
  have hCounted : countedDigits cf (fileNamePart stem) ndigits first =
      countedDigits cf (fileNamePart stem) ndigits second := by
    ext digits
    constructor
    · rintro ⟨hDecimal, hLow, hHigh, hListed⟩
      exact ⟨hDecimal, hLow, hHigh, (hNumbered digits hDecimal hLow hHigh).mp hListed⟩
    · rintro ⟨hDecimal, hLow, hHigh, hListed⟩
      exact ⟨hDecimal, hLow, hHigh, (hNumbered digits hDecimal hLow hHigh).mpr hListed⟩
  rw [nextCaptureFilename_eq cf stem hDigits, nextCaptureFilename_eq cf stem hDigits, hCounted]
  by_cases hZero : ndigits = 0
  · rw [propext (hPlain hZero)]
  · -- With digits asked for, the plain name is not looked at.
    have hWidth : seriesWidth ndigits (countedDigits cf (fileNamePart stem) ndigits second) ≠ 0 := by
      have hDescribes := search_describes cf (fileNamePart stem) ndigits second
      rw [← hDescribes.width_eq hDigits]
      have := hDescribes.width_ge
      omega
    simp only [nextOfSeries, hWidth, if_false]

end Listings

/-- A pattern with the wildcards of `FindFirstFile`, matched ignoring case. -/
def wildMatch (cf : CaseFold) : WString → WString → Bool
  | [], text => text.isEmpty
  | c :: pattern, text =>
      if c = wchar '*' then text.tails.any (wildMatch cf pattern)
      else
        match text with
        | [] => false
        | d :: rest => (c == wchar '?' || cf.fold c == cf.fold d) && wildMatch cf pattern rest

theorem wildMatch_cons (cf : CaseFold) {c : WChar} (pattern : WString) (hPlain : c ≠ wchar '*')
    (d : WChar) (rest : WString) : wildMatch cf (c :: pattern) (d :: rest) =
      ((c == wchar '?' || cf.fold c == cf.fold d) && wildMatch cf pattern rest) := by
  conv_lhs => unfold wildMatch
  rw [if_neg hPlain]

theorem wildMatch_star (cf : CaseFold) (pattern text : WString) :
    wildMatch cf (wchar '*' :: pattern) text = text.tails.any (wildMatch cf pattern) := by
  conv_lhs => unfold wildMatch
  rw [if_pos rfl]

/-- What `FindFiles` may return for a pattern: names of the directory, with all
but `.` and `..` that match. The file system may match more than this. -/
structure FindsMatches (cf : CaseFold) (pattern : WString) (directory found : List WString) : Prop where
  listed : ∀ e ∈ found, e ∈ directory
  complete : ∀ e ∈ directory, e ≠ wide "." → e ≠ wide ".." →
    wildMatch cf (fileNamePart pattern) e = true → e ∈ found

section Search

variable {cf : CaseFold} {stem : WString}

/-- A text without wildcards matches what it equals, and the rest is up to the
rest of the pattern. -/
theorem wildMatch_append {text front : WString} (pattern rest : WString)
    (hPlain : ∀ c ∈ text, c ≠ wchar '*') (h : front.map cf.fold = text.map cf.fold)
    (hRest : wildMatch cf pattern rest = true) : wildMatch cf (text ++ pattern) (front ++ rest) = true := by
  induction text generalizing front with
  | nil =>
      obtain rfl : front = [] := by simpa using h
      exact hRest
  | cons c tail ih =>
      cases front with
      | nil => simp at h
      | cons d others =>
          rw [List.map_cons, List.map_cons] at h
          obtain ⟨hFirst, hOthers⟩ := List.cons.inj h
          have hTail := ih (fun e he => hPlain e (List.mem_cons_of_mem _ he)) hOthers
          rw [List.cons_append, List.cons_append,
            wildMatch_cons cf _ (hPlain c List.mem_cons_self)]
          simp [hFirst, hTail]

theorem wildMatch_star_append (pattern front rest : WString)
    (hRest : wildMatch cf pattern rest = true) :
    wildMatch cf (wchar '*' :: pattern) (front ++ rest) = true := by
  rw [wildMatch_star, List.any_eq_true]
  exact ⟨rest, by simp, hRest⟩

/-- A wildcard in a fixed text is found by evaluation. -/
theorem no_wildcard_of_all {s : WString} (h : (s.all fun c => c != wchar '*' && c != wchar '?') = true) :
    ∀ c ∈ s, c ≠ wchar '*' ∧ c ≠ wchar '?' := by
  intro c hc
  simpa using List.all_eq_true.mp h c hc

/-- Every name of the series matches the search pattern. -/
theorem wildMatch_searchPattern {e middle : WString} (hPlain : ∀ c ∈ fileNamePart stem, c ≠ wchar '*')
    (h : equalsNoCase cf e (fileNamePart stem ++ middle ++ kExtension) = true) :
    wildMatch cf (fileNamePart (captureSearchPattern stem)) e = true := by
  have hPattern : fileNamePart (captureSearchPattern stem) =
      fileNamePart stem ++ wchar '*' :: kExtension := by
    have hTail : ∀ c ∈ wide "*" ++ kExtension, isSeparator c = false := no_separator_of_all rfl
    rw [captureSearchPattern, List.append_assoc, fileNamePart_append stem hTail]
    rfl
  rw [equalsNoCase_iff, List.map_append, List.map_append] at h
  obtain ⟨front, rest, rfl, hFront, hRest⟩ := List.map_eq_append_iff.mp h
  obtain ⟨name, between, rfl, hName, -⟩ := List.map_eq_append_iff.mp hFront
  rw [hPattern, List.append_assoc]
  apply wildMatch_append _ _ hPlain hName
  apply wildMatch_star_append
  have hEmpty : wildMatch cf [] [] = true := rfl
  have hDot : ∀ c ∈ kExtension, c ≠ wchar '*' := fun c hc => (no_wildcard_of_all rfl c hc).1
  simpa using wildMatch_append [] [] hDot hRest hEmpty

/-- Listing the matches only or the whole directory makes no difference to the
names of a series. -/
theorem FindsMatches.listed_iff {directory found : List WString} {middle : WString}
    (h : FindsMatches cf (captureSearchPattern stem) directory found)
    (hPlain : ∀ c ∈ fileNamePart stem, c ≠ wchar '*') :
    Listed cf found (fileNamePart stem ++ middle ++ kExtension) ↔
      Listed cf directory (fileNamePart stem ++ middle ++ kExtension) := by
  constructor
  · rintro ⟨e, he, hEqual⟩
    exact ⟨e, h.listed e he, hEqual⟩
  · rintro ⟨e, he, hEqual⟩
    have hLength := equalsNoCase_length hEqual
    rw [List.length_append, List.length_append, kExtension_length] at hLength
    refine ⟨e, h.complete e he ?_ ?_ (wildMatch_searchPattern hPlain hEqual), hEqual⟩
    · rintro rfl
      have : (wide ".").length = 1 := by decide
      omega
    · rintro rfl
      have : (wide "..").length = 2 := by decide
      omega

end Search

end WinDV
