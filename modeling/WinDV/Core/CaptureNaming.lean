import WinDV.Core.WideString

/-! Choosing the next free capture filename. The loop over the directory
listing is a fold of one step per name; what the fold has found is stated over
the listing as a whole, not over the order it came in. -/
namespace WinDV

/-- `kExtension`. -/
def kExtension : WString := wide ".avi"

/-- `kMaxDigits`: keeps the parsed number inside an int. -/
def kMaxDigits : Nat := 9

/-- `FileNamePart`. -/
def fileNamePart (path : WString) : WString :=
  match findLastOf isSeparator path with
  | none => path
  | some pos => path.drop (pos + 1)

/-- `IsDecimal`. -/
def isDecimal (s : WString) : Bool := !s.isEmpty && s.all isDigit

/-- `std::stoi` on a decimal string. -/
def stoi (digits : WString) : Nat := Decimal.value (digits.map digitValue)

/-- `CaptureStem`. -/
def captureStem (base date : WString) : WString :=
  if date.isEmpty then base else base ++ wide "." ++ date

/-- `CaptureSearchPattern`. -/
def captureSearchPattern (stem : WString) : WString := stem ++ wide "*" ++ kExtension

/-- The digits of a name of the form "name." + digits + ".avi", as the checks
of the loop body isolate them. -/
def candidateDigits (cf : CaseFold) (name candidate : WString) : Option WString :=
  if candidate.length ≤ name.length + 1 + kExtension.length then none
  else if !equalsNoCase cf (candidate.take name.length) name ||
      candidate[name.length]? != some (wchar '.') then none
  else if !equalsNoCase cf (candidate.drop (candidate.length - kExtension.length)) kExtension then
    none
  else
    let digits := (candidate.drop (name.length + 1)).take
      (candidate.length - name.length - 1 - kExtension.length)
    if isDecimal digits then some digits else none

/-- The three variables the loop updates. -/
structure Search where
  width : Nat
  highest : Int := -1
  plainExists : Bool := false
  deriving DecidableEq, Repr

/-- The loop body of `NextCaptureFilename`. -/
def Search.visit (cf : CaseFold) (name : WString) (found : Search) (existing : WString) : Search :=
  if equalsNoCase cf existing (name ++ kExtension) then { found with plainExists := true }
  else
    match candidateDigits cf name existing with
    | none => found
    | some digits =>
        if kMaxDigits < digits.length ∨ digits.length < found.width then found
        else if found.width < digits.length then
          -- A wider number is always a later one, so restart the search there.
          { found with width := digits.length, highest := stoi digits }
        else { found with highest := max found.highest (stoi digits) }

/-- The loop. -/
def search (cf : CaseFold) (name : WString) (width : Nat) (existingNames : List WString) : Search :=
  existingNames.foldl (Search.visit cf name) { width := width }

/-- `swprintf_s(number, L".%0*d", width, n)` for a non-negative `n`. -/
def numberSuffix (width n : Nat) : WString := wide "." ++ (Decimal.padded width n).map digitChar

/-- `NextCaptureFilename`. -/
def nextCaptureFilename (cf : CaseFold) (stem : WString) (ndigits : Int)
    (existingNames : List WString) : WString :=
  let found := search cf (fileNamePart stem) (max ndigits 0).toNat existingNames
  if found.width = 0 then
    stem ++ (if found.plainExists then wide ".0" else []) ++ kExtension
  else stem ++ numberSuffix found.width (found.highest + 1).toNat ++ kExtension

/-- `CaptureBaseFromFilename`. -/
def captureBaseFromFilename (file : WString) : WString :=
  let nameStart := match findLastOf isSeparator file with
    | none => 0
    | some separator => separator + 1
  match (file.drop nameStart).findIdx? (· == wchar '.') with
  | none => file
  | some dot => file.take (nameStart + dot)

/-- The name "name." + digits + ".avi". -/
def numberedName (name digits : WString) : WString := name ++ wide "." ++ digits ++ kExtension

@[simp] theorem kExtension_length : kExtension.length = 4 := by decide

@[simp] theorem wide_dot : wide "." = [wchar '.'] := by decide

theorem numberedName_length (name digits : WString) :
    (numberedName name digits).length = name.length + 1 + digits.length + 4 := by
  simp [numberedName]
  omega

theorem isDecimal_iff (s : WString) : isDecimal s = true ↔ s ≠ [] ∧ ∀ c ∈ s, isDigit c = true := by
  simp [isDecimal]

/-- A suffix of the file name stays behind the directory. -/
theorem fileNamePart_append (stem : WString) {suffix : WString}
    (h : ∀ c ∈ suffix, isSeparator c = false) :
    fileNamePart (stem ++ suffix) = fileNamePart stem ++ suffix := by
  unfold fileNamePart
  rw [findLastOf_append stem h]
  cases hPos : findLastOf isSeparator stem with
  | none => rfl
  | some pos =>
      have := findLastOf_lt hPos
      exact List.drop_append_of_le_length (by omega)

/-- Cut a long enough candidate where the loop cuts it. -/
theorem exists_cut {candidate : WString} {n k : Nat} (h : n + 1 + k ≤ candidate.length) :
    ∃ front dot middle back, candidate = front ++ dot :: (middle ++ back) ∧
      front.length = n ∧ back.length = k := by
  have hDot : n < candidate.length := by omega
  refine ⟨candidate.take n, candidate[n], (candidate.drop (n + 1)).take (candidate.length - n - 1 - k),
    candidate.drop (candidate.length - k), ?_, by simp; omega, by simp; omega⟩
  have hBack : candidate.drop (candidate.length - k) =
      (candidate.drop (n + 1)).drop (candidate.length - n - 1 - k) := by
    rw [List.drop_drop]
    congr 1
    omega
  rw [hBack, List.take_append_drop, ← List.drop_eq_getElem_cons hDot, List.take_append_drop]

section Cut

variable (cf : CaseFold) {name front middle back : WString} {dot : WChar}

/-- The checks, on the pieces of a cut candidate. -/
theorem candidateDigits_cut (hFront : front.length = name.length) (hBack : back.length = 4) :
    candidateDigits cf name (front ++ dot :: (middle ++ back)) =
      if equalsNoCase cf front name = true ∧ dot = wchar '.' ∧
          equalsNoCase cf back kExtension = true ∧ isDecimal middle = true then some middle
      else none := by
  have hLength : (front ++ dot :: (middle ++ back)).length = name.length + 1 + middle.length + 4 := by
    simp only [List.length_append, List.length_cons, hFront, hBack]
    omega
  have hTake : (front ++ dot :: (middle ++ back)).take name.length = front := by
    rw [← hFront, List.take_left']
    rfl
  have hGet : (front ++ dot :: (middle ++ back))[name.length]? = some dot := by
    rw [← hFront]
    simp
  have hDrop : (front ++ dot :: (middle ++ back)).drop (name.length + 1) = middle ++ back := by
    rw [← hFront, ← List.drop_drop, List.drop_left']
    · rfl
    · rfl
  have hMiddle : (middle ++ back).take (name.length + 1 + middle.length + 4 - name.length - 1 - 4) =
      middle := by
    rw [List.take_left']
    omega
  have hEnd : (front ++ dot :: (middle ++ back)).drop (name.length + 1 + middle.length + 4 - 4) =
      back := by
    rw [show name.length + 1 + middle.length + 4 - 4 = name.length + 1 + middle.length by omega,
      ← List.drop_drop, hDrop, List.drop_left']
    rfl
  unfold candidateDigits
  rw [kExtension_length, hLength, hTake, hGet, hDrop, hMiddle, hEnd]
  cases middle with
  | nil => simp [isDecimal]
  | cons c rest =>
      rw [if_neg (by simp only [List.length_cons]; omega)]
      cases equalsNoCase cf front name <;> cases equalsNoCase cf back kExtension <;>
        by_cases hDot : dot = wchar '.' <;> simp [hDot]

/-- The same cut on the comparison with a numbered name. -/
theorem equalsNoCase_cut {digits : WString} (hFront : front.length = name.length)
    (hBack : back.length = 4) :
    equalsNoCase cf (front ++ dot :: (middle ++ back)) (numberedName name digits) = true ↔
      equalsNoCase cf front name = true ∧ cf.fold dot = cf.fold (wchar '.') ∧
        middle.map cf.fold = digits.map cf.fold ∧ equalsNoCase cf back kExtension = true := by
  simp only [equalsNoCase_iff, numberedName, wide_dot, List.append_assoc, List.map_append,
    List.map_cons, List.singleton_append]
  constructor
  · intro h
    obtain ⟨hName, hRest⟩ := List.append_inj h (by simpa using hFront)
    obtain ⟨hDot, hRest⟩ := List.cons.inj hRest
    have hLength : back.length = kExtension.length := by simpa using hBack
    obtain ⟨hMiddle, hBack⟩ := List.append_inj' hRest (by simpa using hLength)
    exact ⟨hName, hDot, hMiddle, hBack⟩
  · rintro ⟨hName, hDot, hMiddle, hBack⟩
    rw [hName, hDot, hMiddle, hBack]
    rfl

end Cut

/-- The checks of the loop accept exactly the names that are, ignoring case,
"name." + digits + ".avi". -/
theorem candidateDigits_iff (cf : CaseFold) (name candidate digits : WString) :
    candidateDigits cf name candidate = some digits ↔
      isDecimal digits = true ∧ equalsNoCase cf candidate (numberedName name digits) = true := by
  by_cases hLong : name.length + 1 + 4 ≤ candidate.length
  · obtain ⟨front, dot, middle, back, rfl, hFront, hBack⟩ := exists_cut hLong
    rw [candidateDigits_cut cf hFront hBack, equalsNoCase_cut cf hFront hBack]
    constructor
    · intro h
      split_ifs at h with hChecks
      obtain rfl : middle = digits := Option.some.inj h
      exact ⟨hChecks.2.2.2, hChecks.1, by rw [hChecks.2.1], rfl, hChecks.2.2.1⟩
    · rintro ⟨hDecimal, hName, hDot, hMiddle, hExtension⟩
      have hDigits := ((isDecimal_iff digits).mp hDecimal).2
      obtain rfl : middle = digits := cf.eq_of_fold_digits hDigits hMiddle
      rw [if_pos ⟨hName, cf.eq_of_fold_other cf.dot_other hDot, hExtension, hDecimal⟩]
  · have hNone : candidateDigits cf name candidate = none := by
      unfold candidateDigits
      rw [kExtension_length, if_pos (by omega)]
    rw [hNone]
    constructor
    · rintro ⟨⟩
    · rintro ⟨_, hEqual⟩
      have hLength := equalsNoCase_length hEqual
      rw [numberedName_length] at hLength
      omega

/-- What the loop has found, over the names it has seen. The width is the one
it started with or that of a numbered name, no numbered name it counts is
wider, and `highest` is the largest number of that width. -/
structure Search.Describes (cf : CaseFold) (name : WString) (width : Nat) (seen : List WString)
    (found : Search) : Prop where
  width_ge : width ≤ found.width
  width_attained : found.width = width ∨
    ∃ e ∈ seen, ∃ digits, candidateDigits cf name e = some digits ∧ digits.length = found.width
  width_le : found.width ≤ max width kMaxDigits
  covers : ∀ e ∈ seen, ∀ digits, candidateDigits cf name e = some digits →
    digits.length ≤ kMaxDigits → digits.length ≤ found.width ∧
      (digits.length = found.width → (stoi digits : Int) ≤ found.highest)
  attained : found.highest = -1 ∨ ∃ e ∈ seen, ∃ digits, candidateDigits cf name e = some digits ∧
    digits.length = found.width ∧ found.highest = stoi digits
  plain : found.plainExists = true ↔ ∃ e ∈ seen, equalsNoCase cf e (name ++ kExtension) = true

/-- A plain name is no numbered name: it is too short. -/
theorem candidateDigits_plain {cf : CaseFold} {name candidate : WString}
    (h : equalsNoCase cf candidate (name ++ kExtension) = true) :
    candidateDigits cf name candidate = none := by
  have hLength := equalsNoCase_length h
  rw [List.length_append] at hLength
  unfold candidateDigits
  rw [if_pos (by omega)]

theorem Search.Describes.start (cf : CaseFold) (name : WString) (width : Nat) :
    Search.Describes cf name width [] { width := width } where
  width_ge := Nat.le_refl _
  width_attained := Or.inl rfl
  width_le := Nat.le_max_left _ _
  covers := by simp
  attained := Or.inl rfl
  plain := by simp

section Visit

variable {cf : CaseFold} {name : WString} {width : Nat} {seen : List WString} {found : Search}

/-- A name that changes neither width nor highest number keeps the
description if it is no numbered name that counts. -/
theorem Search.Describes.skip (h : Search.Describes cf name width seen found) (e : WString)
    (hSkip : ∀ digits, candidateDigits cf name e = some digits → digits.length ≤ kMaxDigits →
      digits.length < found.width ∨
        digits.length = found.width ∧ (stoi digits : Int) ≤ found.highest)
    (plain : Bool) (hPlain : plain = true ↔ found.plainExists = true ∨
      equalsNoCase cf e (name ++ kExtension) = true) :
    Search.Describes cf name width (seen ++ [e]) { found with plainExists := plain } where
  width_ge := h.width_ge
  width_attained := by
    rcases h.width_attained with hSame | ⟨d, hd, rest⟩
    · exact Or.inl hSame
    · exact Or.inr ⟨d, List.mem_append_left _ hd, rest⟩
  width_le := h.width_le
  covers := by
    intro d hd digits hDigits hBound
    rcases List.mem_append.mp hd with hd | hd
    · exact h.covers d hd digits hDigits hBound
    · rw [List.mem_singleton.mp hd] at hDigits
      rcases hSkip digits hDigits hBound with hNarrow | ⟨hWidth, hNumber⟩
      · exact ⟨hNarrow.le, fun hWidth => absurd hWidth hNarrow.ne⟩
      · exact ⟨hWidth.le, fun _ => hNumber⟩
  attained := by
    rcases h.attained with hNone | ⟨d, hd, rest⟩
    · exact Or.inl hNone
    · exact Or.inr ⟨d, List.mem_append_left _ hd, rest⟩
  plain := by
    simp only [List.mem_append, List.mem_singleton]
    rw [hPlain, h.plain]
    constructor
    · rintro (⟨d, hd, hEqual⟩ | hEqual)
      · exact ⟨d, Or.inl hd, hEqual⟩
      · exact ⟨e, Or.inr rfl, hEqual⟩
    · rintro ⟨d, hd | rfl, hEqual⟩
      · exact Or.inl ⟨d, hd, hEqual⟩
      · exact Or.inr hEqual

/-- A counted number at least as wide as the current one, taken over as the
new width and highest number. -/
theorem Search.Describes.take (h : Search.Describes cf name width seen found) {e digits : WString}
    (hDigits : candidateDigits cf name e = some digits) (hBound : digits.length ≤ kMaxDigits)
    (hWide : found.width ≤ digits.length)
    (hHigher : found.width = digits.length → found.highest ≤ stoi digits)
    (hPlain : equalsNoCase cf e (name ++ kExtension) = false) :
    Search.Describes cf name width (seen ++ [e])
      { found with width := digits.length, highest := stoi digits } where
  width_ge := h.width_ge.trans hWide
  width_attained := Or.inr ⟨e, by simp, digits, hDigits, rfl⟩
  width_le := hBound.trans (Nat.le_max_right _ _)
  covers := by
    intro d hd other hOther hOtherBound
    rcases List.mem_append.mp hd with hd | hd
    · obtain ⟨hLe, hNumber⟩ := h.covers d hd other hOther hOtherBound
      refine ⟨hLe.trans hWide, fun hLength => ?_⟩
      have hSame : found.width = digits.length := by
        simp only at hLength
        omega
      have := hNumber (hLength.trans hSame.symm)
      have := hHigher hSame
      simp only
      omega
    · rw [List.mem_singleton.mp hd, hDigits] at hOther
      obtain rfl := Option.some.inj hOther
      exact ⟨Nat.le_refl _, fun _ => le_refl _⟩
  attained := Or.inr ⟨e, by simp, digits, hDigits, rfl, rfl⟩
  plain := by
    simp only [List.mem_append, List.mem_singleton]
    rw [h.plain]
    constructor
    · rintro ⟨d, hd, hEqual⟩
      exact ⟨d, Or.inl hd, hEqual⟩
    · rintro ⟨d, hd | rfl, hEqual⟩
      · exact ⟨d, hd, hEqual⟩
      · rw [hPlain] at hEqual
        cases hEqual

theorem Search.Describes.visit (h : Search.Describes cf name width seen found) (e : WString) :
    Search.Describes cf name width (seen ++ [e]) (Search.visit cf name found e) := by
  unfold Search.visit
  cases hPlain : equalsNoCase cf e (name ++ kExtension) with
  | true =>
      refine h.skip e (fun digits hDigits => ?_) true (by simp [hPlain])
      rw [candidateDigits_plain hPlain] at hDigits
      cases hDigits
  | false =>
      have hSame : found.plainExists = true ↔ found.plainExists = true ∨
          equalsNoCase cf e (name ++ kExtension) = true := by simp [hPlain]
      cases hDigits : candidateDigits cf name e with
      | none => exact h.skip e (by simp [hDigits]) _ hSame
      | some digits =>
          simp only [Bool.false_eq_true, if_false]
          split_ifs with hIgnored hWider
          · refine h.skip e (fun other hOther hBound => Or.inl ?_) _ hSame
            rw [hDigits] at hOther
            obtain rfl := Option.some.inj hOther
            omega
          · exact h.take hDigits (by omega) (by omega) (by omega) hPlain
          · have hWidth : found.width = digits.length := by omega
            rcases le_total found.highest (stoi digits : Int) with hLe | hLe
            · rw [max_eq_right hLe]
              have hTake := h.take hDigits (by omega) (by omega) (fun _ => hLe) hPlain
              rwa [← hWidth] at hTake
            · rw [max_eq_left hLe]
              refine h.skip e (fun other hOther _ => Or.inr ?_) _ hSame
              rw [hDigits] at hOther
              obtain rfl := Option.some.inj hOther
              exact ⟨hWidth.symm, hLe⟩

end Visit

/-- The loop over a whole listing, in whatever order it comes. -/
theorem search_describes (cf : CaseFold) (name : WString) (width : Nat)
    (existingNames : List WString) :
    Search.Describes cf name width existingNames (search cf name width existingNames) := by
  have hFold : ∀ (rest seen : List WString) (found : Search),
      Search.Describes cf name width seen found →
      Search.Describes cf name width (seen ++ rest) (rest.foldl (Search.visit cf name) found) := by
    intro rest
    induction rest with
    | nil =>
        intro seen found h
        simpa using h
    | cons e rest ih =>
        intro seen found h
        simpa using ih (seen ++ [e]) _ (h.visit e)
  simpa [search] using hFold existingNames [] _ (Search.Describes.start cf name width)

/-- The chosen name, by what the loop has found. -/
theorem nextCaptureFilename_of_found (cf : CaseFold) (stem : WString) (ndigits : Nat)
    (existingNames : List WString) :
    nextCaptureFilename cf stem ndigits existingNames =
      if (search cf (fileNamePart stem) ndigits existingNames).width = 0 then
        stem ++ (if (search cf (fileNamePart stem) ndigits existingNames).plainExists then wide ".0" else []) ++
          kExtension
      else
        stem ++ numberSuffix (search cf (fileNamePart stem) ndigits existingNames).width
          ((search cf (fileNamePart stem) ndigits existingNames).highest + 1).toNat ++ kExtension := by
  have hNat : (max (ndigits : Int) 0).toNat = ndigits := by omega
  rw [nextCaptureFilename, hNat]

end WinDV
