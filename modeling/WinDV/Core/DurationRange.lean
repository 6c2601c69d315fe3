import WinDV.Core.Duration

/-! The numbers `ParseDuration` goes through. The parse is written once more in
numbers without a limit, with a record of every value an `int64` is asked to
hold. -/
namespace WinDV

/-- The values a computation has gone through, and its result if it has one. -/
structure Traced where
  steps : List Nat
  result : Option Nat
  deriving DecidableEq, Repr

namespace Traced

/-- The same with values in front. -/
def after (earlier : List Nat) (traced : Traced) : Traced :=
  { traced with steps := earlier ++ traced.steps }

/-- Go on with the result. -/
def andThen (traced : Traced) (next : Nat → Traced) : Traced :=
  match traced.result with
  | none => traced
  | some value => (next value).after traced.steps

/-- Every value is below the bound. -/
def Below (bound : Nat) (traced : Traced) : Prop :=
  (∀ value ∈ traced.steps, value < bound) ∧ ∀ value, traced.result = some value → value < bound

theorem Below.after {bound : Nat} {traced : Traced} {earlier : List Nat} (h : traced.Below bound)
    (hEarlier : ∀ value ∈ earlier, value < bound) : (traced.after earlier).Below bound := by
  constructor
  · intro value hValue
    rcases List.mem_append.mp hValue with hFront | hRest
    · exact hEarlier value hFront
    · exact h.1 value hRest
  · exact h.2

theorem Below.andThen {bound : Nat} {traced : Traced} {next : Nat → Traced} (h : traced.Below bound)
    (hNext : ∀ value, traced.result = some value → (next value).Below bound) :
    (traced.andThen next).Below bound := by
  rw [Traced.andThen]
  split
  · exact h
  · rename_i value hValue
    exact (hNext value hValue).after h.1

theorem Below.mono {less more : Nat} {traced : Traced} (h : traced.Below less) (hLess : less ≤ more) :
    traced.Below more :=
  ⟨fun value hValue => lt_of_lt_of_le (h.1 value hValue) hLess,
    fun value hValue => lt_of_lt_of_le (h.2 value hValue) hLess⟩

end Traced

/-- The loop of `ParseField`. -/
def tracedDigits (value : Nat) : WString → Traced
  | [] => ⟨[], some value⟩
  | c :: rest =>
      if isDigit c then
        (tracedDigits (value * 10 + digitValue c) rest).after [value * 10, value * 10 + digitValue c]
      else ⟨[], none⟩

/-- `ParseField`. -/
def tracedField (text : WString) : Traced :=
  if text.isEmpty || kMaxFieldDigits < text.length then ⟨[], none⟩ else tracedDigits 0 text

/-- The loop over the fraction. -/
def tracedFraction (fraction weight : Nat) : WString → Traced
  | [] => ⟨[], some fraction⟩
  | c :: rest =>
      if isDigit c then
        (tracedFraction (fraction + weight * digitValue c) (weight / 10) rest).after
          [weight * digitValue c, fraction + weight * digitValue c, weight / 10]
      else ⟨[], none⟩

/-- The loop over the fields, with so many fields left. One field too many is
still read. -/
def tracedFields (left seconds : Nat) (text : WString) : Traced :=
  (tracedField (match text.findIdx? (· == wchar ':') with
    | some i => text.take i
    | none => text)).andThen fun field =>
      match left with
      | 0 => ⟨[], none⟩
      | left + 1 =>
          Traced.after [seconds * 60, seconds * 60 + field]
            (match text.findIdx? (· == wchar ':') with
            | none => ⟨[], some (seconds * 60 + field)⟩
            | some i => tracedFields left (seconds * 60 + field) (text.drop (i + 1)))

/-- The end of `ParseDuration`. -/
def tracedUnits (fraction seconds : Nat) : Traced :=
  ⟨[seconds * 10000000, seconds * 10000000 + fraction], some (seconds * 10000000 + fraction)⟩

/-- `ParseDuration`. -/
def tracedDuration (text : WString) : Traced :=
  match text.findIdx? (· == wchar '.') with
  | none => (tracedFields 3 0 text).andThen (tracedUnits 0)
  | some dot =>
      (tracedFraction 0 (10000000 / 10) (text.drop (dot + 1))).andThen fun fraction =>
        (tracedFields 3 0 (text.take dot)).andThen (tracedUnits fraction)

namespace Traced

@[simp] theorem after_result (earlier : List Nat) (traced : Traced) :
    (traced.after earlier).result = traced.result := rfl

@[simp] theorem andThen_result (traced : Traced) (next : Nat → Traced) :
    (traced.andThen next).result = traced.result.bind fun value => (next value).result := by
  rw [andThen]
  split <;> simp_all

end Traced

theorem tracedDigits_below {bound : Nat} (text : WString) (value : Nat)
    (h : (value + 1) * 10 ^ text.length ≤ bound) : (tracedDigits value text).Below bound := by
  induction text generalizing value with
  | nil =>
      rw [List.length_nil, pow_zero, Nat.mul_one] at h
      exact ⟨by simp [tracedDigits], by simp [tracedDigits]; omega⟩
  | cons c rest ih =>
      rw [tracedDigits]
      split_ifs with hDigit
      · have hLess := digitValue_lt hDigit
        have hNext : (value * 10 + digitValue c + 1) * 10 ^ rest.length ≤ bound := by
          calc (value * 10 + digitValue c + 1) * 10 ^ rest.length
              ≤ ((value + 1) * 10) * 10 ^ rest.length := Nat.mul_le_mul_right _ (by omega)
            _ = (value + 1) * 10 ^ (rest.length + 1) := by ring
            _ ≤ bound := h
        have hPow : 1 ≤ 10 ^ rest.length := Nat.one_le_pow _ _ (by decide)
        have hValue : value * 10 + digitValue c + 1 ≤ bound :=
          le_trans (Nat.le_mul_of_pos_right _ hPow) hNext
        apply (ih _ hNext).after
        intro step hStep
        simp only [List.mem_cons, List.not_mem_nil, or_false] at hStep
        omega
      · exact ⟨by simp, by simp⟩

theorem tracedField_below (text : WString) : (tracedField text).Below (10 ^ 9) := by
  rw [tracedField]
  split_ifs with hSize
  · exact ⟨by simp, by simp⟩
  · rw [Bool.or_eq_true, decide_eq_true_eq, not_or, Nat.not_lt] at hSize
    apply tracedDigits_below
    rw [Nat.zero_add, Nat.one_mul]
    exact Nat.pow_le_pow_right (by decide) hSize.2

/-- Each digit counts less than a tenth of what is still to come. -/
theorem tracedFraction_below {bound : Nat} (text : WString) (fraction weight : Nat)
    (h : fraction + weight * 10 < bound) : (tracedFraction fraction weight text).Below bound := by
  induction text generalizing fraction weight with
  | nil => exact ⟨by simp [tracedFraction], by simp [tracedFraction]; omega⟩
  | cons c rest ih =>
      rw [tracedFraction]
      split_ifs with hDigit
      · have hLess : weight * digitValue c ≤ weight * 9 :=
          Nat.mul_le_mul_left _ (Nat.le_of_lt_succ (digitValue_lt hDigit))
        apply (ih _ _ (by omega)).after
        intro step hStep
        simp only [List.mem_cons, List.not_mem_nil, or_false] at hStep
        omega
      · exact ⟨by simp, by simp⟩

theorem tracedFields_below {limit : Nat} (hLimit : 10 ^ 9 ≤ limit) (left seconds : Nat) (text : WString) :
    (tracedFields left seconds text).Below ((seconds + limit) * 60 ^ left) := by
  induction left generalizing seconds text with
  | zero =>
      rw [tracedFields, pow_zero, Nat.mul_one]
      apply ((tracedField_below _).mono (by omega)).andThen
      intro field _
      exact ⟨by simp, by simp⟩
  | succ left ih =>
      have hNext : ∀ field, field < limit →
          (seconds * 60 + field + limit) * 60 ^ left ≤ (seconds + limit) * 60 ^ (left + 1) := by
        intro field hField
        rw [pow_succ', ← Nat.mul_assoc]
        exact Nat.mul_le_mul_right _ (by omega)
      have hHere : ∀ field, field < limit →
          seconds * 60 + field + limit ≤ (seconds + limit) * 60 ^ (left + 1) := by
        intro field hField
        exact le_trans (Nat.le_mul_of_pos_right _ (Nat.pow_pos (by decide))) (hNext field hField)
      have hField := (tracedField_below
        (match text.findIdx? (· == wchar ':') with
        | some i => text.take i
        | none => text)).mono hLimit
      have hPositive : 0 < limit := lt_of_lt_of_le (by decide) hLimit
      have hAbove := hHere 0 hPositive
      rw [tracedFields]
      apply (hField.mono (by omega)).andThen
      intro field hResult
      have hLess := hField.2 field hResult
      have hSum := hHere field hLess
      apply Traced.Below.after
      · split
        · exact ⟨by simp, by simp; omega⟩
        · exact (ih _ _).mono (hNext field hLess)
      · intro step hStep
        simp only [List.mem_cons, List.not_mem_nil, or_false] at hStep
        omega

/-- The loop of `ParseField` over digits, and with another character among them. -/
theorem tracedDigits_digits {text : WString} (hDigits : ∀ c ∈ text, isDigit c = true) (start : Nat) :
    (tracedDigits start text).result =
      some ((text.map digitValue).foldl (fun read d => read * 10 + d) start) := by
  induction text generalizing start with
  | nil => rfl
  | cons c rest ih =>
      rw [List.forall_mem_cons] at hDigits
      rw [tracedDigits, if_pos hDigits.1, Traced.after_result, ih hDigits.2]
      rfl

theorem tracedDigits_other {text : WString} (hOther : ∃ c ∈ text, isDigit c ≠ true) (start : Nat) :
    (tracedDigits start text).result = none := by
  induction text generalizing start with
  | nil => simp at hOther
  | cons c rest ih =>
      rw [tracedDigits]
      split_ifs with hDigit
      · rw [List.exists_mem_cons_iff, or_iff_right (not_not.mpr hDigit)] at hOther
        exact ih hOther _
      · rfl

theorem tracedField_result (text : WString) :
    parseField text = (tracedField text).result.map Int64.ofNat := by
  by_cases hField : IsField text
  · rw [parseField_of_isField hField, tracedField, if_neg hField.size, tracedDigits_digits hField.digits,
      Decimal.foldl_value]
    simp [decimal]
  · rw [parseField_of_not hField, tracedField]
    split_ifs with hSize
    · rfl
    · rw [fieldSize_iff, not_not] at hSize
      rw [tracedDigits_other]
      · rfl
      · by_contra hAll
        push Not at hAll
        exact hField ⟨hSize.1, hSize.2, hAll⟩

/-- The loop over the fraction, likewise. -/
theorem tracedFraction_digits {digits : WString} (hDigits : ∀ c ∈ digits, isDigit c = true)
    (fraction weight : Nat) : (tracedFraction fraction weight digits).result =
      some ((digits.map digitValue).foldl (fun (read : Nat × Nat) d =>
        (read.1 + read.2 * d, read.2 / 10)) (fraction, weight)).1 := by
  induction digits generalizing fraction weight with
  | nil => rfl
  | cons c rest ih =>
      rw [List.forall_mem_cons] at hDigits
      rw [tracedFraction, if_pos hDigits.1, Traced.after_result, ih hDigits.2]
      rfl

theorem tracedFraction_other {digits : WString} (hOther : ∃ c ∈ digits, isDigit c ≠ true)
    (fraction weight : Nat) : (tracedFraction fraction weight digits).result = none := by
  induction digits generalizing fraction weight with
  | nil => simp at hOther
  | cons c rest ih =>
      rw [tracedFraction]
      split_ifs with hDigit
      · rw [List.exists_mem_cons_iff, or_iff_right (not_not.mpr hDigit)] at hOther
        exact ih hOther _ _
      · rfl

theorem tracedFraction_result (text : WString) :
    parseFraction text = (tracedFraction 0 (10000000 / 10) text).result.map Int64.ofNat := by
  by_cases hDigits : ∀ c ∈ text, isDigit c = true
  · have hValue := Decimal.foldl_weight (map_digitValue_lt hDigits) 7 0
    rw [Nat.zero_add] at hValue
    rw [parseFraction_of_digits hDigits, tracedFraction_digits hDigits, Option.map_some]
    exact congrArg (some ∘ Int64.ofNat) hValue.symm
  · rw [parseFraction_of_not hDigits, tracedFraction_other]
    · rfl
    · push Not at hDigits
      exact hDigits

theorem tracedFields_result {left : Nat} (hLeft : left ≤ 3) (seconds : Nat) (text : WString) :
    parseFields (3 - left) (Int64.ofNat seconds) text =
      (tracedFields left seconds text).result.map Int64.ofNat := by
  induction left generalizing seconds text with
  | zero =>
      rw [parseFields_many (by decide), tracedFields, Traced.andThen_result]
      cases (tracedField _).result <;> rfl
  | succ left ih =>
      have hFew : 3 - (left + 1) < 3 := by omega
      have hCount : 3 - (left + 1) + 1 = 3 - left := by omega
      have hNext : ∀ field : Nat,
          Int64.ofNat seconds * 60 + Int64.ofNat field = Int64.ofNat (seconds * 60 + field) :=
        fun field => ofNat_step seconds 60 field
      rw [tracedFields, Traced.andThen_result]
      by_cases hColon : wchar ':' ∈ text
      · obtain ⟨front, rest, rfl, hFront⟩ := List.eq_append_cons_of_mem hColon
        rw [parseFields_cons hFront hFew, find_append hFront, tracedField_result]
        simp only [List.take_left', drop_cut, Traced.after_result, hCount]
        cases (tracedField front).result with
        | none => rfl
        | some field =>
            rw [Option.map_some, Option.bind_some, Option.bind_some, hNext]
            exact ih (by omega) _ _
      · rw [parseFields_last hColon hFew, find_none hColon, tracedField_result]
        simp only [Traced.after_result]
        cases (tracedField text).result with
        | none => rfl
        | some field => exact congrArg some (hNext field)

theorem DurationField.value_lt (field : DurationField) : field.value < 10 ^ 9 := by
  apply lt_of_lt_of_le (Decimal.value_lt (map_digitValue_lt field.isField.digits))
  rw [List.length_map]
  exact Nat.pow_le_pow_right (by decide) field.isField.short

/-- The clock of a duration is worth less than two hundred million million seconds. -/
theorem DurationClock.inSeconds_lt (clock : DurationClock) : clock.inSeconds < 10 ^ 9 * 60 ^ 3 := by
  cases clock with
  | seconds s =>
      have hs := s.value_lt
      rw [inSeconds]
      omega
  | minutes m s =>
      have hm := m.value_lt
      have hs := s.value_lt
      rw [inSeconds]
      omega
  | hours h m s =>
      have hh := h.value_lt
      have hm := m.value_lt
      have hs := s.value_lt
      rw [inSeconds]
      omega

theorem ofNat_injective {first second : Nat} (hFirst : first < 2 ^ 63) (hSecond : second < 2 ^ 63)
    (h : Int64.ofNat first = Int64.ofNat second) : first = second := by
  have hInt := congrArg Int64.toInt h
  rw [Int64.toInt_ofNat_of_lt hFirst, Int64.toInt_ofNat_of_lt hSecond] at hInt
  exact_mod_cast hInt

theorem tracedFields_text (clock : DurationClock) :
    (tracedFields 3 0 clock.text).result = some clock.inSeconds := by
  have hBelow := tracedFields_below (le_refl (10 ^ 9)) 3 0 clock.text
  have hParse := tracedFields_result (le_refl 3) 0 clock.text
  have hStart : parseFields (3 - 3) (Int64.ofNat 0) clock.text = parseFields 0 0 clock.text := rfl
  rw [hStart, clock.parseFields_text] at hParse
  cases hResult : (tracedFields 3 0 clock.text).result with
  | none =>
      rw [hResult] at hParse
      cases hParse
  | some seconds =>
      rw [hResult] at hParse
      have hSeconds := hBelow.2 seconds hResult
      have hClock := clock.inSeconds_lt
      have hSame := ofNat_injective (by omega) (by omega) (Option.some.inj hParse)
      rw [hSame]

theorem tracedFields_some {text : WString} {seconds : Nat} (h : (tracedFields 3 0 text).result = some seconds) :
    ∃ clock : DurationClock, clock.text = text ∧ clock.inSeconds = seconds := by
  have hParse := tracedFields_result (le_refl 3) 0 text
  rw [h] at hParse
  obtain ⟨clock, rfl⟩ := DurationClock.exists_of_parseFields hParse
  rw [tracedFields_text] at h
  exact ⟨clock, rfl, Option.some.inj h⟩

theorem tracedFraction_text {digits : WString} (h : ∀ c ∈ digits, isDigit c = true) :
    (tracedFraction 0 (10000000 / 10) digits).result =
      some (Decimal.truncated 7 (digits.map digitValue)) := by
  have hParse := tracedFraction_result digits
  have hBelow : (tracedFraction 0 (10000000 / 10) digits).Below (2 ^ 63) :=
    tracedFraction_below digits 0 _ (by decide)
  have hLess := Decimal.truncated_lt (map_digitValue_lt h) 7
  rw [parseFraction_of_digits h] at hParse
  cases hResult : (tracedFraction 0 (10000000 / 10) digits).result with
  | none =>
      rw [hResult] at hParse
      cases hParse
  | some fraction =>
      rw [hResult] at hParse
      rw [ofNat_injective (by omega) (hBelow.2 fraction hResult) (Option.some.inj hParse)]

theorem tracedFraction_some {digits : WString} {fraction : Nat}
    (h : (tracedFraction 0 (10000000 / 10) digits).result = some fraction) :
    ∀ c ∈ digits, isDigit c = true := by
  by_contra hDigits
  have hParse := tracedFraction_result digits
  rw [parseFraction_of_not hDigits, h] at hParse
  cases hParse

/-- The parse without a limit is the parse, cut down to 64 bits. -/
theorem tracedDuration_result (text : WString) :
    parseDuration text = (tracedDuration text).result.map Int64.ofNat := by
  have hUnits : ∀ seconds fraction : Nat, Int64.ofNat seconds * kUnitsPerSecond + Int64.ofNat fraction =
      Int64.ofNat (seconds * 10000000 + fraction) :=
    fun seconds fraction => ofNat_step seconds 10000000 fraction
  have hFields : ∀ start : WString, parseFields 0 0 start = (tracedFields 3 0 start).result.map Int64.ofNat :=
    fun start => tracedFields_result (le_refl 3) 0 start
  rw [parseDuration, tracedDuration]
  cases text.findIdx? (· == wchar '.') with
  | none =>
      simp only [Traced.andThen_result, hFields]
      cases (tracedFields 3 0 text).result with
      | none => rfl
      | some seconds => exact congrArg some (hUnits seconds 0)
  | some dot =>
      have hFraction : parseFraction (text.drop (dot + 1)) =
          (tracedFraction 0 (10000000 / 10) (text.drop (dot + 1))).result.map Int64.ofNat :=
        tracedFraction_result _
      simp only [Traced.andThen_result, hFields, hFraction]
      cases (tracedFraction 0 (10000000 / 10) (text.drop (dot + 1))).result with
      | none => rfl
      | some fraction =>
          cases (tracedFields 3 0 (text.take dot)).result with
          | none => rfl
          | some seconds => exact congrArg some (hUnits seconds fraction)

namespace DurationText

/-- Without a limit, the length itself is the result. -/
theorem tracedDuration_text (duration : DurationText) :
    (tracedDuration duration.text).result = some duration.units.toNat := by
  obtain ⟨clock, fraction⟩ := duration
  cases fraction with
  | none =>
      rw [text, List.append_nil, tracedDuration, find_none clock.no_dot]
      simp only [Traced.andThen_result, tracedFields_text, Option.bind_some, tracedUnits, units, fractionUnits]
      congr 1
  | some fraction =>
      rw [text, tracedDuration, find_append clock.no_dot, units, fractionUnits_some]
      simp only [List.take_left', drop_cut, Traced.andThen_result, tracedFraction_text fraction.digits,
        tracedFields_text, Option.bind_some, tracedUnits]
      congr 1

/-- A text has one length. -/
theorem units_of_text {first second : DurationText} (h : first.text = second.text) :
    first.units = second.units := by
  have hFirst := first.tracedDuration_text
  rw [h, second.tracedDuration_text, Option.some.injEq] at hFirst
  have hNonneg := first.units_nonneg
  have hOther := second.units_nonneg
  omega

/-- The length itself is the last value of a parse. -/
theorem units_mem (duration : DurationText) :
    ∃ units ∈ (tracedDuration duration.text).steps, (units : Int) = duration.units := by
  obtain ⟨clock, fraction⟩ := duration
  cases fraction with
  | none =>
      rw [text, List.append_nil, tracedDuration, find_none clock.no_dot]
      refine ⟨clock.inSeconds * 10000000 + 0, ?_, by simp [units, fractionUnits]⟩
      simp [Traced.andThen, tracedFields_text, Traced.after, tracedUnits]
  | some fraction =>
      rw [text, tracedDuration, find_append clock.no_dot]
      refine ⟨clock.inSeconds * 10000000 + Decimal.truncated 7 (fraction.text.map digitValue), ?_, ?_⟩
      · simp [Traced.andThen, tracedFraction_text fraction.digits, tracedFields_text, Traced.after,
          tracedUnits]
      · rw [units, fractionUnits_some]
        push_cast
        rfl

end DurationText

/-- The values of a parse, with a length that fits, all fit. -/
theorem tracedDuration_below {text : WString}
    (h : ∀ duration : DurationText, duration.text = text → duration.units < 2 ^ 63) :
    (tracedDuration text).Below (2 ^ 63) := by
  have hUnits : ∀ seconds fraction : Nat, seconds * 10000000 + fraction < 2 ^ 63 →
      (tracedUnits fraction seconds).Below (2 ^ 63) := by
    intro seconds fraction hSum
    constructor
    · intro value hValue
      simp only [tracedUnits, List.mem_cons, List.not_mem_nil, or_false] at hValue
      omega
    · intro value hValue
      obtain rfl := Option.some.inj hValue
      exact hSum
  have hFields : ∀ start : WString, (tracedFields 3 0 start).Below (2 ^ 63) := fun start =>
    (tracedFields_below (le_refl (10 ^ 9)) 3 0 start).mono (by decide)
  by_cases hDot : wchar '.' ∈ text
  · obtain ⟨front, digits, rfl, hFront⟩ := List.eq_append_cons_of_mem hDot
    rw [tracedDuration, find_append hFront]
    simp only [List.take_left', drop_cut]
    apply (tracedFraction_below digits 0 _ (by decide)).andThen
    intro fraction hFraction
    apply (hFields front).andThen
    intro seconds hSeconds
    obtain ⟨clock, rfl, rfl⟩ := tracedFields_some hSeconds
    have hDigits := tracedFraction_some hFraction
    rw [tracedFraction_text hDigits, Option.some.injEq] at hFraction
    have hLength := h ⟨clock, some ⟨digits, hDigits⟩⟩ rfl
    rw [DurationText.units, DurationText.fractionUnits_some] at hLength
    apply hUnits
    subst hFraction
    exact_mod_cast hLength
  · rw [tracedDuration, find_none hDot]
    apply (hFields text).andThen
    intro seconds hSeconds
    obtain ⟨clock, rfl, rfl⟩ := tracedFields_some hSeconds
    have hLength := h ⟨clock, none⟩ (List.append_nil _)
    apply hUnits
    simp only [DurationText.units, DurationText.fractionUnits] at hLength
    omega

end WinDV
