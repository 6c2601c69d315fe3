import Mathlib.Tactic.Ring
import WinDV.Core.CommandLine

/-! What a duration is worth. The texts `ParseDuration` accepts are written out
as a grammar with their exact values; the parse is compared with the same parse
in numbers without a limit. -/
namespace WinDV

/-- The number a run of digits denotes. -/
def decimal (text : WString) : Nat := Decimal.value (text.map digitValue)

/-- A field of a duration. -/
structure IsField (text : WString) : Prop where
  nonempty : text ≠ []
  short : text.length ≤ kMaxFieldDigits
  digits : ∀ c ∈ text, isDigit c = true

/-- `F`: one to nine decimal digits. -/
structure DurationField where
  text : WString
  isField : IsField text

/-- `D*`: any number of decimal digits. -/
structure DurationFraction where
  text : WString
  digits : ∀ c ∈ text, isDigit c = true

/-- `F(:F)?(:F)?`. -/
inductive DurationClock where
  | seconds (s : DurationField)
  | minutes (m s : DurationField)
  | hours (h m s : DurationField)

/-- A text that is a duration. -/
structure DurationText where
  clock : DurationClock
  fraction : Option DurationFraction

def DurationField.value (field : DurationField) : Nat := decimal field.text

/-- `0.D`. -/
def DurationFraction.value (fraction : DurationFraction) : ℚ :=
  Decimal.fraction (fraction.text.map digitValue)

namespace DurationClock

def text : DurationClock → WString
  | seconds s => s.text
  | minutes m s => m.text ++ wchar ':' :: s.text
  | hours h m s => h.text ++ wchar ':' :: (m.text ++ wchar ':' :: s.text)

/-- The fields in front that are left out are zero. -/
def inSeconds : DurationClock → Nat
  | seconds s => s.value
  | minutes m s => m.value * 60 + s.value
  | hours h m s => h.value * 3600 + m.value * 60 + s.value

end DurationClock

namespace DurationText

def text (duration : DurationText) : WString :=
  duration.clock.text ++
    match duration.fraction with
    | none => []
    | some fraction => wchar '.' :: fraction.text

/-- The fraction in units of 100 ns, rounded down. -/
def fractionUnits (duration : DurationText) : Int :=
  match duration.fraction with
  | none => 0
  | some fraction => ⌊(10000000 : ℚ) * fraction.value⌋

/-- The exact length in units of 100 ns. -/
def units (duration : DurationText) : Int :=
  duration.clock.inSeconds * 10000000 + duration.fractionUnits

end DurationText

/-- One step of a number system, in `int64` and without a limit. -/
theorem ofNat_step (value base digit : Nat) :
    Int64.ofNat value * Int64.ofNat base + Int64.ofNat digit = Int64.ofNat (value * base + digit) := by
  rw [Int64.ofNat_add, Int64.ofNat_mul]

theorem foldl_field (text : WString) (start : Nat) :
    text.foldl (fun value c => value * 10 + Int64.ofNat (digitValue c)) (Int64.ofNat start) =
      Int64.ofNat ((text.map digitValue).foldl (fun read d => read * 10 + d) start) := by
  induction text generalizing start with
  | nil => rfl
  | cons c rest ih =>
      rw [List.foldl_cons, List.map_cons, List.foldl_cons, ← ih, ← ofNat_step]
      rfl

/-- The weight only gets smaller, so that dividing it is exact. -/
theorem foldl_fraction (digits : WString) (sum weight : Nat) (hWeight : weight < 2 ^ 63) :
    (digits.foldl (fun (sum : Int64 × Int64) c =>
      (sum.1 + sum.2 * Int64.ofNat (digitValue c), sum.2 / 10)) (Int64.ofNat sum, Int64.ofNat weight)).1 =
      Int64.ofNat ((digits.map digitValue).foldl (fun (read : Nat × Nat) d =>
        (read.1 + read.2 * d, read.2 / 10)) (sum, weight)).1 := by
  induction digits generalizing sum weight with
  | nil => rfl
  | cons c rest ih =>
      have hNext : weight / 10 < 2 ^ 63 := lt_of_le_of_lt (Nat.div_le_self _ _) hWeight
      rw [List.foldl_cons, List.map_cons, List.foldl_cons, ← ih _ _ hNext, Int64.ofNat_add,
        Int64.ofNat_mul, Int64.ofNat_div hWeight (by decide)]
      rfl

/-- The test of `ParseField` for the length of a field. -/
theorem fieldSize_iff (text : WString) :
    (text.isEmpty || decide (kMaxFieldDigits < text.length)) = true ↔
      ¬ (text ≠ [] ∧ text.length ≤ kMaxFieldDigits) := by
  rw [Bool.or_eq_true, List.isEmpty_iff, decide_eq_true_eq, not_and_or, not_not, Nat.not_le]

theorem IsField.size {text : WString} (h : IsField text) :
    ¬ (text.isEmpty || decide (kMaxFieldDigits < text.length)) = true := by
  rw [fieldSize_iff, not_not]
  exact ⟨h.nonempty, h.short⟩

theorem parseField_of_isField {text : WString} (h : IsField text) :
    parseField text = some (Int64.ofNat (decimal text)) := by
  rw [parseField, if_neg h.size, if_pos (List.all_eq_true.mpr h.digits)]
  have hValue := foldl_field text 0
  rw [Decimal.foldl_value, Nat.zero_mul, Nat.zero_add] at hValue
  exact congrArg some hValue

theorem parseField_of_not {text : WString} (h : ¬ IsField text) : parseField text = none := by
  rw [parseField]
  split_ifs with hSize hDigits
  · rfl
  · rw [fieldSize_iff, not_not] at hSize
    exact absurd ⟨hSize.1, hSize.2, List.all_eq_true.mp hDigits⟩ h
  · rfl

theorem parseFraction_of_digits {digits : WString} (h : ∀ c ∈ digits, isDigit c = true) :
    parseFraction digits = some (Int64.ofNat (Decimal.truncated 7 (digits.map digitValue))) := by
  have hValue := foldl_fraction digits 0 (10 ^ 7 / 10) (by decide)
  rw [Decimal.foldl_weight (map_digitValue_lt h), Nat.zero_add] at hValue
  rw [parseFraction, if_pos (List.all_eq_true.mpr h)]
  exact congrArg some hValue

theorem parseFraction_of_not {digits : WString} (h : ¬ ∀ c ∈ digits, isDigit c = true) :
    parseFraction digits = none :=
  if_neg fun hAll => h (List.all_eq_true.mp hAll)

/-- A field, and the loop over the fields behind it. -/
theorem parseFields_cons {front : WString} (hFront : wchar ':' ∉ front) {fields : Nat} (hFew : fields < 3)
    (seconds : Int64) (rest : WString) :
    parseFields fields seconds (front ++ wchar ':' :: rest) =
      (parseField front).bind fun field => parseFields (fields + 1) (seconds * 60 + field) rest := by
  rw [parseFields, find_append hFront]
  simp only [List.take_left', drop_cut]
  cases parseField front with
  | none => rfl
  | some field => exact dif_neg (by omega)

/-- The last field. -/
theorem parseFields_last {text : WString} (hText : wchar ':' ∉ text) {fields : Nat} (hFew : fields < 3)
    (seconds : Int64) :
    parseFields fields seconds text = (parseField text).map fun field => seconds * 60 + field := by
  rw [parseFields, find_none hText]
  cases parseField text with
  | none => rfl
  | some field => exact dif_neg (by omega)

/-- There are no more than three fields. -/
theorem parseFields_many {fields : Nat} (hMany : 3 ≤ fields) (seconds : Int64) (text : WString) :
    parseFields fields seconds text = none := by
  rw [parseFields]
  split
  · rfl
  · exact dif_pos (by omega)

/-- What the loop takes: a last field, or a field and a colon in front of more. -/
theorem parseFields_cases {fields : Nat} {seconds value : Int64} {text : WString}
    (h : parseFields fields seconds text = some value) :
    fields < 3 ∧ (IsField text ∨ ∃ front rest, text = front ++ wchar ':' :: rest ∧ IsField front ∧
      ∃ more, parseFields (fields + 1) more rest = some value) := by
  have hFew : fields < 3 := by
    by_contra hMany
    rw [parseFields_many (by omega)] at h
    cases h
  refine ⟨hFew, ?_⟩
  by_cases hColon : wchar ':' ∈ text
  · obtain ⟨front, rest, rfl, hFront⟩ := List.eq_append_cons_of_mem hColon
    rw [parseFields_cons hFront hFew] at h
    by_cases hField : IsField front
    · rw [parseField_of_isField hField] at h
      exact Or.inr ⟨front, rest, rfl, hField, _, h⟩
    · rw [parseField_of_not hField] at h
      cases h
  · rw [parseFields_last hColon hFew] at h
    by_cases hField : IsField text
    · exact Or.inl hField
    · rw [parseField_of_not hField] at h
      cases h

theorem IsField.no_colon {text : WString} (h : IsField text) : wchar ':' ∉ text := by
  intro hMem
  cases h.digits _ hMem

theorem IsField.no_dot {text : WString} (h : IsField text) : wchar '.' ∉ text := by
  intro hMem
  cases h.digits _ hMem

namespace DurationClock

/-- Every clock is taken. -/
theorem parseFields_text (clock : DurationClock) :
    parseFields 0 0 clock.text = some (Int64.ofNat clock.inSeconds) := by
  have hMore : ∀ (seconds : Nat) (field : DurationField),
      Int64.ofNat seconds * 60 + Int64.ofNat (decimal field.text) = Int64.ofNat (seconds * 60 + field.value) :=
    fun seconds field => ofNat_step seconds 60 field.value
  have hFirst : ∀ field : DurationField,
      (0 : Int64) * 60 + Int64.ofNat (decimal field.text) = Int64.ofNat field.value := by
    intro field
    simp [DurationField.value]
  cases clock with
  | seconds s =>
      rw [text, parseFields_last s.isField.no_colon (by decide), parseField_of_isField s.isField,
        Option.map_some, hFirst]
      rfl
  | minutes m s =>
      rw [text, parseFields_cons m.isField.no_colon (by decide), parseField_of_isField m.isField,
        Option.bind_some, parseFields_last s.isField.no_colon (by decide), parseField_of_isField s.isField,
        Option.map_some, hFirst, hMore]
      rfl
  | hours h m s =>
      rw [text, parseFields_cons h.isField.no_colon (by decide), parseField_of_isField h.isField,
        Option.bind_some, parseFields_cons m.isField.no_colon (by decide), parseField_of_isField m.isField,
        Option.bind_some, parseFields_last s.isField.no_colon (by decide), parseField_of_isField s.isField,
        Option.map_some, hFirst, hMore, hMore]
      congr 2
      rw [inSeconds]
      ring

/-- And nothing else is. -/
theorem exists_of_parseFields {rest : WString} {value : Int64} (h : parseFields 0 0 rest = some value) :
    ∃ clock : DurationClock, clock.text = rest := by
  obtain ⟨-, hLast | ⟨first, more, rfl, hFirst, _, hMore⟩⟩ := parseFields_cases h
  · exact ⟨.seconds ⟨rest, hLast⟩, rfl⟩
  · obtain ⟨-, hLast | ⟨second, others, rfl, hSecond, _, hOthers⟩⟩ := parseFields_cases hMore
    · exact ⟨.minutes ⟨first, hFirst⟩ ⟨more, hLast⟩, rfl⟩
    · obtain ⟨-, hLast | ⟨third, beyond, rfl, hThird, _, hBeyond⟩⟩ := parseFields_cases hOthers
      · exact ⟨.hours ⟨first, hFirst⟩ ⟨second, hSecond⟩ ⟨others, hLast⟩, rfl⟩
      · exact absurd (parseFields_cases hBeyond).1 (by decide)

theorem no_dot (clock : DurationClock) : wchar '.' ∉ clock.text := by
  have hColon : wchar '.' ≠ wchar ':' := by decide
  cases clock with
  | seconds s => exact s.isField.no_dot
  | minutes m s => simp [text, m.isField.no_dot, s.isField.no_dot, hColon]
  | hours h m s => simp [text, h.isField.no_dot, m.isField.no_dot, s.isField.no_dot, hColon]

end DurationClock

namespace DurationText

theorem fractionUnits_some (clock : DurationClock) (fraction : DurationFraction) :
    fractionUnits ⟨clock, some fraction⟩ = Decimal.truncated 7 (fraction.text.map digitValue) := by
  show ⌊(10000000 : ℚ) * fraction.value⌋ = _
  rw [← Decimal.floor_fraction, DurationFraction.value]
  norm_num

/-- The parse gives the length of a duration, cut down to 64 bits. -/
theorem parseDuration_text (duration : DurationText) :
    parseDuration duration.text = some (Int64.ofInt duration.units) := by
  have hUnits : ∀ seconds fraction : Nat, Int64.ofNat seconds * kUnitsPerSecond + Int64.ofNat fraction =
      Int64.ofInt (seconds * 10000000 + fraction) := by
    intro seconds fraction
    rw [Int64.ofInt_add, Int64.ofInt_mul, Int64.ofInt_eq_ofNat, Int64.ofInt_eq_ofNat]
    rfl
  obtain ⟨clock, fraction⟩ := duration
  cases fraction with
  | none =>
      rw [text, List.append_nil, parseDuration, find_none clock.no_dot]
      simp only [clock.parseFields_text, Option.map_some]
      exact congrArg some (hUnits clock.inSeconds 0)
  | some fraction =>
      rw [text, parseDuration, find_append clock.no_dot]
      simp only [List.take_left', drop_cut, parseFraction_of_digits fraction.digits, clock.parseFields_text,
        Option.map_some, hUnits, units, fractionUnits_some]

/-- A text the parse takes is a duration. -/
theorem exists_of_parseDuration {rest : WString} {value : Int64} (h : parseDuration rest = some value) :
    ∃ duration : DurationText, duration.text = rest := by
  by_cases hDot : wchar '.' ∈ rest
  · obtain ⟨front, digits, rfl, hFront⟩ := List.eq_append_cons_of_mem hDot
    rw [parseDuration, find_append hFront] at h
    simp only [List.take_left', drop_cut] at h
    by_cases hDigits : ∀ c ∈ digits, isDigit c = true
    · rw [parseFraction_of_digits hDigits] at h
      obtain ⟨seconds, hSeconds, -⟩ := Option.map_eq_some_iff.mp h
      obtain ⟨clock, rfl⟩ := DurationClock.exists_of_parseFields hSeconds
      exact ⟨⟨clock, some ⟨digits, hDigits⟩⟩, rfl⟩
    · rw [parseFraction_of_not hDigits] at h
      cases h
  · rw [parseDuration, find_none hDot] at h
    obtain ⟨seconds, hSeconds, -⟩ := Option.map_eq_some_iff.mp h
    obtain ⟨clock, rfl⟩ := DurationClock.exists_of_parseFields hSeconds
    exact ⟨⟨clock, none⟩, List.append_nil _⟩

theorem fractionUnits_nonneg (duration : DurationText) : 0 ≤ duration.fractionUnits := by
  rw [fractionUnits]
  cases duration.fraction with
  | none => exact le_rfl
  | some fraction =>
      apply Int.floor_nonneg.mpr
      rw [DurationFraction.value, Decimal.fraction]
      positivity

theorem fractionUnits_lt (duration : DurationText) : duration.fractionUnits < 10000000 := by
  obtain ⟨clock, fraction⟩ := duration
  cases fraction with
  | none =>
      rw [fractionUnits]
      norm_num
  | some fraction =>
      have hLess := Decimal.truncated_lt (map_digitValue_lt fraction.digits) 7
      rw [fractionUnits_some]
      omega

theorem units_nonneg (duration : DurationText) : 0 ≤ duration.units := by
  have hFraction := duration.fractionUnits_nonneg
  rw [units]
  omega

/-- While it fits, the length is what the parse returns. -/
theorem parseDuration_toInt (duration : DurationText) (h : duration.units < 2 ^ 63) :
    ∃ value, parseDuration duration.text = some value ∧ value.toInt = duration.units := by
  have hNonneg := duration.units_nonneg
  exact ⟨_, duration.parseDuration_text, Int64.toInt_ofInt_of_le (by omega) h⟩

end DurationText

/-- The parse takes exactly the durations of the grammar, each for its length. -/
theorem parseDuration_grammar (text : WString) :
    ((parseDuration text).isSome = true ↔ ∃ duration : DurationText, duration.text = text) ∧
      ∀ duration : DurationText, duration.text = text → duration.units < 2 ^ 63 →
        ∃ value, parseDuration text = some value ∧ value.toInt = duration.units := by
  constructor
  · constructor
    · intro h
      obtain ⟨value, hValue⟩ := Option.isSome_iff_exists.mp h
      exact DurationText.exists_of_parseDuration hValue
    · rintro ⟨duration, rfl⟩
      rw [duration.parseDuration_text]
      rfl
  · rintro duration rfl hUnits
    exact duration.parseDuration_toInt hUnits

end WinDV
