import Mathlib.Algebra.Order.Floor.Semifield
import Mathlib.Data.Nat.Digits.Lemmas
import Mathlib.Data.Rat.Floor

/-! Decimal numerals as digit lists, most significant digit first, with
leading zeros. Two numerals of one length are equal when their values are, and
a value that needs more digits than the width asked for grows the numeral.
Behind a decimal point a numeral is a fraction, and a reader with a fixed
number of places takes its floor. -/
namespace Decimal

/-- The number a digit list denotes. -/
def value (digits : List Nat) : Nat := Nat.ofDigits 10 digits.reverse

/-- The shortest numeral, "0" for zero. -/
def shortest (n : Nat) : List Nat := if n = 0 then [0] else (Nat.digits 10 n).reverse

/-- The numeral filled up with zeros to at least `width` digits. -/
def padded (width n : Nat) : List Nat :=
  List.replicate (width - (shortest n).length) 0 ++ shortest n

theorem value_shortest (n : Nat) : value (shortest n) = n := by
  unfold value shortest
  split_ifs with h
  · simp [h]
  · rw [List.reverse_reverse, Nat.ofDigits_digits]

theorem value_padded (width n : Nat) : value (padded width n) = n := by
  have h := value_shortest n
  simp only [value, padded, List.reverse_append, List.reverse_replicate,
    Nat.ofDigits_append_replicate_zero] at h ⊢
  exact h

theorem shortest_lt (n : Nat) {d : Nat} (h : d ∈ shortest n) : d < 10 := by
  unfold shortest at h
  split_ifs at h
  · rw [List.mem_singleton.mp h]
    exact Nat.zero_lt_succ _
  · exact Nat.digits_lt_base (by decide) (List.mem_reverse.mp h)

theorem padded_lt (width n : Nat) {d : Nat} (h : d ∈ padded width n) : d < 10 := by
  rcases List.mem_append.mp h with h | h
  · rw [List.eq_of_mem_replicate h]
    exact Nat.zero_lt_succ _
  · exact shortest_lt n h

theorem shortest_pos (n : Nat) : 0 < (shortest n).length := by
  unfold shortest
  split_ifs with h
  · exact Nat.zero_lt_succ _
  · rw [List.length_reverse]
    exact List.length_pos_of_ne_nil (Nat.digits_ne_nil_iff_ne_zero.mpr h)

theorem padded_length (width n : Nat) :
    (padded width n).length = max width (shortest n).length := by
  simp only [padded, List.length_append, List.length_replicate]
  omega

/-- A number below `10 ^ k` needs at most `k` digits. -/
theorem shortest_length_le {n k : Nat} (hk : 0 < k) (h : n < 10 ^ k) : (shortest n).length ≤ k := by
  unfold shortest
  split_ifs with hn
  · exact hk
  · rw [List.length_reverse]
    exact (Nat.digits_length_le_iff (by decide) n).mpr h

theorem value_lt {digits : List Nat} (h : ∀ d ∈ digits, d < 10) :
    value digits < 10 ^ digits.length := by
  have hReverse : ∀ d ∈ digits.reverse, d < 10 := fun d hd => h d (List.mem_reverse.mp hd)
  have hBound := Nat.ofDigits_lt_base_pow_length (by decide) hReverse
  simpa [value] using hBound

/-- Numerals of one length are determined by their value. -/
theorem value_injective {first second : List Nat} (hLength : first.length = second.length)
    (hFirst : ∀ d ∈ first, d < 10) (hSecond : ∀ d ∈ second, d < 10)
    (h : value first = value second) : first = second := by
  have hLengths : first.reverse.length = second.reverse.length := by simpa using hLength
  have hReverse := Nat.ofDigits_inj_of_len_eq (by decide) hLengths
    (fun d hd => hFirst d (List.mem_reverse.mp hd))
    (fun d hd => hSecond d (List.mem_reverse.mp hd)) h
  simpa using congrArg List.reverse hReverse

theorem value_nil : value [] = 0 := rfl

theorem value_cons (d : Nat) (rest : List Nat) :
    value (d :: rest) = d * 10 ^ rest.length + value rest := by
  rw [value, List.reverse_cons, Nat.ofDigits_append, List.length_reverse, Nat.ofDigits_singleton, value]
  ring

/-- Reading digit by digit. -/
theorem foldl_value (digits : List Nat) (start : Nat) :
    digits.foldl (fun read d => read * 10 + d) start = start * 10 ^ digits.length + value digits := by
  induction digits generalizing start with
  | nil => simp [value_nil]
  | cons d rest ih =>
      rw [List.foldl_cons, ih, value_cons, List.length_cons]
      ring

/-- The number behind a decimal point. -/
def fraction (digits : List Nat) : ℚ := value digits / 10 ^ digits.length

/-- The fraction in units of the last of `places` places, the rest cut off. -/
def truncated (places : Nat) (digits : List Nat) : Nat :=
  10 ^ places * value digits / 10 ^ digits.length

theorem floor_fraction (places : Nat) (digits : List Nat) :
    ⌊(10 : ℚ) ^ places * fraction digits⌋ = truncated places digits := by
  have hCast : (10 : ℚ) ^ places * fraction digits =
      ((10 ^ places * value digits : Nat) : ℚ) / ((10 ^ digits.length : Nat) : ℚ) := by
    rw [fraction]
    push_cast
    ring
  rw [hCast, truncated]
  exact_mod_cast Rat.floor_natCast_div_natCast _ _

/-- A numeral behind the point is less than one. -/
theorem truncated_lt {digits : List Nat} (h : ∀ d ∈ digits, d < 10) (places : Nat) :
    truncated places digits < 10 ^ places := by
  rw [truncated, Nat.div_lt_iff_lt_mul (Nat.pow_pos (by decide))]
  exact Nat.mul_lt_mul_of_pos_left (value_lt h) (Nat.pow_pos (by decide))

theorem truncated_nil (places : Nat) : truncated places [] = 0 := by
  simp [truncated, value_nil]

/-- The first digit takes a place. -/
theorem truncated_succ (places d : Nat) (rest : List Nat) :
    truncated (places + 1) (d :: rest) = 10 ^ places * d + truncated places rest := by
  have hSplit : 10 ^ (places + 1) * value (d :: rest) =
      10 * (10 ^ rest.length * (10 ^ places * d) + 10 ^ places * value rest) := by
    rw [value_cons]
    ring
  rw [truncated, truncated, hSplit, List.length_cons, pow_succ', Nat.mul_div_mul_left _ _ (by decide),
    Nat.mul_add_div (Nat.pow_pos (by decide))]

/-- With no places left nothing counts. -/
theorem truncated_zero {digits : List Nat} (h : ∀ d ∈ digits, d < 10) : truncated 0 digits = 0 := by
  have hBound := truncated_lt h 0
  omega

/-- Reading digit by digit with a weight that decays by ten, and to nothing
behind the last place. -/
theorem foldl_weight {digits : List Nat} (h : ∀ d ∈ digits, d < 10) (places sum : Nat) :
    (digits.foldl (fun (read : Nat × Nat) d => (read.1 + read.2 * d, read.2 / 10))
      (sum, 10 ^ places / 10)).1 = sum + truncated places digits := by
  induction digits generalizing places sum with
  | nil => simp [truncated_nil]
  | cons d rest ih =>
      have hRest : ∀ e ∈ rest, e < 10 := fun e he => h e (List.mem_cons_of_mem _ he)
      cases places with
      | zero =>
          have hNext := ih hRest 0 sum
          rw [truncated_zero hRest] at hNext
          rw [truncated_zero h]
          simpa using hNext
      | succ places =>
          have hWeight : 10 ^ (places + 1) / 10 = 10 ^ places := by
            rw [pow_succ]
            exact Nat.mul_div_cancel _ (by decide)
          rw [List.foldl_cons, truncated_succ, hWeight, ih hRest]
          exact Nat.add_assoc _ _ _

end Decimal
