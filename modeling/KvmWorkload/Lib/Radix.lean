import KvmWorkload.Lib.Decimal
import Mathlib.Data.Nat.Digits.Defs
import Mathlib.Data.Nat.Bitwise
import Mathlib.Tactic.Ring

/-! # Digits in other bases

Register dumps are padded with zeros to the width of the register, so a slice
of the text is a slice of the digits.  A reader that takes the digits in a
larger base than the printer moves every bit of the number.
-/

namespace KvmWorkload

/-- The last `width` digits of `n` in base `b`, the most significant one first. -/
def fixedDigits (b : Nat) : Nat → Nat → Text
  | 0, _ => []
  | width + 1, n => fixedDigits b width (n / b) ++ [Nat.digitChar (n % b)]

@[simp] theorem length_fixedDigits (b width n : Nat) : (fixedDigits b width n).length = width := by
  induction width generalizing n with
  | zero => rfl
  | succ width ih => simp [fixedDigits, ih]

theorem fixedDigits_zero (b width : Nat) : fixedDigits b width 0 = List.replicate width '0' := by
  induction width with
  | zero => rfl
  | succ width ih =>
      rw [fixedDigits, Nat.zero_div, Nat.zero_mod, ih, List.replicate_succ']
      rfl

theorem leftpad_concat (width : Nat) (c d : Char) (text : Text) :
    (text ++ [d]).leftpad (width + 1) c = text.leftpad width c ++ [d] := by
  simp [List.leftpad]

/-- Zero padding writes out the digits of the number. -/
theorem leftpad_toDigits {b width n : Nat} (base : 1 < b) (some_width : 0 < width)
    (fits : n < b ^ width) : (Nat.toDigits b n).leftpad width '0' = fixedDigits b width n := by
  induction width generalizing n with
  | zero => exact absurd some_width (Nat.lt_irrefl 0)
  | succ width ih =>
      by_cases small : n < b
      · rw [Nat.toDigits_of_lt_base small, fixedDigits, Nat.div_eq_of_lt small, Nat.mod_eq_of_lt small,
          fixedDigits_zero]
        simp [List.leftpad]
      · have wide : 0 < width := by
          by_contra none
          have one : width = 0 := by omega
          rw [one, Nat.zero_add, Nat.pow_one] at fits
          exact small fits
        have rest : n / b < b ^ width := by
          rw [Nat.div_lt_iff_lt_mul (by omega), ← Nat.pow_succ]
          exact fits
        rw [Nat.toDigits_of_base_le base (Nat.le_of_not_lt small), leftpad_concat, ih wide rest, fixedDigits]

theorem fixedDigits_add (b high low n : Nat) :
    fixedDigits b (high + low) n = fixedDigits b high (n / b ^ low) ++ fixedDigits b low n := by
  induction low generalizing n with
  | zero => simp [fixedDigits]
  | succ low ih =>
      rw [← Nat.add_assoc, fixedDigits, ih, fixedDigits, Nat.div_div_eq_div_mul, ← Nat.pow_succ',
        List.append_assoc]

theorem fixedDigits_mod (b width n : Nat) :
    fixedDigits b width (n % b ^ width) = fixedDigits b width n := by
  induction width generalizing n with
  | zero => rfl
  | succ width ih =>
      rw [fixedDigits, fixedDigits, Nat.pow_succ', Nat.mod_mul_right_div_self, ih, Nat.mod_mul_right_mod]

theorem fixedDigits_mul_add {b low y : Nat} (fits : y < b ^ low) (high x : Nat) :
    fixedDigits b (high + low) (x * b ^ low + y) = fixedDigits b high x ++ fixedDigits b low y := by
  have positive : 0 < b ^ low := Nat.zero_lt_of_lt fits
  rw [fixedDigits_add, Nat.mul_comm, Nat.mul_add_div positive, Nat.div_eq_of_lt fits, Nat.add_zero,
    ← fixedDigits_mod b low (b ^ low * x + y), Nat.mul_add_mod, Nat.mod_eq_of_lt fits]

theorem drop_leftpad_toDigits {b high low n : Nat} (base : 1 < b) (some_low : 0 < low)
    (fits : n < b ^ (high + low)) :
    ((Nat.toDigits b n).leftpad (high + low) '0').drop high =
      (Nat.toDigits b (n % b ^ low)).leftpad low '0' := by
  have reduced : n % b ^ low < b ^ low := Nat.mod_lt n (Nat.pow_pos (by omega))
  rw [leftpad_toDigits base (by omega) fits, leftpad_toDigits base some_low reduced, fixedDigits_add,
    List.drop_left' (length_fixedDigits ..), fixedDigits_mod]

theorem exists_digitChar_of_mem_toDigits {b n : Nat} (base : 1 < b) {c : Char} (member : c ∈ Nat.toDigits b n) :
    ∃ digit < b, c = digit.digitChar := by
  induction n using Nat.strong_induction_on with
  | _ n ih =>
      by_cases small : n < b
      · rw [Nat.toDigits_of_lt_base small, List.mem_singleton] at member
        exact ⟨n, small, member⟩
      · rw [Nat.toDigits_of_base_le base (Nat.le_of_not_lt small), List.mem_append, List.mem_singleton] at member
        rcases member with inside | last
        · exact ih (n / b) (Nat.div_lt_self (by omega) base) inside
        · exact ⟨n % b, Nat.mod_lt n (by omega), last⟩

theorem head?_toDigits_ne_zero {b n : Nat} (base : 1 < b) (hex : b ≤ 16) (pos : 0 < n) :
    (Nat.toDigits b n).head? ≠ some '0' := by
  induction n using Nat.strong_induction_on with
  | _ n ih =>
      by_cases small : n < b
      · have nonzero : ∀ digit < 16, 0 < digit → digit.digitChar ≠ '0' := by decide
        rw [Nat.toDigits_of_lt_base small, List.head?_cons]
        exact fun zero => nonzero n (Nat.lt_of_lt_of_le small hex) pos (Option.some.inj zero)
      · have shorter : 0 < n / b := Nat.div_pos (Nat.le_of_not_lt small) (by omega)
        rw [Nat.toDigits_of_base_le base (Nat.le_of_not_lt small),
          List.head?_append_of_ne_nil _ Nat.toDigits_ne_nil]
        exact ih (n / b) (Nat.div_lt_self pos base) shorter

/-- The value of a digit or letter. -/
def digitOf (c : Char) : Option Nat :=
  if c.isDigit then some (c.toNat - 48)
  else if c.isLower then some (c.toNat - 87)
  else if c.isUpper then some (c.toNat - 55)
  else none

/-- One more digit of a number in base `base`. -/
def readDigit (base value : Nat) (c : Char) : Option Nat :=
  match digitOf c with
  | some digit => if digit < base then some (base * value + digit) else none
  | none => none

/-- The number spelled by a text in base `base`. -/
def readRadix (base : Nat) (text : Text) : Option Nat :=
  if text = [] then none else text.foldlM (readDigit base) 0

theorem digitOf_digitChar {digit : Nat} (hex : digit < 16) : digitOf digit.digitChar = some digit := by
  revert digit
  decide

theorem readDigit_digitChar {base digit : Nat} (hex : digit < 16) (small : digit < base) (value : Nat) :
    readDigit base value digit.digitChar = some (base * value + digit) := by
  simp only [readDigit, digitOf_digitChar hex, if_pos small]

theorem foldlM_fixedDigits {b : Nat} (hex : b ≤ 16) (some_digit : 0 < b) (width n : Nat) :
    (fixedDigits b width n).foldlM (readDigit b) 0 = some (n % b ^ width) := by
  induction width generalizing n with
  | zero => rw [Nat.pow_zero, Nat.mod_one]; rfl
  | succ width ih =>
      have digit : n % b < b := Nat.mod_lt n some_digit
      rw [fixedDigits, List.foldlM_append, ih, Nat.pow_succ', Nat.mod_mul, Nat.add_comm]
      change readDigit b (n / b % b ^ width) (n % b).digitChar >>= pure = _
      rw [readDigit_digitChar (Nat.lt_of_lt_of_le digit hex) digit]
      rfl

theorem readRadix_fixedDigits {b width n : Nat} (hex : b ≤ 16) (some_width : 0 < width) (fits : n < b ^ width) :
    readRadix b (fixedDigits b width n) = some n := by
  have some_digit : 0 < b := by
    by_contra none
    rw [Nat.eq_zero_of_not_pos none, Nat.zero_pow some_width] at fits
    exact Nat.not_lt_zero n fits
  have more : fixedDigits b width n ≠ [] := by
    rw [← List.length_pos_iff, length_fixedDigits]
    exact some_width
  rw [readRadix, if_neg more, foldlM_fixedDigits hex some_digit, Nat.mod_eq_of_lt fits]

theorem digitOf_toUpper_digitChar {digit : Nat} (hex : digit < 16) :
    digitOf digit.digitChar.toUpper = some digit := by
  revert digit
  decide

theorem readDigit_toUpper_digitChar {base digit : Nat} (hex : digit < 16) (small : digit < base) (value : Nat) :
    readDigit base value digit.digitChar.toUpper = some (base * value + digit) := by
  simp only [readDigit, digitOf_toUpper_digitChar hex, if_pos small]

theorem ofDigits_digits_step {b : Nat} (base : 1 < b) (b' n : Nat) :
    Nat.ofDigits b' (Nat.digits b n) = b' * Nat.ofDigits b' (Nat.digits b (n / b)) + n % b := by
  rcases Nat.eq_zero_or_pos n with rfl | pos
  · simp
  · rw [Nat.digits_def' base pos, Nat.ofDigits_cons, Nat.add_comm]

/-- Digits printed in one base and read in a larger one. -/
theorem readRadix_toDigits {b b' : Nat} (base : 1 < b) (hex : b ≤ 16) (larger : b ≤ b') (n : Nat) :
    readRadix b' (Nat.toDigits b n) = some (Nat.ofDigits b' (Nat.digits b n)) := by
  rw [readRadix, if_neg Nat.toDigits_ne_nil]
  induction n using Nat.strong_induction_on with
  | _ n ih =>
      have low : n % b < b := Nat.mod_lt n (by omega)
      by_cases small : n < b
      · rw [ofDigits_digits_step base, Nat.toDigits_of_lt_base small, Nat.div_eq_of_lt small,
          Nat.mod_eq_of_lt small]
        simp [readDigit_digitChar (Nat.lt_of_lt_of_le small hex) (Nat.lt_of_lt_of_le small larger)]
      · have shorter : n / b < n := Nat.div_lt_self (by omega) base
        rw [ofDigits_digits_step base, Nat.toDigits_of_base_le base (Nat.le_of_not_lt small), List.foldlM_append,
          ih _ shorter]
        simp [readDigit_digitChar (Nat.lt_of_lt_of_le low hex) (Nat.lt_of_lt_of_le low larger)]

theorem readRadix_decimal (n : Nat) : readRadix 10 (decimal n) = some n := by
  rw [decimal, readRadix_toDigits (by decide) (by decide) (by decide), Nat.ofDigits_digits]

theorem isLower_iff_code (c : Char) : c.isLower = true ↔ 96 < c.toNat ∧ c.toNat < 123 := by
  change (decide (97 ≤ c.val) && decide (c.val ≤ 122)) = true ↔ _
  simp only [Bool.and_eq_true, decide_eq_true_eq, UInt32.le_iff_toNat_le]
  change 97 ≤ c.toNat ∧ c.toNat ≤ 122 ↔ _
  omega

theorem isUpper_iff_code (c : Char) : c.isUpper = true ↔ 64 < c.toNat ∧ c.toNat < 91 := by
  change decide (65 ≤ c.val ∧ c.val ≤ 90) = true ↔ _
  simp only [decide_eq_true_eq, UInt32.le_iff_toNat_le]
  change 65 ≤ c.toNat ∧ c.toNat ≤ 90 ↔ _
  omega

theorem digitOf_of_isAlpha {c : Char} (letter : c.isAlpha = true) :
    ∃ digit, digitOf c = some digit ∧ 10 ≤ digit := by
  change (c.isUpper || c.isLower) = true at letter
  rw [Bool.or_eq_true, isUpper_iff_code, isLower_iff_code] at letter
  have noDigit : ¬ c.isDigit = true := by
    rw [isDigit_iff_code]
    omega
  rw [digitOf, if_neg noDigit]
  by_cases lower : c.isLower = true
  · rw [if_pos lower]
    rw [isLower_iff_code] at lower
    exact ⟨_, rfl, by omega⟩
  · rw [if_neg lower]
    rw [isLower_iff_code] at lower
    have upper : c.isUpper = true := (isUpper_iff_code c).mpr (by omega)
    rw [if_pos upper]
    exact ⟨_, rfl, by omega⟩

theorem readRadix_of_isAlpha {c : Char} (letter : c.isAlpha = true) (rest : Text) :
    readRadix 10 (c :: rest) = none := by
  obtain ⟨digit, value, large⟩ := digitOf_of_isAlpha letter
  have refused : readDigit 10 0 c = none := by
    simp only [readDigit, value, if_neg (Nat.not_lt.mpr large)]
  rw [readRadix, if_neg (by simp), List.foldlM_cons, refused]
  rfl

theorem testBit_ofDigits_digits {k l : Nat} (some_bits : 0 < k) (wider : k ≤ l) {j : Nat} (inside : j < k)
    (n i : Nat) :
    (Nat.ofDigits (2 ^ l) (Nat.digits (2 ^ k) n)).testBit (l * i + j) = n.testBit (k * i + j) := by
  have base : 1 < 2 ^ k := Nat.one_lt_two_pow (by omega)
  induction i generalizing n with
  | zero =>
      rw [ofDigits_digits_step base, Nat.testBit_two_pow_mul_add, Nat.mul_zero, Nat.zero_add, Nat.mul_zero,
        Nat.zero_add, if_pos (by omega), Nat.testBit_mod_two_pow]
      · simp [inside]
      · exact Nat.lt_of_lt_of_le (Nat.mod_lt n (by omega)) (Nat.pow_le_pow_right (by omega) wider)
  | succ i ih =>
      have next : l * (i + 1) + j = l * i + j + l := by rw [Nat.mul_succ]; omega
      have next' : k * (i + 1) + j = k * i + j + k := by rw [Nat.mul_succ]; omega
      rw [ofDigits_digits_step base, Nat.testBit_two_pow_mul_add, next, if_neg (by omega), Nat.add_sub_cancel,
        ih, next', Nat.testBit_div_two_pow]
      exact Nat.lt_of_lt_of_le (Nat.mod_lt n (by omega)) (Nat.pow_le_pow_right (by omega) wider)

theorem digit_add {b d k : Nat} (n : Nat) (fits : d < b) (free : n / b ^ k % b = 0) (j : Nat) :
    (n + d * b ^ k) / b ^ j % b = if j = k then d else n / b ^ j % b := by
  have base : 0 < b := Nat.zero_lt_of_lt fits
  have place : 0 < b ^ k := Nat.pow_pos base
  have high : (n + d * b ^ k) / b ^ k = n / b ^ k + d := Nat.add_mul_div_right _ _ place
  rcases Nat.lt_trichotomy j k with below | rfl | above
  · rw [if_neg (Nat.ne_of_lt below)]
    -- The lower places of a multiple of `b ^ k` are zero.
    obtain ⟨i, rfl⟩ := Nat.exists_eq_add_of_lt below
    rw [← Nat.mod_mul_right_div_self, ← Nat.mod_mul_right_div_self, ← Nat.pow_succ]
    have multiple : d * b ^ (j + i + 1) = b ^ (j + 1) * (d * b ^ i) := by ring
    rw [multiple, Nat.add_mul_mod_self_left]
  · rw [if_pos rfl, high, Nat.add_mod, free, Nat.zero_add, Nat.mod_mod, Nat.mod_eq_of_lt fits]
  · rw [if_neg (Nat.ne_of_gt above)]
    obtain ⟨i, rfl⟩ := Nat.exists_eq_add_of_lt above
    have next : (n / b ^ k + d) / b = n / b ^ k / b := by
      conv_lhs => rw [← Nat.div_add_mod (n / b ^ k) b, free, Nat.add_zero, Nat.mul_add_div base,
        Nat.div_eq_of_lt fits, Nat.add_zero]
    have split : b ^ (k + i + 1) = b ^ k * b * b ^ i := by ring
    rw [split, ← Nat.div_div_eq_div_mul, ← Nat.div_div_eq_div_mul, high, next, ← Nat.div_div_eq_div_mul,
      ← Nat.div_div_eq_div_mul]

theorem digit_foldl {b : Nat} {entries : List (Nat × Nat)} (places : (entries.map Prod.fst).Nodup)
    (fits : ∀ entry ∈ entries, entry.2 < b) (n : Nat) (free : ∀ entry ∈ entries, n / b ^ entry.1 % b = 0) (j : Nat) :
    entries.foldl (fun n entry => n + entry.2 * b ^ entry.1) n / b ^ j % b =
      (entries.lookup j).getD (n / b ^ j % b) := by
  induction entries generalizing n with
  | nil => rfl
  | cons entry rest ih =>
      obtain ⟨k, d⟩ := entry
      rw [List.map_cons, List.nodup_cons] at places
      rw [List.forall_mem_cons] at fits free
      have step := digit_add n fits.1 free.1
      have unused : ∀ entry ∈ rest, entry.1 ≠ k := by
        intro entry member same
        exact places.1 (List.mem_map.mpr ⟨entry, member, same⟩)
      have still : ∀ entry ∈ rest, (n + d * b ^ k) / b ^ entry.1 % b = 0 := by
        intro entry member
        rw [step, if_neg (unused entry member)]
        exact free.2 entry member
      rw [List.foldl_cons, ih places.2 fits.2 _ still, step, List.lookup_cons]
      by_cases here : j = k
      · subst here
        have absent : rest.lookup j = none := by
          rw [List.lookup_eq_none_iff]
          intro entry member
          simpa using Ne.symm (unused entry member)
        simp [absent]
      · have differ : (j == k) = false := by simpa using here
        rw [if_neg here, differ]
end KvmWorkload
