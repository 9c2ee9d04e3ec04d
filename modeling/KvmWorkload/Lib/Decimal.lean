import Mathlib.Data.Nat.BitIndices

/-! # Decimal text

Programs exchange numbers as text.  `decimal` is the canonical spelling that
`str` and `echo` produce; a `Numeral` is any nonempty run of digits, leading
zeros allowed, which is what a reader has to accept.
-/

namespace KvmWorkload

/-- Text is a list of characters, so that scanners are folds over it. -/
abbrev Text := List Char

/-- The canonical decimal spelling of a number. -/
def decimal (n : Nat) : Text := Nat.toDigits 10 n

/-- The number spelled by a run of digits. -/
def readDecimal (digits : Text) : Nat := Nat.ofDigitChars 10 digits 0

@[simp] theorem readDecimal_decimal (n : Nat) : readDecimal (decimal n) = n :=
  Nat.ofDigitChars_ten_toDigits

theorem decimal_ne_nil (n : Nat) : decimal n ≠ [] := Nat.toDigits_ne_nil

theorem decimal_injective : Function.Injective decimal := by
  intro m n same
  simpa only [readDecimal_decimal] using congrArg readDecimal same

theorem isDigit_of_mem_decimal {n : Nat} {c : Char} (member : c ∈ decimal n) : c.isDigit :=
  Nat.isDigit_of_mem_toDigits (by decide) (by decide) member

theorem isAlphanum_of_isDigit {c : Char} (digit : c.isDigit = true) : c.isAlphanum = true := by
  rw [Char.isAlphanum, digit, Bool.or_true]

theorem all_isDigit_decimal (n : Nat) : (decimal n).all Char.isDigit = true :=
  List.all_eq_true.mpr fun _ member => isDigit_of_mem_decimal member

/-- A nonempty run of decimal digits. -/
structure Numeral where
  digits : Text
  nonempty : digits ≠ []
  isDigit : ∀ c ∈ digits, c.isDigit

namespace Numeral

def value (n : Numeral) : Nat := readDecimal n.digits

def ofNat (n : Nat) : Numeral where
  digits := decimal n
  nonempty := decimal_ne_nil n
  isDigit := fun _ member => isDigit_of_mem_decimal member

@[simp] theorem ofNat_value (n : Nat) : (ofNat n).value = n := readDecimal_decimal n

@[simp] theorem ofNat_digits (n : Nat) : (ofNat n).digits = decimal n := rfl

end Numeral

/-- Digits are the characters with codes strictly between 47 and 58. -/
theorem isDigit_iff_code (c : Char) : c.isDigit = true ↔ 47 < c.toNat ∧ c.toNat < 58 := by
  simp only [Char.isDigit, Bool.and_eq_true, decide_eq_true_eq, ge_iff_le, UInt32.le_iff_toNat_le]
  change 48 ≤ c.toNat ∧ c.toNat ≤ 57 ↔ _
  omega

end KvmWorkload
