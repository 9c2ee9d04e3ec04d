import KvmWorkload.Lib.Fields
import KvmWorkload.Lib.Radix

/-! # Text as Python reads it

`strip` and `\s` agree on what a blank is, and `int` takes blanks off before it
reads a number.
-/

namespace KvmWorkload

/-- `\s`, which is also what `strip` takes off. -/
def isSpace (c : Char) : Bool :=
  let n := c.toNat
  decide (9 ≤ n ∧ n ≤ 13) || decide (28 ≤ n ∧ n ≤ 32) || n == 0x85 || n == 0xA0 || n == 0x1680 ||
    decide (0x2000 ≤ n ∧ n ≤ 0x200A) || n == 0x2028 || n == 0x2029 || n == 0x202F || n == 0x205F ||
    n == 0x3000

/-- `text.strip()`. -/
def strip (text : Text) : Text := trim isSpace text

/-- `int(text)`: blanks around, a sign, and underscores between digits are allowed.  Of the digits that
    Python knows only the ASCII ones are read. -/
def readInt (text : Text) : Option Int :=
  let digits (rest : Text) : Option Nat :=
    let groups := rest.splitOn '_'
    if groups.all (fun group => !group.isEmpty && group.all Char.isDigit) then some (readDecimal groups.flatten)
    else none
  match strip text with
  | '-' :: rest => (digits rest).map fun n => -n
  | '+' :: rest => (digits rest).map Int.ofNat
  | rest => (digits rest).map Int.ofNat

theorem isSpace_of_isAlphanum {c : Char} (alphanum : c.isAlphanum = true) : isSpace c = false := by
  have code : (65 ≤ c.toNat ∧ c.toNat ≤ 90 ∨ 97 ≤ c.toNat ∧ c.toNat ≤ 122) ∨ 48 ≤ c.toNat ∧ c.toNat ≤ 57 := by
    change (c.isUpper || c.isLower || c.isDigit) = true at alphanum
    rw [Bool.or_eq_true, Bool.or_eq_true] at alphanum
    rcases alphanum with (upper | lower) | digit
    · have := (isUpper_iff_code c).mp upper
      omega
    · have := (isLower_iff_code c).mp lower
      omega
    · have := (isDigit_iff_code c).mp digit
      omega
  simp only [isSpace, Bool.or_eq_false_iff, decide_eq_false_iff_not, beq_eq_false_iff_ne]
  omega

theorem isSpace_of_isDigit {c : Char} (digit : c.isDigit = true) : isSpace c = false :=
  isSpace_of_isAlphanum (isAlphanum_of_isDigit digit)

theorem strip_indented {word : Text} (solid : ∀ c ∈ word, isSpace c = false) (blanks : Nat) :
    strip (List.replicate blanks ' ' ++ word) = word := by
  refine trim_blanks_append solid fun c member => ?_
  rw [List.eq_of_mem_replicate member]
  rfl

/-- A text of letters and digits is a number when all of it are digits. -/
theorem readInt_of_isAlphanum {text : Text} (more : text ≠ []) (alphanum : ∀ c ∈ text, c.isAlphanum = true) :
    readInt text = if text.all Char.isDigit then some (readDecimal text : Int) else none := by
  have whole : text.splitOn '_' = [text] := splitOn_of_not_mem fun inside => by cases alphanum '_' inside
  rw [readInt, strip, trim_of_solid fun c inside => isSpace_of_isAlphanum (alphanum c inside)]
  split
  next rest => cases alphanum '-' List.mem_cons_self
  next rest => cases alphanum '+' List.mem_cons_self
  next =>
    simp only [whole, List.all_cons, List.all_nil, Bool.and_true, List.flatten_cons, List.flatten_nil,
      List.append_nil, List.isEmpty_eq_false_iff.mpr more, Bool.not_false, Bool.true_and]
    split <;> rfl

end KvmWorkload
