import KvmWorkload.Lib.Decimal
import Mathlib.Data.List.Infix

/-! # File name patterns

The fragment of shell globs made of literal text, `[0-9]` and `*`.
-/

namespace KvmWorkload

inductive GlobPart where
  | lit (text : Text)
  /-- `[0-9]`. -/
  | digit
  /-- `*`. -/
  | star

def globMatches : List GlobPart → Text → Bool
  | [], name => name.isEmpty
  | .lit text :: glob, name => text.isPrefixOf name && globMatches glob (name.drop text.length)
  | .digit :: _, [] => false
  | .digit :: glob, c :: name => c.isDigit && globMatches glob name
  | .star :: glob, name => name.tails.any (globMatches glob)

theorem globMatches_lit {text : Text} {glob : List GlobPart} {name : Text} :
    globMatches (.lit text :: glob) name = true ↔
      ∃ rest, name = text ++ rest ∧ globMatches glob rest = true := by
  rw [globMatches, Bool.and_eq_true, List.isPrefixOf_iff_prefix]
  constructor
  · rintro ⟨⟨rest, rfl⟩, matched⟩
    exact ⟨rest, rfl, by simpa using matched⟩
  · rintro ⟨rest, rfl, matched⟩
    exact ⟨⟨rest, rfl⟩, by simpa using matched⟩

theorem globMatches_digit {glob : List GlobPart} {name : Text} :
    globMatches (.digit :: glob) name = true ↔
      ∃ c rest, name = c :: rest ∧ c.isDigit = true ∧ globMatches glob rest = true := by
  cases name with
  | nil => simp [globMatches]
  | cons c rest => simp [globMatches]

theorem globMatches_append {text name : Text} :
    globMatches [.lit text, .star] name = true ↔ text <+: name := by
  have all : ∀ rest : Text, globMatches [.star] rest = true := by
    intro rest
    simp [globMatches]
  rw [globMatches_lit]
  constructor
  · rintro ⟨rest, rfl, -⟩
    exact List.prefix_append _ _
  · rintro ⟨rest, rfl⟩
    exact ⟨rest, rfl, all rest⟩

theorem globMatches_number (front back : Text) (n : Nat) :
    globMatches [.lit front, .digit, .lit back] (front ++ (decimal n ++ back)) = true ↔ n < 10 := by
  have short : (decimal n).length ≤ 1 ↔ n < 10 := Nat.length_toDigits_le_iff (by omega) (by omega)
  rw [← short, globMatches_lit]
  constructor
  · rintro ⟨rest, shape, matched⟩
    obtain ⟨c, rest', rfl, -, matched⟩ := globMatches_digit.mp matched
    obtain ⟨tail, rfl, empty⟩ := globMatches_lit.mp matched
    have whole : tail = [] := by simpa [globMatches] using empty
    have lengths := congrArg List.length (List.append_cancel_left shape)
    simp only [List.length_append, List.length_cons, whole, List.length_nil] at lengths
    omega
  · intro short
    obtain ⟨c, spelled⟩ : ∃ c, decimal n = [c] :=
      List.length_eq_one_iff.mp (by have := List.length_pos_of_ne_nil (decimal_ne_nil n); omega)
    have digit : c.isDigit = true := isDigit_of_mem_decimal (by rw [spelled]; exact List.mem_cons_self)
    refine ⟨decimal n ++ back, rfl, globMatches_digit.mpr ⟨c, back, by rw [spelled]; rfl, digit, ?_⟩⟩
    exact globMatches_lit.mpr ⟨[], by simp, by simp [globMatches]⟩

end KvmWorkload
