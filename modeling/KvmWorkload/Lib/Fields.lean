import KvmWorkload.Lib.Decimal
import KvmWorkload.Lib.Words
import Mathlib.Data.List.Infix

/-! # Separated words

The text tools of a shell: lists written with a separator, `cut -d -f`, glob
patterns of the form `*word*`, and lists of CPUs.
-/

namespace KvmWorkload

/-- `for w in ${list//,/ }`: the words between the commas. -/
def commaWords (list : Text) : List Text := (list.splitOn ',').filter (· ≠ [])

/-- A range `lo-hi` of numbers, as text. -/
def rangeText (lo hi : Nat) : Text := decimal lo ++ '-' :: decimal hi

/-- `cut -d<delim> -f<n>`.  A line without the delimiter is printed whole, whatever the field. -/
def cut (delim : Char) (n : Nat) (line : Text) : Text :=
  if delim ∈ line then ((line.splitOn delim)[n - 1]?).getD [] else line

def isBlank (c : Char) : Bool := c = ' ' || c = '\t'

/-- `$k` of awk, the first field being `$1`. -/
def field (k : Nat) (line : Text) : Text := ((wordsOf isBlank line)[k - 1]?).getD []

/-- The glob `*word*`. -/
def contains (word line : Text) : Bool := decide (word <:+: line)

theorem contains_iff {word line : Text} : contains word line = true ↔ word <:+: line := by
  simp only [contains, decide_eq_true_eq]

theorem commaWords_intercalate {words : List Text} (clean : ∀ w ∈ words, ',' ∉ w ∧ w ≠ []) :
    commaWords ([','].intercalate words) = words := by
  cases words with
  | nil => decide
  | cons w rest =>
      rw [commaWords, List.splitOn_intercalate ',' (fun w member => (clean w member).1) (by simp)]
      exact List.filter_eq_self.mpr fun w member => by simpa using (clean w member).2

theorem cut_of_not_mem {delim : Char} {line : Text} (absent : delim ∉ line) (n : Nat) :
    cut delim n line = line := if_neg absent

theorem mem_intercalate {sep : Char} {words : List Text} (two : 2 ≤ words.length) :
    sep ∈ [sep].intercalate words := by
  match words, two with
  | first :: second :: rest, _ => simp

theorem cut_intercalate {delim : Char} {words : List Text} (clean : ∀ w ∈ words, delim ∉ w)
    (two : 2 ≤ words.length) (n : Nat) :
    cut delim n ([delim].intercalate words) = (words[n - 1]?).getD [] := by
  have more : words ≠ [] := List.ne_nil_of_length_pos (by omega)
  rw [cut, if_pos (mem_intercalate two), List.splitOn_intercalate delim clean more]

theorem cut_two {delim : Char} {x y : Text} (left : delim ∉ x) (right : delim ∉ y) :
    cut delim 2 (x ++ delim :: y) = y := by
  have words : x ++ delim :: y = [delim].intercalate [x, y] := by simp
  rw [words, cut_intercalate (by simp [left, right]) (by simp)]
  rfl

theorem exists_of_mem_intercalate {c sep : Char} {words : List Text} (other : c ≠ sep)
    (member : c ∈ [sep].intercalate words) : ∃ w ∈ words, c ∈ w := by
  induction words with
  | nil => simp at member
  | cons w rest ih =>
      cases rest with
      | nil => exact ⟨w, by simp, by simpa using member⟩
      | cons next rest =>
          simp only [List.intercalate_cons_cons, List.mem_append, List.mem_singleton, other,
            false_or, or_assoc] at member
          rcases member with here | later
          · exact ⟨w, by simp, here⟩
          · obtain ⟨w', inside, found⟩ := ih later
            exact ⟨w', List.mem_cons_of_mem _ inside, found⟩

/-- Appending a word to a separated list. -/
theorem intercalate_concat {sep : Char} {words : List Text} (more : words ≠ []) (last : Text) :
    [sep].intercalate words ++ sep :: last = [sep].intercalate (words ++ [last]) := by
  induction words with
  | nil => exact absurd rfl more
  | cons w rest ih =>
      cases rest with
      | nil => simp
      | cons next rest => simpa using ih (by simp)

theorem prefix_of_prefix_sep {sep : Char} {p x y : Text} (absent : sep ∉ p)
    (before : p <+: x ++ sep :: y) : p <+: x := by
  obtain ⟨rest, shape⟩ := before
  rcases List.append_eq_append_iff.mp shape with ⟨mid, whole, _⟩ | ⟨mid, whole, tail⟩
  · exact ⟨mid, whole.symm⟩
  · cases mid with
    | nil => simp [whole]
    | cons c mid =>
        have same : sep = c := (List.cons.inj tail).1
        exact absurd (by simp [whole, same]) absent

theorem infix_sep_iff {sep : Char} {p : Text} (absent : sep ∉ p) (x y : Text) :
    p <:+: x ++ sep :: y ↔ p <:+: x ∨ p <:+: y := by
  constructor
  · induction x with
    | nil =>
        intro inside
        rcases List.infix_cons_iff.mp inside with start | later
        · exact .inl (prefix_of_prefix_sep (x := []) absent start).isInfix
        · exact .inr later
    | cons c x ih =>
        intro inside
        rcases List.infix_cons_iff.mp inside with start | later
        · exact .inl (prefix_of_prefix_sep (x := c :: x) absent start).isInfix
        · exact (ih later).imp_left List.infix_cons
  · rintro (left | right)
    · exact List.infix_append_of_infix_left left
    · exact List.infix_append_of_infix_right (List.infix_cons right)

/-- A pattern cannot occur in text that lacks one of its characters. -/
theorem not_infix_of_not_mem {c : Char} {p line : Text} (inPattern : c ∈ p) (absent : c ∉ line) :
    ¬ p <:+: line :=
  fun inside => absent (inside.subset inPattern)

theorem splitOn_of_not_mem {α : Type} [BEq α] [LawfulBEq α] {sep : α} {u : List α} (absent : sep ∉ u) :
    u.splitOn sep = [u] := by
  have whole : ∀ w ∈ [u], sep ∉ w := by simpa using absent
  simpa using List.splitOn_intercalate sep whole (by simp)

theorem not_mem_of_mem_splitOn {sep : Char} {line word : Text} (member : word ∈ line.splitOn sep) :
    sep ∉ word := by
  induction line generalizing word with
  | nil =>
      rw [List.splitOn_nil, List.mem_singleton] at member
      rw [member]
      exact List.not_mem_nil
  | cons c line ih =>
      obtain ⟨first, others, split⟩ := List.exists_cons_of_ne_nil (List.splitOn_ne_nil sep line)
      rw [List.splitOn_cons_eq_if_modifyHead, split] at member
      rw [split] at ih
      by_cases here : c = sep
      · rw [if_pos (beq_iff_eq.mpr here)] at member
        rcases List.mem_cons.mp member with rfl | later
        · exact List.not_mem_nil
        · exact ih later
      · rw [if_neg (by simpa using here), List.modifyHead_cons] at member
        rcases List.mem_cons.mp member with rfl | later
        · exact List.not_mem_cons_of_ne_of_not_mem (Ne.symm here) (ih List.mem_cons_self)
        · exact ih (List.mem_cons_of_mem _ later)

theorem splitOn_intercalate_append {sep : Char} {front rest : List Text}
    (clean : ∀ w ∈ front, sep ∉ w) (more : rest ≠ []) :
    ([sep].intercalate (front ++ rest)).splitOn sep = front ++ ([sep].intercalate rest).splitOn sep := by
  induction front with
  | nil => rfl
  | cons w front ih =>
      obtain ⟨here, later⟩ := List.forall_mem_cons.mp clean
      obtain ⟨next, others, shape⟩ := List.exists_cons_of_ne_nil (l := front ++ rest) (by simp [more])
      rw [List.cons_append, List.cons_append, ← ih later, shape, List.intercalate_cons_cons,
        List.append_assoc, List.singleton_append, List.splitOn_append_cons_self,
        splitOn_of_not_mem here]
      rfl

/-- The first field is there also when the delimiter is not. -/
theorem cut_one (delim : Char) (line : Text) :
    cut delim 1 line = ((line.splitOn delim).head?).getD [] := by
  by_cases present : delim ∈ line
  · rw [cut, if_pos present, List.head?_eq_getElem?]
  · rw [cut_of_not_mem present, splitOn_of_not_mem present]
    rfl

theorem cut_one_append {delim : Char} {x : Text} (absent : delim ∉ x) (y : Text) :
    cut delim 1 (x ++ delim :: y) = x := by
  rw [cut_one, List.splitOn_append_cons_self, splitOn_of_not_mem absent]
  rfl

/-- The text behind the last separator is determined. -/
theorem suffix_eq_of_sep {sep : Char} {x y u v : Text} (left : sep ∉ u) (right : sep ∉ v)
    (same : x ++ sep :: u = y ++ sep :: v) : u = v := by
  have words := congrArg (List.splitOn sep) same
  rw [List.splitOn_append_cons_self, List.splitOn_append_cons_self, splitOn_of_not_mem left,
    splitOn_of_not_mem right] at words
  exact (List.cons.inj (List.append_inj_right' words rfl)).1

theorem not_mem_decimal {n : Nat} {c : Char} (digit : c.isDigit = false) : c ∉ decimal n :=
  fun member => Bool.false_ne_true (digit.symm.trans (isDigit_of_mem_decimal member))

theorem rangeText_eq_intercalate (lo hi : Nat) :
    rangeText lo hi = ['-'].intercalate [decimal lo, decimal hi] := by
  simp [rangeText]

/-- A range is made of digits and one dash. -/
theorem not_mem_rangeText {lo hi : Nat} {c : Char} (dash : c ≠ '-') (digit : c.isDigit = false) :
    c ∉ rangeText lo hi := by
  simp only [rangeText, List.mem_append, List.mem_cons, not_or]
  exact ⟨not_mem_decimal digit, dash, not_mem_decimal digit⟩

theorem splitOn_rangeText (lo hi : Nat) :
    (rangeText lo hi).splitOn '-' = [decimal lo, decimal hi] := by
  rw [rangeText_eq_intercalate]
  exact List.splitOn_intercalate '-' (by simp [not_mem_decimal]) (by simp)

/-- The CPUs that an item of a CPU list stands for, `n` or `lo-hi`. -/
def cpuItem (item : Text) : List Nat :=
  match item.splitOn '-' with
  | [cpu] => [readDecimal cpu]
  | [lo, hi] => List.range' (readDecimal lo) (readDecimal hi + 1 - readDecimal lo)
  | _ => []

/-- The CPUs that a list such as `0-29,60` stands for. -/
def cpuList (text : Text) : List Nat := (commaWords text).flatMap cpuItem

theorem cpuList_of_item {item : Text} (comma : ',' ∉ item) (nonempty : item ≠ []) :
    cpuList item = cpuItem item := by
  have clean : ∀ w ∈ [item], ',' ∉ w ∧ w ≠ [] := by simpa using ⟨comma, nonempty⟩
  have words : commaWords item = [item] := by simpa using commaWords_intercalate clean
  rw [cpuList, words, List.flatMap_singleton]

theorem mem_cpuList_rangeText {lo hi cpu : Nat} :
    cpu ∈ cpuList (rangeText lo hi) ↔ lo ≤ cpu ∧ cpu ≤ hi := by
  rw [cpuList_of_item (not_mem_rangeText (by decide) (by decide)) (by simp [rangeText]), cpuItem,
    splitOn_rangeText]
  simp only [readDecimal_decimal, List.mem_range'_1]
  omega

theorem mem_cpuList_decimal {n cpu : Nat} : cpu ∈ cpuList (decimal n) ↔ cpu = n := by
  rw [cpuList_of_item (not_mem_decimal (by decide)) (decimal_ne_nil n), cpuItem,
    splitOn_of_not_mem (not_mem_decimal (by decide))]
  simp

/-- A line with a separator has a first field. -/
theorem exists_field {delim : Char} {line : Text} (inside : 0 < line.count delim) :
    ∃ first rest, line = first ++ delim :: rest ∧ delim ∉ first :=
  List.eq_append_cons_of_mem (List.count_pos_iff.mp inside)

theorem count_field {delim : Char} {first : Text} (clean : delim ∉ first) (rest : Text) :
    (first ++ delim :: rest).count delim = rest.count delim + 1 := by
  rw [List.count_append, List.count_eq_zero.mpr clean, List.count_cons_self, Nat.zero_add]

end KvmWorkload
