import Mathlib.Data.List.DropRight
import Mathlib.Data.List.Infix

/-! # Words of a line

The words of a line are its longest runs without blanks.  Stripping the line
and splitting it at runs of blanks gives them, and a word that is searched for
in the line is found in one of them.
-/

namespace KvmWorkload

section Words

variable {α : Type} (blank : α → Bool)

/-- The words between the blanks. -/
def wordsOf (line : List α) : List (List α) := (line.splitOnP blank).filter (· ≠ [])

/-- The pieces between runs of blanks.  A piece at either end may be empty. -/
def splitRuns : List α → List (List α)
  | [] => [[]]
  | c :: line =>
      if blank c then
        -- A blank in front of another one belongs to the same run.
        if line.head?.any blank then splitRuns line else [] :: splitRuns line
      else (splitRuns line).modifyHead (c :: ·)

/-- The line without the blanks at its end and at its start. -/
def trim (line : List α) : List α := (line.rdropWhile blank).dropWhile blank

variable {blank}

/-- A blank ends a word. -/
theorem wordsOf_append_cons {c : α} (isBlank : blank c = true) (line rest : List α) :
    wordsOf blank (line ++ c :: rest) = wordsOf blank line ++ wordsOf blank rest := by
  unfold wordsOf
  rw [List.splitOnP_append_cons _ _ isBlank, List.filter_append]

theorem wordsOf_cons_blank {c : α} (isBlank : blank c = true) (line : List α) :
    wordsOf blank (c :: line) = wordsOf blank line :=
  wordsOf_append_cons isBlank [] line

theorem wordsOf_blanks_append {blanks : List α} (all : ∀ c ∈ blanks, blank c = true) (line : List α) :
    wordsOf blank (blanks ++ line) = wordsOf blank line := by
  induction blanks with
  | nil => rfl
  | cons c blanks ih =>
      rw [List.forall_mem_cons] at all
      rw [List.cons_append, wordsOf_cons_blank all.1, ih all.2]

theorem wordsOf_append_blanks {blanks : List α} (all : ∀ c ∈ blanks, blank c = true) (line : List α) :
    wordsOf blank (line ++ blanks) = wordsOf blank line := by
  cases blanks with
  | nil => rw [List.append_nil]
  | cons c blanks =>
      rw [List.forall_mem_cons] at all
      have rest : wordsOf blank blanks = [] := by
        have none := wordsOf_blanks_append all.2 []
        rwa [List.append_nil] at none
      rw [wordsOf_append_cons all.1, rest, List.append_nil]

theorem wordsOf_trim (line : List α) : wordsOf blank (trim blank line) = wordsOf blank line := by
  have front : line.rdropWhile blank =
      (line.rdropWhile blank).takeWhile blank ++ trim blank line :=
    List.takeWhile_append_dropWhile.symm
  have back : line = line.rdropWhile blank ++ line.rtakeWhile blank :=
    (List.rdropWhile_append_rtakeWhile ..).symm
  calc wordsOf blank (trim blank line)
      = wordsOf blank ((line.rdropWhile blank).takeWhile blank ++ trim blank line) :=
        (wordsOf_blanks_append (fun c member => List.mem_takeWhile_imp member) _).symm
    _ = wordsOf blank (line.rdropWhile blank) := by rw [← front]
    _ = wordsOf blank (line.rdropWhile blank ++ line.rtakeWhile blank) :=
        (wordsOf_append_blanks (fun c member => List.mem_rtakeWhile_imp member) _).symm
    _ = wordsOf blank line := by rw [← back]

section Solid

variable {text : List α} (solid : ∀ c ∈ text, blank c = false)

include solid

theorem trim_of_solid : trim blank text = text := by
  have back : text.rdropWhile blank = text := by
    rw [List.rdropWhile_eq_self_iff]
    intro more last
    exact Bool.false_ne_true ((solid _ (List.getLast_mem more)).symm.trans last)
  rw [trim, back, List.dropWhile_eq_self_iff]
  intro more first
  exact Bool.false_ne_true ((solid _ (List.getElem_mem more)).symm.trans first)

theorem wordsOf_of_solid (more : text ≠ []) : wordsOf blank text = [text] := by
  rw [wordsOf, List.splitOnP_eq_singleton solid]
  simp [more]

/-- A blank behind a text without blanks is stripped. -/
theorem trim_append_blank {b : α} (isBlank : blank b = true) : trim blank (text ++ [b]) = text := by
  rw [trim, List.rdropWhile_concat_pos _ _ _ isBlank]
  exact trim_of_solid solid

theorem trim_blanks_append {blanks : List α} (all : ∀ c ∈ blanks, blank c = true) :
    trim blank (blanks ++ text) = text := by
  cases text with
  | nil =>
      rw [trim, List.append_nil, List.rdropWhile_eq_nil_iff.mpr all]
      rfl
  | cons c rest =>
      have back : (blanks ++ c :: rest).rdropWhile blank = blanks ++ c :: rest := by
        rw [List.rdropWhile_eq_self_iff]
        intro more last
        rw [List.getLast_append_of_right_ne_nil _ _ (List.cons_ne_nil _ _)] at last
        exact Bool.false_ne_true ((solid _ (List.getLast_mem _)).symm.trans last)
      rw [trim, back, List.dropWhile_append_of_pos all, List.dropWhile_cons_of_neg]
      rw [solid c List.mem_cons_self]
      exact Bool.false_ne_true

end Solid

theorem wordsOf_intercalate {sep : α} (isBlank : blank sep = true) {words : List (List α)}
    (solid : ∀ word ∈ words, word ≠ [] ∧ ∀ c ∈ word, blank c = false) :
    wordsOf blank ([sep].intercalate words) = words := by
  induction words with
  | nil => simp [wordsOf]
  | cons word rest ih =>
      obtain ⟨here, later⟩ := List.forall_mem_cons.mp solid
      cases rest with
      | nil => simpa using wordsOf_of_solid here.2 here.1
      | cons next rest =>
          rw [List.intercalate_cons_cons, List.append_assoc, List.singleton_append, wordsOf_append_cons isBlank,
            wordsOf_of_solid here.2 here.1, ih later]
          rfl

theorem splitRuns_splitOnP (blank : α → Bool) (line : List α) :
    ∃ first rest rest', splitRuns blank line = first :: rest ∧ line.splitOnP blank = first :: rest' ∧
      rest.filter (· ≠ []) = rest'.filter (· ≠ []) := by
  induction line with
  | nil => exact ⟨[], [], [], rfl, rfl, rfl⟩
  | cons c line ih =>
      obtain ⟨first, rest, rest', runs, split, same⟩ := ih
      rw [List.splitOnP_cons_eq_if_modifyHead, split]
      by_cases isBlank : blank c
      · cases line with
        | nil => exact ⟨[], [[]], [[]], by simp [splitRuns, isBlank], by simp_all, rfl⟩
        | cons d more =>
            by_cases nextBlank : blank d
            · -- the first piece behind `c` is empty, and the run goes on
              rw [List.splitOnP_cons_eq_if_modifyHead, if_pos nextBlank] at split
              obtain ⟨rfl, -⟩ := List.cons.inj split
              refine ⟨[], rest, [] :: rest', ?_, by simp [isBlank], by simpa using same⟩
              rw [← runs, splitRuns]
              simp [isBlank, nextBlank]
            · refine ⟨[], first :: rest, first :: rest', ?_, by simp [isBlank], ?_⟩
              · rw [← runs, splitRuns]
                simp [isBlank, nextBlank]
              · rw [List.filter_cons, List.filter_cons, same]
      · refine ⟨c :: first, rest, rest', ?_, by simp [isBlank], same⟩
        rw [splitRuns, if_neg isBlank, runs, List.modifyHead_cons]

theorem filter_splitRuns (line : List α) :
    (splitRuns blank line).filter (· ≠ []) = wordsOf blank line := by
  obtain ⟨first, rest, rest', runs, split, same⟩ := splitRuns_splitOnP blank line
  rw [wordsOf, runs, split, List.filter_cons, List.filter_cons, same]

theorem splitRuns_cons_of_not {c : α} (word : blank c = false) (line : List α) :
    ∃ first rest, splitRuns blank (c :: line) = (c :: first) :: rest ∧
      splitRuns blank line = first :: rest := by
  obtain ⟨first, rest, -, runs, -⟩ := splitRuns_splitOnP blank line
  refine ⟨first, rest, ?_, runs⟩
  rw [splitRuns, word, runs]
  rfl

theorem blank_of_nil_mem_tail {line : List α} (member : [] ∈ (splitRuns blank line).tail) :
    ∃ c, line.getLast? = some c ∧ blank c = true := by
  induction line with
  | nil => cases member
  | cons c line ih =>
      have last : ∀ {d}, line.getLast? = some d → (c :: line).getLast? = some d := by
        intro d ends
        rw [List.getLast?_cons, ends]
        rfl
      cases isBlank : blank c with
      | false =>
          obtain ⟨first, rest, runs, runs'⟩ := splitRuns_cons_of_not isBlank line
          rw [runs] at member
          rw [runs'] at ih
          obtain ⟨d, ends, holds⟩ := ih member
          exact ⟨d, last ends, holds⟩
      | true =>
          cases line with
          | nil => exact ⟨c, rfl, isBlank⟩
          | cons d more =>
              suffices later : [] ∈ (splitRuns blank (d :: more)).tail by
                obtain ⟨d, ends, holds⟩ := ih later
                exact ⟨d, last ends, holds⟩
              rw [splitRuns, if_pos isBlank] at member
              rw [List.head?_cons, Option.any_some] at member
              cases nextBlank : blank d with
              | true => rwa [if_pos nextBlank] at member
              | false =>
                  obtain ⟨first, rest, runs, -⟩ := splitRuns_cons_of_not nextBlank more
                  rw [if_neg (by simp [nextBlank]), runs] at member
                  rw [runs]
                  simpa using member

theorem blank_head_trim {line : List α} {c : α} (head : (trim blank line).head? = some c) :
    blank c = false := by
  have stops := List.head?_dropWhile_not blank (line.rdropWhile blank)
  unfold trim at head
  rw [head] at stops
  exact stops

theorem blank_getLast_trim {line : List α} {c : α} (last : (trim blank line).getLast? = some c) :
    blank c = false := by
  have suffix : trim blank line <:+ line.rdropWhile blank := List.dropWhile_suffix _
  obtain ⟨front, whole⟩ := suffix
  have ends : (line.rdropWhile blank).getLast? = some c := by
    rw [← whole, List.getLast?_append, last]
    rfl
  have more : line.rdropWhile blank ≠ [] := by
    intro empty
    rw [empty] at ends
    cases ends
  have stops := List.rdropWhile_last_not blank line more
  rw [List.getLast?_eq_some_getLast more] at ends
  cases ends
  exact eq_false_of_ne_true stops

theorem splitRuns_trim {line : List α} (some_word : wordsOf blank line ≠ []) :
    splitRuns blank (trim blank line) = wordsOf blank line := by
  have full : [] ∉ splitRuns blank (trim blank line) := by
    intro member
    cases stripped : trim blank line with
    | nil =>
        apply some_word
        rw [← wordsOf_trim, stripped]
        rfl
    | cons c rest =>
        have start : blank c = false := blank_head_trim (by rw [stripped]; rfl)
        obtain ⟨first, later, runs, -⟩ := splitRuns_cons_of_not start rest
        rw [stripped, runs] at member
        have tail : [] ∈ (splitRuns blank (trim blank line)).tail := by
          rw [stripped, runs]
          simpa using member
        obtain ⟨d, ends, holds⟩ := blank_of_nil_mem_tail tail
        rw [blank_getLast_trim ends] at holds
        cases holds
  rw [← wordsOf_trim, ← filter_splitRuns]
  symm
  apply List.filter_eq_self.mpr
  intro piece member
  have more : piece ≠ [] := ne_of_mem_of_not_mem member full
  simpa using more

theorem prefix_iff_of_splitOnP {pat line first : List α} {rest : List (List α)}
    (clean : ∀ c ∈ pat, blank c = false) (split : line.splitOnP blank = first :: rest) :
    pat <+: line ↔ pat <+: first := by
  induction line generalizing pat first rest with
  | nil =>
      cases split
      rfl
  | cons c line ih =>
      cases pat with
      | nil => simp
      | cons d pat =>
          rw [List.forall_mem_cons] at clean
          rw [List.splitOnP_cons_eq_if_modifyHead] at split
          split_ifs at split with isBlank
          · cases split
            simp only [List.cons_prefix_cons, List.prefix_nil, reduceCtorEq, iff_false, not_and]
            rintro rfl
            rw [clean.1] at isBlank
            cases isBlank
          · obtain ⟨first', rest', split'⟩ := List.exists_cons_of_ne_nil (List.splitOnP_ne_nil blank line)
            rw [split', List.modifyHead_cons] at split
            cases split
            rw [List.cons_prefix_cons, List.cons_prefix_cons, ih clean.2 split']

theorem infix_iff_exists_piece {pat : List α} (more : pat ≠ []) (clean : ∀ c ∈ pat, blank c = false)
    (line : List α) : pat <:+: line ↔ ∃ piece ∈ line.splitOnP blank, pat <:+: piece := by
  induction line with
  | nil => simp
  | cons c line ih =>
      obtain ⟨first, rest, split⟩ := List.exists_cons_of_ne_nil (List.splitOnP_ne_nil blank line)
      have split' := List.splitOnP_cons_eq_if_modifyHead (p := blank) c line
      rw [split] at split' ih
      rw [List.infix_cons_iff, ih]
      by_cases isBlank : blank c
      · rw [if_pos isBlank] at split'
        rw [prefix_iff_of_splitOnP clean split', split']
        simp [more]
      · rw [if_neg isBlank, List.modifyHead_cons] at split'
        rw [prefix_iff_of_splitOnP clean split', split']
        simp only [List.exists_mem_cons_iff, List.infix_cons_iff]
        rw [or_assoc]

theorem infix_iff_exists_word {pat : List α} (more : pat ≠ []) (clean : ∀ c ∈ pat, blank c = false)
    (line : List α) : pat <:+: line ↔ ∃ word ∈ wordsOf blank line, pat <:+: word := by
  rw [infix_iff_exists_piece more clean]
  unfold wordsOf
  constructor
  · rintro ⟨piece, member, found⟩
    refine ⟨piece, List.mem_filter.mpr ⟨member, ?_⟩, found⟩
    have filled : piece ≠ [] := by
      rintro rfl
      exact more (List.infix_nil.mp found)
    simpa using filled
  · rintro ⟨word, member, found⟩
    exact ⟨word, (List.mem_filter.mp member).1, found⟩

end Words

end KvmWorkload
