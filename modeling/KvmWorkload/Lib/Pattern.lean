import KvmWorkload.Lib.Decimal
import Mathlib.Data.List.Basic
import Mathlib.Data.List.Forall2

/-! # Regular expressions that are searched for

The fragment made of single characters, character classes and greedy repetitions
`+`, with numbered groups.  A repetition takes as many characters as it can and
gives them back one by one; a search tries the positions of the text from the left.
-/

namespace KvmWorkload.Pattern

/-- A piece takes one character of its class, or one or more of them; what it takes belongs to the
    group it stands in. -/
inductive Piece where
  | one (group : Option Nat) (accepts : Char → Bool)
  | plus (group : Option Nat) (accepts : Char → Bool)

def Piece.accepts : Piece → Char → Bool
  | .one _ accepts => accepts
  | .plus _ accepts => accepts

/-- What the pieces of groups took, from the left. -/
abbrev Captures := List (Nat × Text)

/-- `match.group(n)`. -/
def Captures.group (captures : Captures) (n : Nat) : Text :=
  (captures.filter fun taken => taken.1 = n).flatMap Prod.snd

def capture (group : Option Nat) (text : Text) (captures : Captures) : Captures :=
  match group with
  | some n => (n, text) :: captures
  | none => captures

/-- The first of the lengths `n`, `n - 1`, .., 1 behind which the rest matches. -/
def giveBack (next : Text → Option Captures) (group : Option Nat) (text : Text) : Nat → Option Captures
  | 0 => none
  | n + 1 =>
      match next (text.drop (n + 1)) with
      | some captures => some (capture group (text.take (n + 1)) captures)
      | none => giveBack next group text n

/-- `re.match`: a match at the start of the text. -/
def matchHere : List Piece → Text → Option Captures
  | [], _ => some []
  | .one _ _ :: _, [] => none
  | .one group accepts :: pieces, c :: text =>
      if accepts c then (matchHere pieces text).map (capture group [c]) else none
  | .plus group accepts :: pieces, text =>
      giveBack (matchHere pieces) group text (text.takeWhile accepts).length

/-- `re.search`: the first position at which the pieces match. -/
def search (pieces : List Piece) : Text → Option Captures
  | [] => matchHere pieces []
  | c :: text =>
      match matchHere pieces (c :: text) with
      | some captures => some captures
      | none => search pieces text

/-- A character that stands for itself, and the dot for any character of the line. -/
def char (c : Char) : Piece := .one none fun d => if c = '.' then d ≠ '\n' else d = c

def chars (text : Text) : List Piece := text.map char

@[simp] theorem group_nil (n : Nat) : Captures.group [] n = [] := rfl

@[simp] theorem group_cons (m n : Nat) (text : Text) (captures : Captures) :
    Captures.group ((m, text) :: captures) n = (if m = n then text else []) ++ captures.group n := by
  by_cases same : m = n <;> simp [Captures.group, same]

variable {pieces : List Piece} {group : Option Nat} {accepts : Char → Bool} {text rest : Text}
  {captures : Captures} {piece : Piece}

theorem matchHere_one {c : Char} (accepted : accepts c = true) :
    matchHere (.one group accepts :: pieces) (c :: text) = (matchHere pieces text).map (capture group [c]) := by
  rw [matchHere, if_pos accepted]

/-- A repetition takes the whole run when the rest matches behind it. -/
theorem matchHere_plus {run : Text} (more : run ≠ []) (accepted : ∀ c ∈ run, accepts c = true)
    (stops : ∀ c ∈ rest.head?, accepts c = false) (matched : matchHere pieces rest = some captures) :
    matchHere (.plus group accepts :: pieces) (run ++ rest) = some (capture group run captures) := by
  have longest : (run ++ rest).takeWhile accepts = run := by
    rw [List.takeWhile_append_of_pos accepted]
    cases rest with
    | nil => simp
    | cons c rest => rw [List.takeWhile_cons_of_neg (by simp [stops c rfl]), List.append_nil]
  obtain ⟨n, length⟩ := Nat.exists_eq_succ_of_ne_zero (mt List.length_eq_zero_iff.mp more)
  rw [matchHere, longest, length, giveBack, ← Nat.succ_eq_add_one, ← length, List.drop_left, List.take_left, matched]

theorem accepts_char_self (c : Char) : (char c).accepts c = true := by
  by_cases dot : c = '.'
  · subst dot
    rfl
  · simp [char, Piece.accepts, dot]

theorem matchHere_char (c : Char) : matchHere (char c :: pieces) (c :: text) = matchHere pieces text := by
  change matchHere (.one none (char c).accepts :: pieces) (c :: text) = _
  rw [matchHere_one (accepts_char_self c)]
  cases matchHere pieces text with
  | none => rfl
  | some captures => rfl

theorem matchHere_chars (word : Text) : matchHere (chars word ++ pieces) (word ++ rest) = matchHere pieces rest := by
  induction word with
  | nil => rfl
  | cons c word ih =>
      change matchHere (char c :: (chars word ++ pieces)) (c :: (word ++ rest)) = _
      rw [matchHere_char, ih]

theorem search_of_match (matched : matchHere pieces text = some captures) : search pieces text = some captures := by
  cases text with
  | nil => exact matched
  | cons c text => rw [search, matched]

theorem matchHere_none_of_head {c : Char} (refused : piece.accepts c = false) :
    matchHere (piece :: pieces) (c :: text) = none := by
  cases piece with
  | one group accepts => rw [matchHere, if_neg (by simpa [Piece.accepts] using refused)]
  | plus group accepts =>
      rw [matchHere, List.takeWhile_cons_of_neg (by simpa [Piece.accepts] using refused)]
      rfl

theorem search_skip {skipped : Text} (refused : ∀ c ∈ skipped, piece.accepts c = false) :
    search (piece :: pieces) (skipped ++ text) = search (piece :: pieces) text := by
  induction skipped with
  | nil => rfl
  | cons c skipped ih =>
      rw [List.forall_mem_cons] at refused
      rw [List.cons_append, search, matchHere_none_of_head refused.1]
      exact ih refused.2

theorem exists_of_giveBack {next : Text → Option Captures} {n : Nat}
    (matched : giveBack next group text n = some captures) :
    ∃ k, 1 ≤ k ∧ k ≤ n ∧ ∃ captures', next (text.drop k) = some captures' := by
  induction n with
  | zero => cases matched
  | succ n ih =>
      rw [giveBack] at matched
      split at matched
      next captures' found => exact ⟨n + 1, by omega, Nat.le_refl _, captures', found⟩
      next =>
        obtain ⟨k, positive, below, found⟩ := ih matched
        exact ⟨k, positive, by omega, found⟩

theorem exists_of_matchHere_one (matched : matchHere (.one group accepts :: pieces) text = some captures) :
    ∃ c rest captures', text = c :: rest ∧ accepts c = true ∧ matchHere pieces rest = some captures' := by
  cases text with
  | nil => cases matched
  | cons c text =>
      rw [matchHere] at matched
      split at matched
      next accepted =>
        obtain ⟨captures', found, -⟩ := Option.map_eq_some_iff.mp matched
        exact ⟨c, text, captures', rfl, accepted, found⟩
      next => cases matched

theorem exists_of_matchHere_cons (matched : matchHere (piece :: pieces) text = some captures) :
    ∃ c taken rest captures', text = c :: (taken ++ rest) ∧ piece.accepts c = true ∧
      matchHere pieces rest = some captures' := by
  cases piece with
  | one group accepts =>
      obtain ⟨c, rest, captures', rfl, accepted, found⟩ := exists_of_matchHere_one matched
      exact ⟨c, [], rest, captures', rfl, accepted, found⟩
  | plus group accepts =>
      rw [matchHere] at matched
      obtain ⟨k, positive, below, captures', found⟩ := exists_of_giveBack matched
      cases text with
      | nil => simp at below; omega
      | cons c text =>
          have accepted : accepts c = true := by
            by_contra refused
            rw [List.takeWhile_cons_of_neg refused] at below
            simp at below
            omega
          obtain ⟨k, rfl⟩ := Nat.exists_eq_add_of_le' positive
          exact ⟨c, text.take k, text.drop k, captures', by rw [List.take_append_drop], accepted, found⟩

theorem exists_mem_of_matchHere (matched : matchHere pieces text = some captures) (member : piece ∈ pieces) :
    ∃ c ∈ text, piece.accepts c = true := by
  induction pieces generalizing text captures with
  | nil => cases member
  | cons first pieces ih =>
      obtain ⟨c, taken, rest, captures', rfl, accepted, behind⟩ := exists_of_matchHere_cons matched
      rcases List.mem_cons.mp member with rfl | later
      · exact ⟨c, List.mem_cons_self, accepted⟩
      · obtain ⟨d, inside, found⟩ := ih behind later
        exact ⟨d, List.mem_cons_of_mem _ (List.mem_append_right _ inside), found⟩

theorem exists_of_search (found : search pieces text = some captures) :
    ∃ front rest, text = front ++ rest ∧ matchHere pieces rest = some captures := by
  induction text with
  | nil => exact ⟨[], [], rfl, found⟩
  | cons c text ih =>
      rw [search] at found
      split at found
      next captures' matched =>
        cases found
        exact ⟨[], c :: text, rfl, matched⟩
      next =>
        obtain ⟨front, rest, rfl, matched⟩ := ih found
        exact ⟨c :: front, rest, rfl, matched⟩

theorem search_none_of_refused (member : piece ∈ pieces) (refused : ∀ c ∈ text, piece.accepts c = false) :
    search pieces text = none := by
  rw [Option.eq_none_iff_forall_ne_some]
  intro captures found
  obtain ⟨front, rest, rfl, matched⟩ := exists_of_search found
  obtain ⟨c, inside, accepted⟩ := exists_mem_of_matchHere matched member
  rw [refused c (List.mem_append_right _ inside)] at accepted
  cases accepted

theorem accepts_char {c d : Char} (letter : c ≠ '.') : (char c).accepts d = true ↔ d = c := by
  simp [char, Piece.accepts, letter]

/-- A text without a letter of the pattern does not match. -/
theorem search_none_of_not_mem {c : Char} (letter : c ≠ '.') (member : char c ∈ pieces) (absent : c ∉ text) :
    search pieces text = none := by
  refine search_none_of_refused member fun d inside => ?_
  rw [← Bool.not_eq_true, accepts_char letter]
  rintro rfl
  exact absent inside

theorem exists_of_matchHere_chars {word : Text} (matched : matchHere (chars word ++ pieces) text = some captures) :
    ∃ taken rest captures', text = taken ++ rest ∧ taken.length = word.length ∧
      (∀ c ∈ word.head?, c ≠ '.' → taken.head? = some c) ∧ matchHere pieces rest = some captures' := by
  induction word generalizing text captures with
  | nil => exact ⟨[], text, captures, rfl, rfl, by simp, matched⟩
  | cons c word ih =>
      obtain ⟨d, behind, captures', rfl, accepted, matched'⟩ := exists_of_matchHere_one matched
      obtain ⟨taken, rest, captures'', rfl, length, -, found⟩ := ih matched'
      refine ⟨d :: taken, rest, captures'', rfl, by rw [List.length_cons, length, List.length_cons], ?_, found⟩
      rintro _ ⟨⟩ letter
      have same : d = c := (accepts_char letter).mp accepted
      rw [same, List.head?_cons]

theorem head?_of_search_mark {mark : Char} (letter : mark ≠ '.') {word before word' after : Text}
    (found : search (chars word ++ char mark :: pieces) (before ++ word' ++ mark :: after) = some captures)
    (length : word'.length = word.length) (absent : mark ∉ before ++ word') (absent' : mark ∉ after) :
    ∀ c ∈ word.head?, c ≠ '.' → word'.head? = some c := by
  obtain ⟨front, behind, split, matched⟩ := exists_of_search found
  obtain ⟨taken, rest, captures', rfl, taken_length, head, matched'⟩ := exists_of_matchHere_chars matched
  obtain ⟨d, last, captures'', rfl, accepted, -⟩ := exists_of_matchHere_one matched'
  obtain rfl : d = mark := (accepts_char letter).mp accepted
  rw [← List.append_assoc, List.append_cons_inj_of_notMem absent absent'] at split
  have same : word' = taken := List.append_inj_right' split.1 (by rw [length, taken_length])
  rw [same]
  exact head

end KvmWorkload.Pattern
