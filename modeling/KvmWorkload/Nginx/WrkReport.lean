import KvmWorkload.Nginx.WrkStat
import Mathlib.Algebra.Order.Field.Rat
import Mathlib.Tactic.NormNum

/-! # What the two functions read of a report

A report is given by the lines the functions look for, with any other lines
between them.  Each of these lines is matched by its own expression and by none
that is tried before it, so that the variables behind the loop are known for every
report; what is then returned is compared with the latencies in milliseconds and
the requests per second.
-/

namespace KvmWorkload.Nginx

open Pattern

variable {α : Type}

inductive TimeUnit where
  | us
  | ms
  | s
  | m
  deriving DecidableEq

namespace TimeUnit

def text : TimeUnit → Text
  | .us => ['u', 's']
  | .ms => ['m', 's']
  | .s => ['s']
  | .m => ['m']

/-- The unit in milliseconds. -/
def inMs : TimeUnit → ℚ
  | .us => 1 / 1000
  | .ms => 1
  | .s => 1000
  | .m => 60000

end TimeUnit

/-- A latency as it is printed, `digits.digits` and a unit. -/
structure Latency where
  whole : Numeral
  frac : Numeral
  unit : TimeUnit

namespace Latency

def number (l : Latency) : Text := l.whole.digits ++ '.' :: l.frac.digits

def value (l : Latency) : ℚ := l.whole.value + l.frac.value / 10 ^ l.frac.digits.length

/-- The latency in milliseconds. -/
def inMs (l : Latency) : ℚ := l.value * l.unit.inMs

end Latency

/-- A line of the latency distribution; the tag that names its percentile is the tool's. -/
structure PercentileLine where
  indent : Text
  gap : Text
  latency : Latency
  indent_blank : ∀ c ∈ indent, isSpace c = true
  gap_blank : ∀ c ∈ gap, isSpace c = true
  gap_nonempty : gap ≠ []

def PercentileLine.text (line : PercentileLine) (tag : Text) : Text :=
  line.indent ++ tag ++ '%' :: (line.gap ++ (line.latency.number ++ (line.latency.unit.text ++ ['\n'])))

/-- A line with the number of requests; behind it stand the duration and what was read. -/
structure RequestsLine where
  indent : Text
  requests : Nat
  rest : Text
  indent_blank : ∀ c ∈ indent, isSpace c = true
  rest_clean : '%' ∉ rest ∧ 'c' ∉ rest

def RequestsLine.text (line : RequestsLine) : Text :=
  line.indent ++ (decimal line.requests ++ (" requests in".toList ++ line.rest))

structure ConnectionsLine where
  indent : Text
  threads : Nat
  connections : Nat
  indent_blank : ∀ c ∈ indent, isSpace c = true

def ConnectionsLine.text (line : ConnectionsLine) : Text :=
  line.indent ++ (decimal line.threads ++ (" threads and ".toList ++
    (decimal line.connections ++ (" connections".toList ++ ['\n']))))

/-- Lines that none of the expressions common to both functions matches. -/
structure Others (tool : Tool α) where
  lines : List Text
  other : ∀ line ∈ lines, ∀ test ∈ tool.common, search test.pattern line = none

/-- A report of a tool, in the order in which it is printed. -/
structure Report (tool : Tool α) where
  connections : ConnectionsLine
  percentile : Percentile → PercentileLine
  requests : RequestsLine
  head : Others tool
  stats : Others tool
  upTo75 : Others tool
  upTo99 : Others tool
  upToRequests : Others tool
  tail : Others tool

def Report.lines {tool : Tool α} (r : Report tool) : List Text :=
  r.head.lines ++ [r.connections.text] ++ r.stats.lines ++ [(r.percentile .p50).text (tool.tag .p50)] ++
    r.upTo75.lines ++ [(r.percentile .p75).text (tool.tag .p75)] ++
    r.upTo99.lines ++ [(r.percentile .p99).text (tool.tag .p99)] ++
    r.upToRequests.lines ++ [r.requests.text] ++ r.tail.lines

/-- Letters and other characters that are in no number and in no gap. -/
def isLetter (c : Char) : Bool := !isSpace c && !c.isDigit && c ≠ '%' && c ≠ '.'

theorem not_mem_blank {text : Text} (blank : ∀ c ∈ text, isSpace c = true) {c : Char} (solid : isSpace c = false) :
    c ∉ text := fun inside => Bool.false_ne_true (solid.symm.trans (blank c inside))

theorem not_mem_digits (n : Numeral) {c : Char} (other : c.isDigit = false) : c ∉ n.digits :=
  fun inside => Bool.false_ne_true (other.symm.trans (n.isDigit c inside))

/-- What the tags of a tool have in common. -/
structure Tool.Tagged (tool : Tool α) : Prop where
  length : ∀ p q, (tool.tag p).length = (tool.tag q).length
  head : ∀ p, ∃ c ∈ (tool.tag p).head?, c.isDigit = true
  apart : ∀ p q, (tool.tag p).head? = (tool.tag q).head? → p = q
  plain : ∀ p, (tool.tag p).all (fun c => c.isDigit || c == '.') = true

theorem wrk_tagged : wrk.Tagged where
  length p q := by cases p <;> cases q <;> rfl
  head p := by cases p <;> exact ⟨_, rfl, rfl⟩
  apart p q := by cases p <;> cases q <;> decide
  plain p := by cases p <;> rfl

theorem wrk2_tagged : wrk2.Tagged where
  length p q := by cases p <;> cases q <;> rfl
  head p := by cases p <;> exact ⟨_, rfl, rfl⟩
  apart p q := by cases p <;> cases q <;> decide
  plain p := by cases p <;> rfl

section Percentiles

variable {tool : Tool α} (tagged : tool.Tagged) (line : PercentileLine) (p : Percentile)

include tagged

theorem not_mem_tag {c : Char} (digit : c.isDigit = false) (dot : c ≠ '.') : c ∉ tool.tag p := by
  intro inside
  have plain := List.all_eq_true.mp (tagged.plain p) c inside
  rw [digit, Bool.false_or, beq_iff_eq] at plain
  exact dot plain

omit tagged in
theorem percent_not_mem_behind :
    '%' ∉ line.gap ++ (line.latency.number ++ (line.latency.unit.text ++ ['\n'])) := by
  have unit : '%' ∉ line.latency.unit.text := by
    cases line.latency.unit <;> decide
  simp only [Latency.number, List.mem_append, List.mem_cons, not_or]
  exact ⟨not_mem_blank line.gap_blank rfl, ⟨not_mem_digits _ rfl, by decide, not_mem_digits _ rfl⟩, unit, by decide,
    List.not_mem_nil⟩

theorem letter_not_mem_text {c : Char} (letter : isLetter c = true) (unit : c ∉ line.latency.unit.text) :
    c ∉ line.text (tool.tag p) := by
  simp only [isLetter, Bool.and_eq_true, Bool.not_eq_true', decide_eq_true_eq] at letter
  obtain ⟨⟨⟨solid, digit⟩, percent⟩, dot⟩ := letter
  have newline : c ≠ '\n' := by
    rintro rfl
    cases solid
  simp only [PercentileLine.text, Latency.number, List.mem_append, List.mem_cons, not_or]
  exact ⟨⟨not_mem_blank line.indent_blank solid, not_mem_tag tagged p digit dot⟩, percent,
    not_mem_blank line.gap_blank solid, ⟨not_mem_digits _ digit, dot, not_mem_digits _ digit⟩, unit, newline,
    List.not_mem_nil⟩

theorem search_other {q : Percentile} (differ : q ≠ p) :
    search (percentilePattern (tool.tag q) tool.unit) (line.text (tool.tag p)) = none := by
  rw [Option.eq_none_iff_forall_ne_some]
  intro found matched
  have absent : '%' ∉ line.indent ++ tool.tag p := by
    rw [List.mem_append, not_or]
    exact ⟨not_mem_blank line.indent_blank rfl, not_mem_tag tagged p rfl (by decide)⟩
  obtain ⟨c, first, digit⟩ := tagged.head q
  have notDot : c ≠ '.' := by
    rintro rfl
    cases digit
  have head := head?_of_search_mark (by decide) matched (tagged.length p q) absent (percent_not_mem_behind line) c
    first notDot
  exact differ (tagged.apart q p (first.trans head.symm))

theorem search_connections_percentile : search connectionsPattern (line.text (tool.tag p)) = none := by
  refine search_none_of_not_mem (c := 't') (by decide) ?_ (letter_not_mem_text tagged line p rfl ?_)
  · exact List.mem_cons_of_mem _ (List.mem_append_left _ (List.mem_map_of_mem (by decide)))
  · cases line.latency.unit <;> decide

theorem search_requests_percentile : search requestsPattern (line.text (tool.tag p)) = none := by
  refine search_none_of_not_mem (c := 'q') (by decide) ?_ (letter_not_mem_text tagged line p rfl ?_)
  · exact List.mem_cons_of_mem _ (List.mem_map_of_mem (by decide))
  · cases line.latency.unit <;> decide

end Percentiles

theorem stops_of_digit {n : Numeral} {rest : Text} : ∀ c ∈ (n.digits ++ rest).head?, isSpace c = false := by
  intro c first
  rw [List.head?_append_of_ne_nil _ n.nonempty] at first
  exact isSpace_of_isDigit (n.isDigit c (List.mem_of_mem_head? first))

theorem search_percentile (line : PercentileLine) {tag : Text} (head : ∃ c ∈ tag.head?, c.isDigit = true)
    {unit : List Piece} {captures : Captures}
    (matched : matchHere unit (line.latency.unit.text ++ ['\n']) = some captures) :
    search (percentilePattern tag unit) (line.text tag) =
      some ((1, line.latency.whole.digits) :: (1, ['.']) :: (1, line.latency.frac.digits) :: captures) := by
  obtain ⟨c, first, digit⟩ := head
  have skipped : search (percentilePattern tag unit) (line.text tag) = search (percentilePattern tag unit)
      (tag ++ '%' :: (line.gap ++ (line.latency.number ++ (line.latency.unit.text ++ ['\n'])))) := by
    cases tag with
    | nil => cases first
    | cons d tag =>
        cases first
        rw [PercentileLine.text, List.append_assoc]
        refine search_skip fun blank inside => ?_
        rw [← Bool.not_eq_true, accepts_char (by rintro rfl; cases digit)]
        rintro rfl
        exact Bool.false_ne_true ((isSpace_of_isDigit digit).symm.trans (line.indent_blank _ inside))
  have unit_stops : ∀ c ∈ (line.latency.unit.text ++ ['\n']).head?, c.isDigit = false := by
    cases line.latency.unit <;> rintro _ ⟨⟩ <;> rfl
  rw [skipped]
  apply search_of_match
  rw [percentilePattern, matchHere_chars, matchHere_char]
  refine matchHere_plus line.gap_nonempty line.gap_blank ?_ ?_
  · rw [Latency.number, List.append_assoc]
    exact stops_of_digit
  rw [Latency.number, List.append_assoc, List.cons_append]
  refine matchHere_plus line.latency.whole.nonempty line.latency.whole.isDigit (by rintro _ ⟨⟩; rfl) ?_
  rw [matchHere_one (by decide), matchHere_plus line.latency.frac.nonempty line.latency.frac.isDigit unit_stops matched]
  rfl

theorem search_indented {indent : Text} (blank : ∀ c ∈ indent, isSpace c = true) {group : Option Nat}
    {pieces : List Piece} {text : Text} {captures : Captures}
    (matched : matchHere (.plus group Char.isDigit :: pieces) text = some captures) :
    search (.plus group Char.isDigit :: pieces) (indent ++ text) = some captures := by
  rw [search_skip, search_of_match matched]
  intro c inside
  change c.isDigit = false
  rw [← Bool.not_eq_true]
  intro digit
  exact Bool.false_ne_true ((isSpace_of_isDigit digit).symm.trans (blank c inside))

theorem matchHere_decimal {n g : Nat} {pieces : List Piece} {rest : Text} {captures : Captures}
    (stops : ∀ c ∈ rest.head?, c.isDigit = false) (matched : matchHere pieces rest = some captures) :
    matchHere (.plus (some g) Char.isDigit :: pieces) (decimal n ++ rest) = some ((g, decimal n) :: captures) :=
  matchHere_plus (decimal_ne_nil n) (fun _ => isDigit_of_mem_decimal) stops matched

theorem search_connections (line : ConnectionsLine) :
    search connectionsPattern line.text = some [(1, decimal line.threads), (2, decimal line.connections)] := by
  refine search_indented line.indent_blank (matchHere_decimal (by rintro _ ⟨⟩; rfl) ?_)
  rw [matchHere_chars]
  refine matchHere_decimal (by rintro _ ⟨⟩; rfl) ?_
  rw [← List.append_nil (chars " connections".toList), matchHere_chars]
  rfl

theorem search_requests (line : RequestsLine) :
    search requestsPattern line.text = some [(1, decimal line.requests)] := by
  refine search_indented line.indent_blank (matchHere_decimal (by rintro _ ⟨⟩; rfl) ?_)
  rw [← List.append_nil (chars " requests in".toList), matchHere_chars]
  rfl

theorem not_mem_requests (line : RequestsLine) {c : Char} (solid : isSpace c = false) (digit : c.isDigit = false)
    (word : c ∉ " requests in".toList) (rest : c ∉ line.rest) : c ∉ line.text := by
  simp only [RequestsLine.text, List.mem_append, not_or]
  exact ⟨not_mem_blank line.indent_blank solid, not_mem_digits (.ofNat _) digit, word, rest⟩

theorem search_connections_requests (line : RequestsLine) : search connectionsPattern line.text = none := by
  refine search_none_of_not_mem (c := 'c') (by decide) ?_
    (not_mem_requests line rfl rfl (by decide) line.rest_clean.2)
  exact List.mem_cons_of_mem _ (List.mem_append_right _ (List.mem_cons_of_mem _ (List.mem_map_of_mem (by decide))))

theorem search_percentile_requests (line : RequestsLine) (tag : Text) (unit : List Piece) :
    search (percentilePattern tag unit) line.text = none :=
  search_none_of_not_mem (by decide) (List.mem_append_right _ List.mem_cons_self)
    (not_mem_requests line rfl rfl (by decide) line.rest_clean.1)

/-- What a tool takes from the lines of a latency. -/
structure Tool.Reads (tool : Tool α) (reads : Latency → Option α) : Prop where
  matched : ∀ p (line : PercentileLine) a, reads line.latency = some a →
    ∃ groups, search (tool.percentileTest p).pattern (line.text (tool.tag p)) = some groups ∧
      tool.value groups = .ok a
  refused : ∀ p (line : PercentileLine), reads line.latency = none →
    search (tool.percentileTest p).pattern (line.text (tool.tag p)) = none

/-- What the lines assign, whatever becomes of the timeouts. -/
def Tool.Assigns (tool : Tool α) (lines : List Text) (before after : Found α) : Prop :=
  ∀ t, ∃ t', lines.foldlM (scanLine tool.tests) ⟨before, t⟩ = .ok ⟨after, t'⟩

/-- Behind the common tests only the timeouts are looked for. -/
def Tool.Quiet (tool : Tool α) : Prop :=
  ∀ (found : Found α) (t i : Text), ∃ t', scanLine tool.more ⟨found, t⟩ i = .ok ⟨found, t'⟩

section Loop

variable {tool : Tool α} {found before between after : Found α} {lines rest : List Text} {line : Text}

theorem Tool.Assigns.append (first : tool.Assigns lines before between) (second : tool.Assigns rest between after) :
    tool.Assigns (lines ++ rest) before after := by
  intro t
  obtain ⟨t₁, run₁⟩ := first t
  obtain ⟨t₂, run₂⟩ := second t₁
  exact ⟨t₂, by rw [List.foldlM_append, run₁, except_ok_bind, run₂]⟩

theorem Tool.Assigns.of_scanLine
    (step : ∀ t, ∃ t', scanLine tool.tests ⟨before, t⟩ line = .ok ⟨after, t'⟩) : tool.Assigns [line] before after := by
  intro t
  obtain ⟨t', run⟩ := step t
  exact ⟨t', by rw [List.foldlM_cons, run]; rfl⟩

theorem assigns_connections (line : ConnectionsLine) (found : Found α) :
    tool.Assigns [line.text] found
      { found with thread := some (decimal line.threads), con := some (decimal line.connections) } := by
  refine .of_scanLine fun t => ⟨t, ?_⟩
  refine (scanLine_first connectionsTest (List.forall_mem_nil _) (search_connections line)).trans ?_
  simp [connectionsTest]

theorem assigns_requests (line : RequestsLine) (found : Found α) :
    tool.Assigns [line.text] found { found with total := some (decimal line.requests) } := by
  have refused : ∀ test ∈ [connectionsTest, tool.percentileTest .p50, tool.percentileTest .p75,
      tool.percentileTest .p99], search test.pattern line.text = none := by
    simp only [List.forall_mem_cons]
    exact ⟨search_connections_requests line, search_percentile_requests line _ _, search_percentile_requests line _ _,
      search_percentile_requests line _ _, List.forall_mem_nil _⟩
  refine .of_scanLine fun t => ⟨t, ?_⟩
  refine (scanLine_first requestsTest refused (search_requests line)).trans ?_
  simp [requestsTest]

theorem exists_tests_eq (tool : Tool α) (p : Percentile) :
    ∃ before after, tool.tests = before ++ tool.percentileTest p :: after ∧
      ∀ test ∈ before, test = connectionsTest ∨ ∃ q, q ≠ p ∧ test = tool.percentileTest q := by
  cases p with
  | p50 =>
      refine ⟨[connectionsTest], _, rfl, ?_⟩
      rw [List.forall_mem_cons]
      exact ⟨.inl rfl, List.forall_mem_nil _⟩
  | p75 =>
      refine ⟨[connectionsTest, tool.percentileTest .p50], _, rfl, ?_⟩
      rw [List.forall_mem_cons, List.forall_mem_cons]
      exact ⟨.inl rfl, .inr ⟨.p50, by decide, rfl⟩, List.forall_mem_nil _⟩
  | p99 =>
      refine ⟨[connectionsTest, tool.percentileTest .p50, tool.percentileTest .p75], _, rfl, ?_⟩
      rw [List.forall_mem_cons, List.forall_mem_cons, List.forall_mem_cons]
      exact ⟨.inl rfl, .inr ⟨.p50, by decide, rfl⟩, .inr ⟨.p75, by decide, rfl⟩, List.forall_mem_nil _⟩

variable (quiet : tool.Quiet)

include quiet

theorem assigns_other (refused : ∀ test ∈ tool.common, search test.pattern line = none) :
    tool.Assigns [line] found found := by
  refine .of_scanLine fun t => ?_
  rw [Tool.tests, scanLine_append refused]
  exact quiet found t line

theorem assigns_others (others : Others tool) : tool.Assigns others.lines found found := by
  obtain ⟨lines, refused⟩ := others
  induction lines with
  | nil => exact fun t => ⟨t, rfl⟩
  | cons line lines ih =>
      rw [List.forall_mem_cons] at refused
      exact (assigns_other quiet refused.1).append (ih refused.2)

variable (tagged : tool.Tagged) {reads : Latency → Option α} (takes : tool.Reads reads)

include tagged takes

omit quiet in
theorem assigns_matched {p : Percentile} {line : PercentileLine} {a : α} (read : reads line.latency = some a) :
    tool.Assigns [line.text (tool.tag p)] found
      { found with percentile := Function.update found.percentile p (some a) } := by
  obtain ⟨groups, matched, value⟩ := takes.matched p line a read
  obtain ⟨before, after, tests, kinds⟩ := exists_tests_eq tool p
  have refused : ∀ test ∈ before, search test.pattern (line.text (tool.tag p)) = none := by
    intro test inside
    rcases kinds test inside with rfl | ⟨q, differ, rfl⟩
    · exact search_connections_percentile tagged line p
    · exact search_other tagged line p differ
  refine .of_scanLine fun t => ⟨t, ?_⟩
  rw [tests, scanLine_first (tool.percentileTest p) refused matched]
  change (tool.value groups >>= _) = _
  rw [value]
  rfl

theorem assigns_refused {p : Percentile} {line : PercentileLine} (read : reads line.latency = none) :
    tool.Assigns [line.text (tool.tag p)] found found := by
  have refused : ∀ q, search (tool.percentileTest q).pattern (line.text (tool.tag p)) = none := by
    intro q
    by_cases same : q = p
    · rw [same]
      exact takes.refused p line read
    · exact search_other tagged line p same
  refine assigns_other quiet ?_
  simp only [Tool.common, List.forall_mem_cons]
  exact ⟨search_connections_percentile tagged line p, refused _, refused _, refused _,
    search_requests_percentile tagged line p, List.forall_mem_nil _⟩

theorem assigns_percentile (p : Percentile) (line : PercentileLine) (unbound : found.percentile p = none) :
    tool.Assigns [line.text (tool.tag p)] found
      { found with percentile := Function.update found.percentile p (reads line.latency) } := by
  cases read : reads line.latency with
  | some a => exact assigns_matched tagged takes read
  | none =>
      rw [← unbound, Function.update_eq_self]
      exact assigns_refused quiet tagged takes read

theorem scan_report (r : Report tool) :
    ∃ t, tool.scan r.lines = .ok ⟨{
      thread := some (decimal r.connections.threads)
      con := some (decimal r.connections.connections)
      percentile := fun p => reads (r.percentile p).latency
      total := some (decimal r.requests.requests) }, t⟩ := by
  have others : ∀ (others : Others tool) (found : Found α), tool.Assigns others.lines found found :=
    fun others _ => assigns_others quiet others
  have percentile : ∀ p (found : Found α), found.percentile p = none →
      tool.Assigns [(r.percentile p).text (tool.tag p)] found
        { found with percentile := Function.update found.percentile p (reads (r.percentile p).latency) } :=
    fun p _ => assigns_percentile quiet tagged takes p (r.percentile p)
  have upTo50 := ((others r.head .start).append (assigns_connections r.connections _)).append (others r.stats _)
  have upTo75 := (upTo50.append (percentile .p50 _ rfl)).append (others r.upTo75 _)
  have upTo99 := (upTo75.append (percentile .p75 _ rfl)).append (others r.upTo99 _)
  have upToRequests := (upTo99.append (percentile .p99 _ rfl)).append (others r.upToRequests _)
  obtain ⟨t, scanned⟩ := (upToRequests.append (assigns_requests r.requests _)).append (others r.tail _) ['0']
  refine ⟨t, scanned.trans ?_⟩
  have all : ∀ p, Function.update (Function.update (Function.update (fun _ => none) .p50
      (reads (r.percentile .p50).latency)) .p75 (reads (r.percentile .p75).latency)) .p99
      (reads (r.percentile .p99).latency) p = reads (r.percentile p).latency := by
    intro p
    cases p <;> rfl
  rw [← funext all]
  rfl

end Loop

theorem wrk_quiet : wrk.Quiet := fun _ t _ => ⟨t, rfl⟩

theorem wrk2_quiet : wrk2.Quiet := by
  intro found t i
  cases matched : search timeoutPattern i with
  | none =>
      have refused : ∀ test ∈ wrk2.more, search test.pattern i = none := List.forall_mem_singleton.mpr matched
      exact ⟨t, by rw [← List.append_nil wrk2.more, scanLine_append refused]; rfl⟩
  | some groups => exact ⟨groups.group 1, scanLine_first timeoutTest (List.forall_mem_nil _) matched⟩

theorem exists_missing {unit : TimeUnit} (other : unit ≠ .ms) : ∃ c ∈ ['m', 's'], c ∉ unit.text := by
  cases unit with
  | ms => exact absurd rfl other
  | us => exact ⟨'m', by decide, by decide⟩
  | s => exact ⟨'m', by decide, by decide⟩
  | m => exact ⟨'s', by decide, by decide⟩

/-- `get_wrk_stat` recognises milliseconds only. -/
def inMsOnly (l : Latency) : Option Text := if l.unit = .ms then some l.number else none

theorem wrk_reads : wrk.Reads inMsOnly where
  matched p line a read := by
    simp only [inMsOnly, Option.ite_none_right_eq_some, Option.some.injEq] at read
    obtain ⟨unit, rfl⟩ := read
    have matched : matchHere wrk.unit (line.latency.unit.text ++ ['\n']) = some [] := by
      rw [unit]
      rfl
    exact ⟨_, search_percentile line (wrk_tagged.head p) matched, by simp [wrk, Latency.number]⟩
  refused p line read := by
    have other : line.latency.unit ≠ .ms := by simpa [inMsOnly] using read
    obtain ⟨c, member, missing⟩ := exists_missing other
    have letter : isLetter c = true ∧ c ≠ '.' := by
      rcases List.mem_pair.mp member with rfl | rfl <;> decide
    refine search_none_of_not_mem letter.2 ?_ (letter_not_mem_text wrk_tagged line p letter.1 missing)
    have inside : char c ∈ wrk.unit := List.mem_map_of_mem member
    simp only [Tool.percentileTest, percentilePattern, List.mem_append, List.mem_cons]
    tauto

theorem splitOn_number (l : Latency) : l.number.splitOn '.' = [l.whole.digits, l.frac.digits] := by
  rw [Latency.number, List.splitOn_append_cons_self_of_not_mem (not_mem_digits _ rfl),
    splitOn_of_not_mem (not_mem_digits _ rfl)]

theorem all_isDigit (n : Numeral) : n.digits.all Char.isDigit = true := List.all_eq_true.mpr n.isDigit

theorem float_number (l : Latency) : float l.number = .ok l.value := by
  have digits : l.whole.digits ++ l.frac.digits ≠ [] ∧ (l.whole.digits ++ l.frac.digits).all Char.isDigit = true := by
    rw [List.all_append, all_isDigit, all_isDigit]
    exact ⟨List.append_ne_nil_of_left_ne_nil l.whole.nonempty _, rfl⟩
  rw [float, splitOn_number]
  exact if_pos digits

theorem float_decimal (n : Nat) : float (decimal n) = .ok n := by
  rw [float, splitOn_of_not_mem (not_mem_decimal rfl)]
  refine (if_pos ⟨decimal_ne_nil n, all_isDigit_decimal n⟩).trans ?_
  rw [readDecimal_decimal]

theorem mult_text (unit : TimeUnit) : mult unit.text = unit.inMs := by
  cases unit <;> simp [mult, TimeUnit.text, TimeUnit.inMs] <;> norm_num

theorem isWord_of_mem_unit (unit : TimeUnit) : ∀ c ∈ unit.text, isWord c = true := by
  apply List.all_eq_true.mp
  cases unit <;> rfl

theorem wrk2_reads : wrk2.Reads fun l => some l.inMs where
  matched p line a read := by
    cases read
    have more : line.latency.unit.text ≠ [] := by
      cases line.latency.unit <;> decide
    have matched : matchHere wrk2.unit (line.latency.unit.text ++ ['\n']) = some [(2, line.latency.unit.text)] :=
      matchHere_plus more (isWord_of_mem_unit _) (by rintro _ ⟨⟩; rfl) rfl
    refine ⟨_, search_percentile line (wrk2_tagged.head p) matched, ?_⟩
    have number : line.latency.whole.digits ++ ('.' :: line.latency.frac.digits) = line.latency.number := rfl
    simp [wrk2, number, float_number, mult_text, Latency.inMs, mul_comm]
  refused p line read := by cases read

/-- What may stand behind the number of a duration. -/
inductive DurationUnit where
  | plain
  | s
  | m
  | h
  deriving DecidableEq

namespace DurationUnit

def text : DurationUnit → Text
  | .plain => []
  | .s => ['s']
  | .m => ['m']
  | .h => ['h']

def inSeconds : DurationUnit → Nat
  | .plain => 1
  | .s => 1
  | .m => 60
  | .h => 3600

end DurationUnit

/-- The duration of a test as it is given to the tools. -/
structure Duration where
  amount : Numeral
  unit : DurationUnit
  positive : 0 < amount.value

namespace Duration

def text (d : Duration) : Text := d.amount.digits ++ d.unit.text

def seconds (d : Duration) : Nat := d.amount.value * d.unit.inSeconds

end Duration

/-- The numbers of a result. -/
structure Numbers where
  p50 : ℚ
  p75 : ℚ
  p99 : ℚ
  qps : ℚ

/-- The numbers in a line that `get_wrk_stat` returns. -/
def numbersOf (res : Text) : Except PyError Numbers :=
  match res.splitOn ',' with
  | [_, _, p50, p75, p99, qps] => do
      return { p50 := ← float p50, p75 := ← float p75, p99 := ← float p99, qps := ← float qps }
  | _ => .error .valueError

def Row.numbers (row : Row) : Numbers where
  p50 := row.p50
  p75 := row.p75
  p99 := row.p99
  qps := row.qps

/-- What a report says: its latencies in milliseconds and the requests per second. -/
def Report.numbers {tool : Tool α} (r : Report tool) (d : Duration) : Numbers where
  p50 := (r.percentile .p50).latency.inMs
  p75 := (r.percentile .p75).latency.inMs
  p99 := (r.percentile .p99).latency.inMs
  qps := r.requests.requests / d.seconds

theorem comma_not_mem_number (l : Latency) : ',' ∉ l.number := by
  simp only [Latency.number, List.mem_append, List.mem_cons, not_or]
  exact ⟨not_mem_digits _ rfl, by decide, not_mem_digits _ rfl⟩

/-- With every latency in milliseconds the result of `get_wrk_stat` has the latencies and the number of
    requests. -/
theorem getWrkStat_of_ms (r : Report wrk) (all_ms : ∀ p, (r.percentile p).latency.unit = .ms) :
    (getWrkStat r.lines).bind numbersOf = .ok {
      p50 := (r.percentile .p50).latency.value
      p75 := (r.percentile .p75).latency.value
      p99 := (r.percentile .p99).latency.value
      qps := r.requests.requests } := by
  obtain ⟨t, scanned⟩ := scan_report wrk_quiet wrk_tagged wrk_reads r
  have read : ∀ p, inMsOnly (r.percentile p).latency = some (r.percentile p).latency.number :=
    fun p => if_pos (all_ms p)
  let fields := [decimal r.connections.threads, decimal r.connections.connections,
    (r.percentile .p50).latency.number, (r.percentile .p75).latency.number, (r.percentile .p99).latency.number,
    decimal r.requests.requests]
  have result : getWrkStat r.lines = .ok ([','].intercalate fields) := by
    rw [getWrkStat, scanned, except_ok_bind]
    simp only [read]
    rfl
  have clean : ∀ field ∈ fields, ',' ∉ field := by
    simp only [fields, List.forall_mem_cons]
    exact ⟨not_mem_decimal rfl, not_mem_decimal rfl, comma_not_mem_number _, comma_not_mem_number _,
      comma_not_mem_number _, not_mem_decimal rfl, List.forall_mem_nil _⟩
  rw [result]
  change numbersOf _ = _
  rw [numbersOf, List.splitOn_intercalate ',' clean (by simp [fields])]
  simp only [fields, float_number, float_decimal]
  rfl

theorem mapM_bound {vars : List (Option Text)} (unbound : none ∈ vars) :
    vars.mapM bound = .error .unboundLocalError := by
  induction vars with
  | nil => cases unbound
  | cons var vars ih =>
      rw [List.mapM_cons]
      cases var with
      | none => rfl
      | some text =>
          rw [ih (by simpa using unbound)]
          rfl

theorem getWrkStat_of_other (r : Report wrk) {p : Percentile} (other : (r.percentile p).latency.unit ≠ .ms) :
    getWrkStat r.lines = .error .unboundLocalError := by
  obtain ⟨t, scanned⟩ := scan_report wrk_quiet wrk_tagged wrk_reads r
  have unbound : inMsOnly (r.percentile p).latency = none := if_neg other
  rw [getWrkStat, scanned, except_ok_bind]
  change (List.mapM bound _ >>= _) = _
  rw [mapM_bound]
  · rfl
  · rw [← unbound]
    cases p <;> simp

theorem int_digits (n : Numeral) : int n.digits = .ok n.value := by
  rw [int, readInt_of_isAlphanum n.nonempty fun c inside => isAlphanum_of_isDigit (n.isDigit c inside),
    if_pos (all_isDigit n)]
  rfl

theorem int_digits_letter (n : Numeral) {c : Char} (alpha : c.isAlpha = true) (other : c.isDigit = false) :
    int (n.digits ++ [c]) = .error .valueError := by
  have alphanum : ∀ d ∈ n.digits ++ [c], d.isAlphanum = true := by
    intro d inside
    rcases List.mem_append.mp inside with digit | last
    · exact isAlphanum_of_isDigit (n.isDigit d digit)
    · rw [List.mem_singleton.mp last, Char.isAlphanum, alpha, Bool.true_or]
  rw [int, readInt_of_isAlphanum (by simp) alphanum, if_neg (by simp [other])]
  rfl

theorem filter_text (d : Duration) :
    d.text.filter (· ≠ 's') = d.amount.digits ++ (d.unit.text.filter (· ≠ 's')) := by
  have digits : d.amount.digits.filter (· ≠ 's') = d.amount.digits := by
    rw [List.filter_eq_self]
    intro c inside
    rw [decide_eq_true_eq]
    rintro rfl
    cases d.amount.isDigit 's' inside
  rw [Duration.text, List.filter_append, digits]

theorem getWrk2Stat_report (r : Report wrk2) (dur : Text) :
    (getWrk2Stat r.lines dur).map Row.numbers = (do
      let time ← int (dur.filter (· ≠ 's'))
      let qps ← div r.requests.requests time
      return {
        p50 := (r.percentile .p50).latency.inMs
        p75 := (r.percentile .p75).latency.inMs
        p99 := (r.percentile .p99).latency.inMs
        qps := qps }) := by
  obtain ⟨t, scanned⟩ := scan_report wrk2_quiet wrk2_tagged wrk2_reads r
  have total : int (decimal r.requests.requests) = .ok r.requests.requests := by
    simpa using int_digits (.ofNat r.requests.requests)
  rw [getWrk2Stat, scanned, except_ok_bind]
  change Except.map _ (int (decimal r.requests.requests) >>= _) = _
  rw [total, except_ok_bind]
  cases int (dur.filter (· ≠ 's')) with
  | error e => rfl
  | ok time =>
      rw [except_ok_bind, except_ok_bind]
      cases div r.requests.requests time with
      | error e => rfl
      | ok qps => rfl

theorem DurationUnit.seconds_or_letter (unit : DurationUnit) :
    (unit.text.filter (· ≠ 's') = [] ∧ unit.inSeconds = 1 ∧ unit ≠ .m ∧ unit ≠ .h) ∨
      ∃ c, unit.text.filter (· ≠ 's') = [c] ∧ c.isAlpha = true ∧ c.isDigit = false ∧ (unit = .m ∨ unit = .h) := by
  cases unit with
  | plain => exact .inl ⟨rfl, rfl, by decide, by decide⟩
  | s => exact .inl ⟨rfl, rfl, by decide, by decide⟩
  | m => exact .inr ⟨'m', rfl, rfl, rfl, .inl rfl⟩
  | h => exact .inr ⟨'h', rfl, rfl, rfl, .inr rfl⟩

theorem getWrk2Stat_iff (r : Report wrk2) (d : Duration) :
    (getWrk2Stat r.lines d.text).map Row.numbers = .ok (r.numbers d) ↔ d.unit ≠ .m ∧ d.unit ≠ .h := by
  rw [getWrk2Stat_report, filter_text]
  rcases d.unit.seconds_or_letter with ⟨gone, one, inSeconds⟩ | ⟨c, letter, alpha, other, unit⟩
  · have positive : (d.amount.value : Int) ≠ 0 := Int.natCast_ne_zero.mpr (Nat.ne_of_gt d.positive)
    have rate : div r.requests.requests d.amount.value = .ok (r.requests.requests / d.seconds : ℚ) := by
      rw [div, if_neg positive, Duration.seconds, one, Nat.mul_one, Int.cast_natCast,
        Int.cast_natCast]
    rw [gone, List.append_nil, int_digits, except_ok_bind, rate]
    exact iff_of_true rfl inSeconds
  · rw [letter, int_digits_letter _ alpha other]
    refine iff_of_false nofun fun inSeconds => ?_
    rcases unit with m | h
    · exact inSeconds.1 m
    · exact inSeconds.2 h

theorem inMs_of_ms {l : Latency} (unit : l.unit = .ms) : l.inMs = l.value := by
  rw [Latency.inMs, unit]
  exact mul_one _

theorem eq_div_iff_seconds (d : Duration) (n : Nat) : (n : ℚ) = n / d.seconds ↔ n = 0 ∨ d.seconds = 1 := by
  have positive : 0 < d.seconds := by
    have unit : 0 < d.unit.inSeconds := by
      cases d.unit <;> decide
    exact Nat.mul_pos d.positive unit
  have nonzero : (d.seconds : ℚ) ≠ 0 := by exact_mod_cast positive.ne'
  rw [eq_div_iff nonzero, mul_right_eq_self₀]
  norm_cast
  exact or_comm

theorem getWrkStat_iff (r : Report wrk) (d : Duration) :
    (getWrkStat r.lines).bind numbersOf = .ok (r.numbers d) ↔
      (∀ p, (r.percentile p).latency.unit = .ms) ∧ (r.requests.requests = 0 ∨ d.seconds = 1) := by
  by_cases all_ms : ∀ p, (r.percentile p).latency.unit = .ms
  · rw [getWrkStat_of_ms r all_ms, Report.numbers, inMs_of_ms (all_ms _), inMs_of_ms (all_ms _), inMs_of_ms (all_ms _)]
    simp only [Except.ok.injEq, Numbers.mk.injEq, true_and, eq_div_iff_seconds]
    exact (and_iff_right all_ms).symm
  · obtain ⟨p, other⟩ := not_forall.mp all_ms
    rw [getWrkStat_of_other r other]
    exact iff_of_false nofun fun right => all_ms right.1

/-- When the two functions return the latencies of a report and its requests per second. -/
theorem wrkStats_iff (r : Report wrk) (r2 : Report wrk2) (d : Duration) :
    ((getWrkStat r.lines).bind numbersOf = .ok (r.numbers d) ↔
      (∀ p, (r.percentile p).latency.unit = .ms) ∧ (r.requests.requests = 0 ∨ d.seconds = 1)) ∧
    ((getWrk2Stat r2.lines d.text).map Row.numbers = .ok (r2.numbers d) ↔ d.unit ≠ .m ∧ d.unit ≠ .h) :=
  ⟨getWrkStat_iff r d, getWrk2Stat_iff r2 d⟩

theorem blank_indent : ∀ c ∈ [' ', ' '], isSpace c = true := List.all_eq_true.mp rfl

theorem indent_ne_nil : [' ', ' '] ≠ [] := List.cons_ne_nil _ _

theorem clean_rest : '%' ∉ "  1.00s, 5.25MB read\n".toList ∧ 'c' ∉ "  1.00s, 5.25MB read\n".toList := by decide

def sampleLine (unit : TimeUnit) : PercentileLine where
  indent := [' ', ' ']
  gap := [' ', ' ']
  latency := { whole := .ofNat 1, frac := .ofNat 25, unit }
  indent_blank := blank_indent
  gap_blank := blank_indent
  gap_nonempty := indent_ne_nil

def noOthers {tool : Tool α} : Others tool where
  lines := []
  other := List.forall_mem_nil _

def sampleReport (tool : Tool α) (units : Percentile → TimeUnit) : Report tool where
  connections := { indent := [' ', ' '], threads := 8, connections := 8000, indent_blank := blank_indent }
  percentile p := sampleLine (units p)
  requests := {
    indent := [' ', ' ']
    requests := 600
    rest := "  1.00s, 5.25MB read\n".toList
    indent_blank := blank_indent
    rest_clean := clean_rest }
  head := noOthers
  stats := noOthers
  upTo75 := noOthers
  upTo99 := noOthers
  upToRequests := noOthers
  tail := noOthers

theorem ofNat_pos {n : Nat} (positive : 0 < n) : 0 < (Numeral.ofNat n).value := by
  rwa [Numeral.ofNat_value]

def inSeconds (n : Nat) (positive : 0 < n) : Duration where
  amount := .ofNat n
  unit := .s
  positive := ofNat_pos positive

theorem seconds_inSeconds {n : Nat} (positive : 0 < n) : (inSeconds n positive).seconds = n :=
  (Nat.mul_one _).trans (Numeral.ofNat_value n)

/-- A test of one second without latencies beyond the milliseconds. -/
theorem wrkStats_one_second :
    (getWrkStat (sampleReport wrk fun _ => .ms).lines).bind numbersOf =
        .ok ((sampleReport wrk fun _ => .ms).numbers (inSeconds 1 Nat.one_pos)) ∧
      (getWrk2Stat (sampleReport wrk2 fun _ => .us).lines (inSeconds 1 Nat.one_pos).text).map Row.numbers =
        .ok ((sampleReport wrk2 fun _ => .us).numbers (inSeconds 1 Nat.one_pos)) := by
  have both := wrkStats_iff (sampleReport wrk fun _ => .ms) (sampleReport wrk2 fun _ => .us) (inSeconds 1 Nat.one_pos)
  exact ⟨both.1.mpr ⟨fun _ => rfl, .inr (seconds_inSeconds _)⟩, both.2.mpr ⟨nofun, nofun⟩⟩

/-- A median in microseconds is no result at all, and a test of a minute has the rate of one second. -/
theorem not_wrkStat_microseconds :
    getWrkStat (sampleReport wrk fun p => if p = .p50 then .us else .ms).lines = .error .unboundLocalError ∧
      (getWrkStat (sampleReport wrk fun _ => .ms).lines).bind numbersOf ≠
        .ok ((sampleReport wrk fun _ => .ms).numbers (inSeconds 60 (Nat.succ_pos 59))) := by
  constructor
  · refine getWrkStat_of_other _ (p := .p50) ?_
    decide
  · rw [getWrkStat_of_ms _ fun _ => rfl]
    intro right
    simp only [Report.numbers, Except.ok.injEq, Numbers.mk.injEq, seconds_inSeconds] at right
    have rate := right.2.2.2
    norm_num [sampleReport] at rate

end KvmWorkload.Nginx
