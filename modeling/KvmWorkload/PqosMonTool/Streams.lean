import KvmWorkload.Lib.Exec
import KvmWorkload.PqosMonTool.Capture

/-! # Streams of `pqos`

A stream is a preamble and a sequence of blocks: a line with `TIME`, the header
with the names of the metrics, and a line for every core group.  Where the
interrupt cuts the stream off, the columns have the values of the lines before
it, from the second block on.
-/

namespace KvmWorkload.PqosMonTool

/-- The line of a core group, with one value for each of `width` metrics. -/
structure Row (width : Nat) where
  text : Text
  group : Text
  values : List Text
  words : wordsOf isSpace text = group :: values
  length : values.length = width
  plain : ∀ word ∈ group :: values, infopat word = false

/-- A line of a block. -/
inductive Line (metrics : List Text) where
  | time (text : Text) (marked : hasTime text = true)
  | header (text : Text) (words : wordsOf isSpace text = "CORE".toList :: metrics)
  | row (entry : Row metrics.length)

def Line.text {metrics : List Text} : Line metrics → Text
  | .time text _ => text
  | .header text _ => text
  | .row entry => entry.text

def Line.isTime {metrics : List Text} : Line metrics → Bool
  | .time _ _ => true
  | .header _ _ => false
  | .row _ => false

/-- The value for metric number `j` in a line of the group. -/
def Line.value {metrics : List Text} (group : Text) (j : Nat) : Line metrics → Option Text
  | .time _ _ => none
  | .header _ _ => none
  | .row entry => if entry.group = group then entry.values[j]? else none

/-- A block has a line for each of the groups, in any order. -/
structure Block (metrics groups : List Text) where
  time : Text
  marked : hasTime time = true
  header : Text
  words : wordsOf isSpace header = "CORE".toList :: metrics
  rows : List (Row metrics.length)
  each : (rows.map Row.group).Perm groups

def Block.lines {metrics groups : List Text} (block : Block metrics groups) : List (Line metrics) :=
  .time block.time block.marked :: .header block.header block.words :: block.rows.map .row

def blockLines {metrics groups : List Text} (blocks : List (Block metrics groups)) : List (Line metrics) :=
  blocks.flatMap Block.lines

structure Stream (lower : Text → Text) where
  metrics : List Text
  groups : List Text
  preamble : List Text
  blocks : List (Block metrics groups)
  read : ∀ line ∈ preamble, line ≠ []
  quiet : ∀ line ∈ preamble, hasTime line = false
  kept : ∀ line ∈ preamble ++ (blockLines blocks).map Line.text, contains "time".toList line = false
  distinctGroups : groups.Nodup
  distinctMetrics : (metrics.map lower).Nodup
  cleanGroups : ∀ group ∈ groups, '_' ∉ group

namespace Stream

variable {lower : Text → Text} (stream : Stream lower)

/-- The first `k` lines. -/
def consumed (k : Nat) : List Text :=
  (stream.preamble ++ (blockLines stream.blocks).map Line.text).take k

/-- The lines of the blocks among the first `k` lines. -/
def seen (k : Nat) : List (Line stream.metrics) :=
  (blockLines stream.blocks).take (k - stream.preamble.length)

/-- The lines of the second block and of later ones among the first `k` lines. -/
def fromSecond (k : Nat) : List (Line stream.metrics) :=
  (stream.seen k).drop (blockLines (stream.blocks.take 1)).length

/-- Behind `k` lines, the second loop waits for the next one. -/
def Waiting (k : Nat) : Prop := 2 ≤ (discover (perflineout (stream.consumed k)) .start).1.count

/-- Every metric of every group has a column of its own with its values, and there is no other
    column. -/
structure Captured (k : Nat) (table : List Column) : Prop where
  names : (table.map Prod.fst).Nodup
  column : ∀ group ∈ stream.groups, ∀ j metric, stream.metrics[j]? = some metric →
    ∃ padding, (metricName lower metric group,
      ((stream.fromSecond k).filterMap (Line.value group j)).map some ++
        List.replicate padding none) ∈ table
  only : ∀ column ∈ table, ∃ group ∈ stream.groups, ∃ metric ∈ stream.metrics,
    column.1 = metricName lower metric group

end Stream

theorem headerWords_clean : ∀ word ∈ headerWords, word ≠ [] ∧ ∀ c ∈ word, isSpace c = false := by
  have checked : headerWords.all (fun word => word ≠ [] && word.all fun c => !isSpace c) = true := by decide
  intro word member
  have clean := List.all_eq_true.mp checked word member
  simpa using clean

theorem infopat_iff {line : Text} : infopat line = true ↔ ∃ word ∈ headerWords, word <:+: line := by
  simp only [infopat, List.any_eq_true, contains_iff]

theorem infopat_iff_words {line : Text} :
    infopat line = true ↔ ∃ word ∈ wordsOf isSpace line, infopat word = true := by
  simp only [infopat_iff]
  constructor
  · rintro ⟨pattern, member, found⟩
    obtain ⟨more, clean⟩ := headerWords_clean pattern member
    obtain ⟨word, inside, found⟩ := (infix_iff_exists_word more clean line).mp found
    exact ⟨word, inside, pattern, member, found⟩
  · rintro ⟨word, inside, pattern, member, found⟩
    obtain ⟨more, clean⟩ := headerWords_clean pattern member
    exact ⟨pattern, member, (infix_iff_exists_word more clean line).mpr ⟨word, inside, found⟩⟩

theorem infopat_strip (line : Text) : infopat (strip line) = infopat line := by
  rw [Bool.eq_iff_iff, infopat_iff_words, infopat_iff_words, strip, wordsOf_trim]

theorem hasTime_iff_words {line : Text} :
    hasTime line = true ↔ ∃ word ∈ wordsOf isSpace line, hasTime word = true := by
  have member : "TIME".toList ∈ headerWords := by decide
  obtain ⟨more, clean⟩ := headerWords_clean _ member
  simp only [hasTime, contains_iff]
  exact infix_iff_exists_word more clean line

theorem hasTime_strip (line : Text) : hasTime (strip line) = hasTime line := by
  rw [Bool.eq_iff_iff, hasTime_iff_words, hasTime_iff_words, strip, wordsOf_trim]

theorem infopat_of_hasTime {line : Text} (marked : hasTime line = true) : infopat line = true :=
  infopat_iff.mpr ⟨"TIME".toList, by decide, contains_iff.mp marked⟩

theorem reSplit_strip {line first : Text} {rest : List Text}
    (words : wordsOf isSpace line = first :: rest) : reSplit (strip line) = first :: rest := by
  unfold reSplit strip
  rw [splitRuns_trim (by rw [words]; exact List.cons_ne_nil _ _), words]

theorem Row.infopat_text {width : Nat} (row : Row width) : infopat row.text = false := by
  by_contra found
  obtain ⟨word, inside, matched⟩ := infopat_iff_words.mp (eq_true_of_ne_false found)
  rw [row.words] at inside
  rw [row.plain word inside] at matched
  cases matched

theorem Row.hasTime_text {width : Nat} (row : Row width) : hasTime row.text = false := by
  by_contra found
  have matched := infopat_of_hasTime (eq_true_of_ne_false found)
  rw [row.infopat_text] at matched
  cases matched

theorem infopat_header {metrics : List Text} {text : Text}
    (words : wordsOf isSpace text = "CORE".toList :: metrics) : infopat text = true :=
  infopat_iff_words.mpr ⟨"CORE".toList, by rw [words]; exact List.mem_cons_self, by decide⟩

theorem hasTime_header {metrics : List Text} {text : Text}
    (words : wordsOf isSpace text = "CORE".toList :: metrics)
    (plain : ∀ metric ∈ metrics, hasTime metric = false) : hasTime text = false := by
  by_contra found
  obtain ⟨word, inside, matched⟩ := hasTime_iff_words.mp (eq_true_of_ne_false found)
  have clean : hasTime word = false := by
    rw [words] at inside
    rcases List.mem_cons.mp inside with rfl | metric
    · decide
    · exact plain word metric
  rw [clean] at matched
  cases matched

theorem Line.hasTime_text {metrics : List Text} (plain : ∀ metric ∈ metrics, hasTime metric = false)
    (line : Line metrics) : hasTime line.text = line.isTime := by
  cases line with
  | time text marked => exact marked
  | header text words => exact hasTime_header words plain
  | row entry => exact entry.hasTime_text

theorem Discovery.read_time {line : Text} (marked : hasTime line = true) (s : Discovery) :
    s.read line = { s with count := s.count + 1 } := by
  rw [Discovery.read, hasTime_strip, if_pos marked]

theorem discover_count (lines : List Text) {s : Discovery} (before : s.count ≤ 2) :
    (discover lines s).1.count = min 2 (s.count + lines.countP hasTime) := by
  induction lines generalizing s with
  | nil => simp [discover, before]
  | cons line lines ih =>
      rw [discover, List.countP_cons]
      by_cases more : s.count < 2
      · rw [if_pos more]
        by_cases marked : hasTime line = true
        · have next : (s.read line).count = s.count + 1 := by rw [Discovery.read_time marked]
          rw [ih (by omega), next, if_pos marked]
          omega
        · have same : (s.read line).count = s.count := by
            rw [Discovery.read, hasTime_strip, if_neg marked]
            split_ifs <;> rfl
          rw [ih (by omega), same, if_neg marked]
          rfl
      · rw [if_neg more]
        dsimp only
        omega

theorem discover_of_lt {line : Text} {s : Discovery} (more : s.count < 2) (lines : List Text) :
    discover (line :: lines) s = discover lines (s.read line) := by
  rw [discover, if_pos more]

theorem discover_of_two {s : Discovery} (done : s.count = 2) (lines : List Text) :
    discover lines s = (s, lines) := by
  cases lines with
  | nil => rfl
  | cons line lines => rw [discover, if_neg (by omega)]

theorem discover_preamble {preamble : List Text} (quiet : ∀ line ∈ preamble, hasTime line = false)
    (lines : List Text) : discover (preamble ++ lines) .start = discover lines .start := by
  induction preamble with
  | nil => rfl
  | cons line preamble ih =>
      rw [List.forall_mem_cons] at quiet
      have same : Discovery.start.read line = .start := by
        rw [Discovery.read, hasTime_strip, quiet.1]
        rfl
      rw [List.cons_append, discover_of_lt (by decide), same, ih quiet.2]

theorem discover_time {time : Text} (marked : hasTime time = true) {count : Nat} (more : count < 2)
    (metname : Option (List Text)) (cores lines : List Text) :
    discover (time :: lines) ⟨count, metname, cores⟩ = discover lines ⟨count + 1, metname, cores⟩ := by
  rw [discover_of_lt more, Discovery.read_time marked]

theorem discover_header {metrics : List Text} (plain : ∀ metric ∈ metrics, hasTime metric = false)
    {text : Text} (words : wordsOf isSpace text = "CORE".toList :: metrics)
    (metname : Option (List Text)) (cores lines : List Text) :
    discover (text :: lines) ⟨1, metname, cores⟩ =
      discover lines ⟨1, some ("CORE".toList :: metrics), cores⟩ := by
  have noted : (⟨1, metname, cores⟩ : Discovery).read text =
      ⟨1, some ("CORE".toList :: metrics), cores⟩ := by
    rw [Discovery.read, hasTime_strip, hasTime_header words plain, infopat_strip, infopat_header words,
      reSplit_strip words]
    rfl
  have more : (⟨1, metname, cores⟩ : Discovery).count < 2 := Nat.one_lt_two
  rw [discover_of_lt more, noted]

theorem discover_rows {width : Nat} (rows : List (Row width)) (metname : Option (List Text))
    (cores lines : List Text) :
    discover (rows.map Row.text ++ lines) ⟨1, metname, cores⟩ =
      discover lines ⟨1, metname, cores ++ rows.map Row.group⟩ := by
  induction rows generalizing cores with
  | nil => rw [List.map_nil, List.map_nil, List.nil_append, List.append_nil]
  | cons row rows ih =>
      have noted : (⟨1, metname, cores⟩ : Discovery).read row.text =
          ⟨1, metname, cores ++ [row.group]⟩ := by
        rw [Discovery.read, hasTime_strip, row.hasTime_text, infopat_strip, row.infopat_text,
          reSplit_strip row.words]
        rfl
      have more : (⟨1, metname, cores⟩ : Discovery).count < 2 := Nat.one_lt_two
      rw [List.map_cons, List.cons_append, discover_of_lt more, noted, ih, List.append_assoc]
      rfl

theorem discover_block {metrics groups : List Text} (plain : ∀ metric ∈ metrics, hasTime metric = false)
    (block : Block metrics groups) {time : Text} (marked : hasTime time = true) (lines : List Text) :
    discover (block.lines.map Line.text ++ time :: lines) .start =
      (⟨2, some ("CORE".toList :: metrics), block.rows.map Row.group⟩, lines) := by
  have texts : block.lines.map Line.text = block.time :: block.header :: block.rows.map Row.text := by
    simp [Block.lines, Line.text]
  rw [texts, List.cons_append, List.cons_append, Discovery.start, discover_time block.marked Nat.two_pos,
    discover_header plain block.words, discover_rows, discover_time marked Nat.one_lt_two,
    discover_of_two rfl]
  rfl

end KvmWorkload.PqosMonTool
