import KvmWorkload.Lib.Fields

/-! # Result files and scores

`get_score` of run_testcases.sh takes a score out of a result file by the number
of a column and the position of a line.  The files are written by the run
scripts of the workloads: run_mlc.sh, run_redis_l2.sh (through run_redis.sh)
and mc_rds_in_vm.sh (through run_memcache.sh).  A file is a list of lines.
-/

namespace KvmWorkload.RunTestcases

/-- `tail -1`. -/
def tail1 (lines : List Text) : List Text := lines.getLast?.toList

/-- `$(...)`: the lines without the newlines at the end. -/
def captured (lines : List Text) : Text :=
  ['\n'].intercalate (lines.reverse.dropWhile (· = [])).reverse

/-- `echo $filename | rev | cut -d"/" -f1 | rev | cut -d"_" -f1`. -/
def workloadOf (filename : Text) : Text := cut '_' 1 (cut '/' 1 filename.reverse).reverse

/-- `get_score`.  The arm for `ffmpegbm` stands behind the one for `ffmpeg`, which takes all its
    names. -/
def getScore (filename : Text) (file : List Text) : Text :=
  let workload := workloadOf filename
  if contains "mlc".toList workload then captured ((tail1 file).map (cut ',' 2))
  else if contains "rn50".toList workload then captured (tail1 file)
  else if contains "fio".toList workload then "N/A".toList
  else if contains "stressapp".toList workload then "N/A".toList
  else if contains "redis".toList workload || contains "memcache".toList workload then
    captured (tail1 (file.map (cut ',' 10)))
  else if contains "ffmpeg".toList workload then captured (file.map (cut ':' 2))
  else if contains "ffmpegbm".toList workload then captured file
  else "N/A".toList

/-- The characters of a measured number as `mlc`, `awk` and `bc` print it. -/
def numeralMarks : List Char := ['.', '-', '+', 'e']

/-- A measured number, as text. -/
structure Measured where
  text : Text
  nonempty : text ≠ []
  chars : ∀ c ∈ text, c.isDigit = true ∨ c ∈ numeralMarks

/-- A row in which every value but the first has a blank in front. -/
def spacedRow (first : Text) (others : List Text) : Text :=
  [','].intercalate (first :: others.map (' ' :: ·))

/-- run_mlc.sh. -/
def mlcFile (lat bw runtime : Measured) : List Text :=
  ["Latency(ns), Bandwidth(MB/s), Runtime".toList, spacedRow lat.text [bw.text, runtime.text]]

/-- run_redis_l2.sh; `usedMemory` are the lines of `redis-cli info` that `grep used_memory` lets
    through. -/
def redisFile (thruput p99 runtime : Measured) (usedMemory : List Text) : List Text :=
  ["Throughput, p99, runtime".toList, spacedRow thruput.text [p99.text, runtime.text]] ++ usedMemory

/-- The values of a row of mc_rds_in_vm.sh with `hypt` off. -/
structure McRow where
  physLo : Nat
  physHi : Nat
  ins : Nat
  connections : Nat
  min : Measured
  max : Measured
  sumavg : Measured
  p99avg : Measured
  p75avg : Measured
  hpthrput : Measured
  runtime : Nat

/-- `$lcore, ${total}, ${ins}, ${connections}, ${reshp}, ${hpthrput}, ${runtime}, ${hypt},
    ${protocol}`, where `reshp` joins five values without blanks. -/
def McRow.fields (row : McRow) : List Text :=
  [rangeText row.physLo row.physHi,
   ' ' :: decimal (row.physHi + 1 - row.physLo),
   ' ' :: decimal row.ins,
   ' ' :: decimal row.connections,
   ' ' :: row.min.text,
   row.max.text,
   row.sumavg.text,
   row.p99avg.text,
   row.p75avg.text,
   ' ' :: row.hpthrput.text,
   ' ' :: decimal row.runtime,
   " off".toList,
   " memcache_text".toList]

/-- mc_rds_in_vm.sh: the header is only written to an empty file. -/
def memcacheFile (earlier : List Text) (row : McRow) : List Text :=
  (if earlier.length = 0 then
    ["physcores, totalcores,instance, connections, min, max, avg, p99, p75, throughput, Runtime, HTstatus, Protocol".toList]
  else earlier) ++ [[','].intercalate row.fields]

def blank (c : Char) : Bool := c = ' ' || c = '\t'

/-- A text without the blanks around it. -/
def trimBlanks (text : Text) : Text := ((text.dropWhile blank).reverse.dropWhile blank).reverse

theorem mem_dropWhile {p : Char → Bool} {c : Char} (kept : p c = false) {text : Text} (member : c ∈ text) :
    c ∈ text.dropWhile p := by
  induction text with
  | nil => exact member
  | cons first rest ih =>
      rcases List.mem_cons.mp member with rfl | later
      · simp [kept]
      · cases dropped : p first with
        | true => simpa [List.dropWhile_cons, dropped] using ih later
        | false => simpa [List.dropWhile_cons, dropped] using member

theorem mem_trimBlanks {c : Char} (kept : blank c = false) {text : Text} (member : c ∈ text) : c ∈ trimBlanks text := by
  rw [trimBlanks, List.mem_reverse]
  apply mem_dropWhile kept
  rw [List.mem_reverse]
  exact mem_dropWhile kept member

namespace Measured

variable (value : Measured)

theorem not_mem {c : Char} (digit : c.isDigit = false) (mark : c ∉ numeralMarks) : c ∉ value.text := by
  intro member
  rcases value.chars c member with isDigit | isMark
  · rw [digit] at isDigit
    cases isDigit
  · exact mark isMark

theorem not_blank {c : Char} (member : c ∈ value.text) : blank c = false := by
  cases isBlank : blank c with
  | false => rfl
  | true =>
      have space : c = ' ' ∨ c = '\t' := by simpa [blank] using isBlank
      rcases space with rfl | rfl
      · exact absurd member (value.not_mem (by decide) (by decide))
      · exact absurd member (value.not_mem (by decide) (by decide))

theorem dropWhile_blank {text : Text} (clean : ∀ c ∈ text, blank c = false) : text.dropWhile blank = text := by
  cases text with
  | nil => rfl
  | cons c rest => simp [clean c List.mem_cons_self]

theorem trimBlanks_text : trimBlanks value.text = value.text := by
  rw [trimBlanks, dropWhile_blank fun c => value.not_blank, dropWhile_blank, List.reverse_reverse]
  exact fun c member => value.not_blank (List.mem_reverse.mp member)

theorem trimBlanks_spaced : trimBlanks (' ' :: value.text) = value.text := by
  have blanks : (' ' :: value.text).dropWhile blank = value.text.dropWhile blank := rfl
  rw [trimBlanks, blanks]
  exact value.trimBlanks_text

end Measured

theorem captured_line (line : Text) : captured [line] = line := by
  cases line <;> simp [captured]

/-- The workloads whose scores are compared. -/
inductive Scored where
  | mlc
  | redis
  | memcache
  deriving DecidableEq

def Scored.name : Scored → Text
  | .mlc => "mlc".toList
  | .redis => "redis".toList
  | .memcache => "memcache".toList

/-- `$RESULT_DIR/<workload>_<core_range>_..._rep_1`. -/
def resultFile (dir rest : Text) (w : Scored) : Text := dir ++ '/' :: (w.name ++ '_' :: rest)

/-- What the run scripts measured, and what else is in their files. -/
structure Results where
  lat : Measured
  bw : Measured
  mlcRuntime : Measured
  thruput : Measured
  p99 : Measured
  redisRuntime : Measured
  usedMemory : List Text
  grepped : ∀ line ∈ usedMemory, contains "used_memory".toList line = true
  earlier : List Text
  row : McRow

namespace Results

/-- The file that the workload's script leaves. -/
def file (results : Results) : Scored → List Text
  | .mlc => mlcFile results.lat results.bw results.mlcRuntime
  | .redis => redisFile results.thruput results.p99 results.redisRuntime results.usedMemory
  | .memcache => memcacheFile results.earlier results.row

/-- The value that the script recorded last. -/
def recorded (results : Results) : Scored → Text
  | .mlc => results.bw.text
  | .redis => results.thruput.text
  | .memcache => results.row.hpthrput.text

end Results

section Reader

variable {dir rest : Text} (slash : '/' ∉ rest)
include slash

theorem workloadOf_resultFile (w : Scored) : workloadOf (resultFile dir rest w) = w.name := by
  have reversed : (resultFile dir rest w).reverse = (w.name ++ '_' :: rest).reverse ++ '/' :: dir.reverse := by
    simp [resultFile]
  have base : '/' ∉ (w.name ++ '_' :: rest).reverse := by
    have name : '/' ∉ w.name := by cases w <;> decide
    simp [name, slash]
  have underscore : '_' ∉ w.name := by cases w <;> decide
  rw [workloadOf, reversed, cut_one_append base, List.reverse_reverse, cut_one_append underscore]

theorem getScore_mlc (file : List Text) :
    getScore (resultFile dir rest .mlc) file = captured ((tail1 file).map (cut ',' 2)) := by
  rw [getScore, workloadOf_resultFile slash]
  rfl

theorem getScore_redis (file : List Text) :
    getScore (resultFile dir rest .redis) file = captured (tail1 (file.map (cut ',' 10))) := by
  rw [getScore, workloadOf_resultFile slash]
  rfl

theorem getScore_memcache (file : List Text) :
    getScore (resultFile dir rest .memcache) file = captured (tail1 (file.map (cut ',' 10))) := by
  rw [getScore, workloadOf_resultFile slash]
  rfl

end Reader

theorem Measured.comma (value : Measured) : ',' ∉ value.text := value.not_mem (by decide) (by decide)

theorem cut_spacedRow {first : Text} {others : List Text} (clean : ∀ w ∈ first :: others, ',' ∉ w)
    (more : others ≠ []) (n : Nat) :
    cut ',' n (spacedRow first others) = ((first :: others.map (' ' :: ·))[n - 1]?).getD [] := by
  apply cut_intercalate
  · intro w member
    rcases List.mem_cons.mp member with rfl | member
    · exact clean _ List.mem_cons_self
    · obtain ⟨value, inside, rfl⟩ := List.mem_map.mp member
      simpa using clean value (List.mem_cons_of_mem _ inside)
  · have := List.length_pos_of_ne_nil more
    simp
    omega

theorem tail1_concat (lines : List Text) (last : Text) : tail1 (lines ++ [last]) = [last] := by
  simp [tail1]

theorem comma_fields (row : McRow) : ∀ w ∈ row.fields, ',' ∉ w := by
  have number : ∀ n, ',' ∉ ' ' :: decimal n := fun n => by simp [not_mem_decimal]
  have spaced : ∀ value : Measured, ',' ∉ ' ' :: value.text := fun value => by simp [value.comma]
  have range : ',' ∉ rangeText row.physLo row.physHi := not_mem_rangeText (by decide) (by decide)
  have words : ',' ∉ " off".toList ∧ ',' ∉ " memcache_text".toList := by decide
  simp only [McRow.fields, List.forall_mem_cons]
  exact ⟨range, number _, number _, number _, spaced _, row.max.comma, row.sumavg.comma, row.p99avg.comma,
    row.p75avg.comma, spaced _, number _, words.1, words.2, List.forall_mem_nil _⟩

section Writers

variable {dir rest : Text} (slash : '/' ∉ rest)
include slash

theorem score_mlc (lat bw runtime : Measured) :
    trimBlanks (getScore (resultFile dir rest .mlc) (mlcFile lat bw runtime)) = bw.text := by
  have clean : ∀ w ∈ [lat.text, bw.text, runtime.text], ',' ∉ w := by simp [Measured.comma]
  have field : cut ',' 2 (spacedRow lat.text [bw.text, runtime.text]) = ' ' :: bw.text :=
    cut_spacedRow clean (by simp) 2
  have last : tail1 (mlcFile lat bw runtime) = [spacedRow lat.text [bw.text, runtime.text]] := rfl
  rw [getScore_mlc slash, last, List.map_singleton, field, captured_line, Measured.trimBlanks_spaced]

theorem score_memcache (earlier : List Text) (row : McRow) :
    trimBlanks (getScore (resultFile dir rest .memcache) (memcacheFile earlier row)) = row.hpthrput.text := by
  have field : cut ',' 10 ([','].intercalate row.fields) = ' ' :: row.hpthrput.text :=
    cut_intercalate (comma_fields row) (by simp [McRow.fields]) 10
  rw [getScore_memcache slash, memcacheFile, List.map_append, List.map_singleton, tail1_concat, field,
    captured_line, Measured.trimBlanks_spaced]

/-- The redis row has three columns, so the score comes from the last line behind it, if there is
    one: from its tenth field, or from the whole line when it has no comma. -/
theorem score_redis_iff (thruput p99 runtime : Measured) {usedMemory : List Text}
    (grepped : ∀ line ∈ usedMemory, contains "used_memory".toList line = true) :
    trimBlanks (getScore (resultFile dir rest .redis) (redisFile thruput p99 runtime usedMemory)) = thruput.text ↔
      ∃ last ∈ usedMemory.getLast?, ∃ field ∈ (last.splitOn ',')[9]?, trimBlanks field = thruput.text := by
  rw [getScore_redis slash, redisFile, List.map_append]
  rcases List.eq_nil_or_concat usedMemory with rfl | ⟨before, last, rfl⟩
  · have clean : ∀ w ∈ [thruput.text, p99.text, runtime.text], ',' ∉ w := by simp [Measured.comma]
    have field : cut ',' 10 (spacedRow thruput.text [p99.text, runtime.text]) = [] :=
      cut_spacedRow clean (by simp) 10
    have score : tail1 (["Throughput, p99, runtime".toList,
        spacedRow thruput.text [p99.text, runtime.text]].map (cut ',' 10) ++ []) = [[]] := by
      simp [tail1, field]
    rw [List.map_nil, score, captured_line]
    simp [trimBlanks, thruput.nonempty.symm]
  · rw [List.concat_eq_append, List.map_append, List.map_singleton, ← List.append_assoc, tail1_concat,
      captured_line]
    simp only [List.getLast?_concat, Option.mem_def, Option.some.injEq, exists_eq_left']
    by_cases comma : ',' ∈ last
    · rw [cut, if_pos comma]
      cases field : (last.splitOn ',')[9]? with
      | none => simp [trimBlanks, thruput.nonempty.symm]
      | some field => simp
    · rw [cut_of_not_mem comma, splitOn_of_not_mem comma]
      simp only [List.getElem?_cons_succ, List.getElem?_nil, reduceCtorEq, false_and, exists_false, iff_false]
      intro same
      have word := contains_iff.mp (grepped last (by simp))
      have letter : 'u' ∈ trimBlanks last := mem_trimBlanks (by decide) (word.subset (by decide))
      rw [same] at letter
      exact thruput.not_mem (by decide) (by decide) letter

end Writers

/-- The scores of mlc and memcache are the recorded values.  The score of redis is right only when
    `redis-cli info` happens to put the throughput into the tenth field of its last line. -/
theorem scores_iff (dir : Text) {rest : Text} (slash : '/' ∉ rest) (results : Results) :
    (∀ w, trimBlanks (getScore (resultFile dir rest w) (results.file w)) = results.recorded w) ↔
      ∃ last ∈ results.usedMemory.getLast?, ∃ field ∈ (last.splitOn ',')[9]?,
        trimBlanks field = results.thruput.text := by
  have redis := @score_redis_iff dir rest slash results.thruput results.p99 results.redisRuntime _
    results.grepped
  rw [← redis]
  constructor
  · exact fun all => all .redis
  · intro redis w
    cases w with
    | mlc => exact score_mlc slash _ _ _
    | redis => exact redis
    | memcache => exact score_memcache slash _ _

/-- A number of digits. -/
def measuredNat (n : Nat) : Measured where
  text := decimal n
  nonempty := decimal_ne_nil n
  chars := fun _ member => .inl (isDigit_of_mem_decimal member)

/-- A row of small numbers. -/
def sampleRow : McRow where
  physLo := 0
  physHi := 7
  ins := 1
  connections := 125
  min := measuredNat 1
  max := measuredNat 9
  sumavg := measuredNat 4
  p99avg := measuredNat 8
  p75avg := measuredNat 6
  hpthrput := measuredNat 52000
  runtime := 836

/-- Files with given lines behind the redis row. -/
def sampleResults (usedMemory : List Text)
    (grepped : ∀ line ∈ usedMemory, contains "used_memory".toList line = true) : Results where
  lat := measuredNat 110
  bw := measuredNat 95000
  mlcRuntime := measuredNat 100
  thruput := measuredNat 41000
  p99 := measuredNat 2
  redisRuntime := measuredNat 101
  usedMemory := usedMemory
  grepped := grepped
  earlier := []
  row := sampleRow

theorem grepped_tenFields : ∀ line ∈ ["used_memory,,,,,,,,, 41000".toList],
    contains "used_memory".toList line = true := by
  intro line member
  rw [List.mem_singleton.mp member]
  decide

theorem grepped_human : ∀ line ∈ ["used_memory_human:2.00M".toList],
    contains "used_memory".toList line = true := by
  intro line member
  rw [List.mem_singleton.mp member]
  decide

/-- A line whose tenth field is the throughput. -/
theorem scores_tenFields :
    '/' ∉ "0-7_rep_1".toList ∧ ∀ w,
      trimBlanks (getScore (resultFile "/root/results".toList "0-7_rep_1".toList w)
          ((sampleResults _ grepped_tenFields).file w)) =
        (sampleResults _ grepped_tenFields).recorded w := by
  have slash : '/' ∉ "0-7_rep_1".toList := by decide
  exact ⟨slash, (scores_iff "/root/results".toList slash (sampleResults _ grepped_tenFields)).mpr
    ⟨_, rfl, " 41000".toList, by decide, by decide⟩⟩

/-- A line as redis prints it becomes the score; without any line the score is empty. -/
theorem score_redis_wrong :
    getScore (resultFile "/root/results".toList "0-7_rep_1".toList .redis)
        ((sampleResults _ grepped_human).file .redis) = "used_memory_human:2.00M".toList ∧
      getScore (resultFile "/root/results".toList "0-7_rep_1".toList .redis)
        (redisFile (measuredNat 41000) (measuredNat 2) (measuredNat 101) []) = [] ∧
      (sampleResults _ grepped_human).recorded .redis = "41000".toList ∧
      trimBlanks (getScore (resultFile "/root/results".toList "0-7_rep_1".toList .redis)
        ((sampleResults _ grepped_human).file .redis)) ≠ (sampleResults _ grepped_human).recorded .redis := by
  decide +kernel

end KvmWorkload.RunTestcases
