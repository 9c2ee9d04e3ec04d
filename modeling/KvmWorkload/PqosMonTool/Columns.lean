import KvmWorkload.Lib.Lists
import KvmWorkload.PqosMonTool.Streams

/-! # The columns of the CSV file

The names that the first loop notes are the keys that the second loop uses:
every value of a line goes to the column of its metric and its group.
-/

namespace KvmWorkload.PqosMonTool

theorem Line.text_ne_nil {metrics : List Text} (line : Line metrics) : line.text ≠ [] := by
  intro empty
  cases line with
  | time text marked =>
      rw [show text = [] from empty] at marked
      exact absurd marked (by decide)
  | header text words =>
      rw [show text = [] from empty] at words
      cases words
  | row entry =>
      have words := entry.words
      rw [show entry.text = [] from empty] at words
      cases words

theorem Block.countP_isTime {metrics groups : List Text} (block : Block metrics groups) :
    block.lines.countP Line.isTime = 1 := by
  have rows : (block.rows.map Line.row).countP Line.isTime = 0 := by
    rw [List.countP_eq_zero]
    intro line member
    obtain ⟨entry, -, rfl⟩ := List.mem_map.mp member
    exact Bool.false_ne_true
  rw [Block.lines, List.countP_cons_of_pos rfl, List.countP_cons_of_neg Bool.false_ne_true, rows]

namespace Stream

variable {lower : Text → Text} (stream : Stream lower)

theorem consumed_eq (k : Nat) :
    stream.consumed k = stream.preamble.take k ++ (stream.seen k).map Line.text := by
  rw [consumed, List.take_append, seen, List.map_take]

theorem perflineout_consumed (k : Nat) : perflineout (stream.consumed k) = stream.consumed k := by
  have inside : ∀ line ∈ stream.consumed k,
      line ∈ stream.preamble ++ (blockLines stream.blocks).map Line.text :=
    fun line member => List.mem_of_mem_take member
  have whole : (stream.consumed k).takeWhile (· ≠ []) = stream.consumed k := by
    rw [List.takeWhile_eq_self_iff]
    intro line member
    rcases List.mem_append.mp (inside line member) with before | later
    · simpa using stream.read line before
    · obtain ⟨blockLine, -, rfl⟩ := List.mem_map.mp later
      simpa using blockLine.text_ne_nil
  rw [perflineout, whole, List.filter_eq_self]
  intro line member
  rw [stream.kept line (inside line member)]
  rfl

theorem discover_consumed (k : Nat) :
    discover (perflineout (stream.consumed k)) .start = discover ((stream.seen k).map Line.text) .start := by
  rw [perflineout_consumed, consumed_eq]
  exact discover_preamble (fun line member => stream.quiet line (List.mem_of_mem_take member)) _

variable {stream}

theorem countP_of_waiting (plain : ∀ metric ∈ stream.metrics, hasTime metric = false) {k : Nat}
    (waiting : stream.Waiting k) : 2 ≤ (stream.seen k).countP Line.isTime := by
  have same : hasTime ∘ Line.text = (Line.isTime : Line stream.metrics → Bool) :=
    funext fun line => line.hasTime_text plain
  have start : Discovery.start.count = 0 := rfl
  unfold Waiting at waiting
  rw [discover_consumed, discover_count _ (Nat.zero_le 2), List.countP_map, same] at waiting
  omega

theorem seen_of_waiting (plain : ∀ metric ∈ stream.metrics, hasTime metric = false) {k : Nat}
    (waiting : stream.Waiting k) :
    ∃ block ∈ stream.blocks, ∃ time marked lines,
      stream.seen k = block.lines ++ Line.time time marked :: lines ∧
      stream.fromSecond k = Line.time time marked :: lines := by
  have times := countP_of_waiting plain waiting
  unfold fromSecond
  unfold seen at times ⊢
  cases blocks : stream.blocks with
  | nil =>
      rw [blocks] at times
      simp [blockLines] at times
  | cons block later =>
      have split : blockLines (block :: later) = block.lines ++ blockLines later := List.flatMap_cons
      have one : blockLines ((block :: later).take 1) = block.lines := List.append_nil _
      rw [blocks, split] at times
      have more : block.lines.countP Line.isTime <
          ((block.lines ++ blockLines later).take (k - stream.preamble.length)).countP Line.isTime := by
        rw [block.countP_isTime]
        exact times
      obtain ⟨m, behind, some_line⟩ := exists_of_countP_lt_take more
      cases later with
      | nil => exact absurd rfl some_line
      | cons second later =>
          rw [split, one, behind, Nat.add_assoc, List.take_length_add_append, List.drop_left]
          exact ⟨block, List.mem_cons_self, second.time, second.marked, _, rfl, rfl⟩

end Stream

section Names

variable {lower : Text → Text}

theorem metricName_inj {metric metric' group group' : Text} (clean : '_' ∉ group) (clean' : '_' ∉ group')
    (same : metricName lower metric group = metricName lower metric' group') :
    lower metric = lower metric' ∧ group = group' := by
  obtain rfl := suffix_eq_of_sep clean clean' same
  exact ⟨List.append_cancel_right same, rfl⟩

/-- The columns in the order of the two loops that make them. -/
def columnNames (lower : Text → Text) (metrics cores : List Text) : List Text :=
  cores.flatMap fun core => metrics.map fun metric => metricName lower metric core

theorem mem_columnNames {metrics cores : List Text} {name : Text} :
    name ∈ columnNames lower metrics cores ↔
      ∃ core ∈ cores, ∃ metric ∈ metrics, name = metricName lower metric core := by
  simp only [columnNames, List.mem_flatMap, List.mem_map, eq_comm]

theorem nodup_names {metrics : List Text} (distinct : (metrics.map lower).Nodup) (core : Text) :
    (metrics.map fun metric => metricName lower metric core).Nodup := by
  have names : (metrics.map fun metric => metricName lower metric core) =
      (metrics.map lower).map fun name => name ++ '_' :: core := by
    rw [List.map_map]
    rfl
  rw [names]
  exact distinct.map fun name name' same => List.append_cancel_right same

theorem nodup_columnNames {metrics cores : List Text} (distinctMetrics : (metrics.map lower).Nodup)
    (distinctCores : cores.Nodup) (clean : ∀ core ∈ cores, '_' ∉ core) :
    (columnNames lower metrics cores).Nodup := by
  unfold columnNames
  rw [List.nodup_flatMap]
  refine ⟨fun core _ => nodup_names distinctMetrics core, ?_⟩
  refine distinctCores.imp_of_mem ?_
  intro core core' member member' apart name first second
  obtain ⟨metric, -, rfl⟩ := List.mem_map.mp first
  obtain ⟨metric', -, same⟩ := List.mem_map.mp second
  exact apart (metricName_inj (clean core' member') (clean core member) same).2.symm

theorem data_start {metrics cores : List Text} (count : Nat) (core : Text)
    (distinct : (columnNames lower metrics cores).Nodup) :
    ∃ data, (⟨count, some (core :: metrics), cores⟩ : Discovery).data lower = .ok data ∧
      data.keys = columnNames lower metrics cores ∧
      ∀ name ∈ columnNames lower metrics cores, data.get? name = some [] := by
  have run : (⟨count, some (core :: metrics), cores⟩ : Discovery).data lower =
      .ok ((columnNames lower metrics cores).foldl (fun data name => data.set name []) Dict.empty) := by
    unfold columnNames
    rw [List.foldl_flatMap]
    simp only [List.foldl_map]
    exact List.foldlM_pure
  have fresh : ∀ name ∈ columnNames lower metrics cores, name ∉ (Dict.empty : Data).keys :=
    fun name _ => List.not_mem_nil
  obtain ⟨keys, found⟩ := Dict.foldl_set_of_fresh distinct fresh []
  refine ⟨_, run, keys, ?_⟩
  intro name member
  rw [found, if_pos member]

end Names

/-- What a line's values are appended to is there already. -/
theorem foldlM_append {data : Data} {pairs : List (Text × Text)}
    (known : ∀ pair ∈ pairs, pair.1 ∈ data.keys) :
    ∃ data', pairs.foldlM (fun data pair => append data pair.1 pair.2) data = .ok data' ∧
      data'.keys = data.keys ∧ ∀ name, data'.get? name =
        (data.get? name).map (· ++ pairs.filterMap fun pair => if pair.1 = name then some pair.2 else none) := by
  -- Columns are only changed in place, so the keys of the start are there in every round.
  let select := fun (name : Text) (pair : Text × Text) => if pair.1 = name then some pair.2 else none
  let R := fun (done : List (Text × Text)) (now : Data) => now.keys = data.keys ∧
    ∀ name, now.get? name = (data.get? name).map (· ++ done.filterMap (select name))
  have step : ∀ {done pair now}, pair ∈ pairs → R done now →
      ∃ next, append now pair.1 pair.2 = .ok next ∧ R (done ++ [pair]) next := by
    intro done pair now member before
    obtain ⟨values, found⟩ := Dict.mem_keys_iff.mp (before.1 ▸ known pair member)
    refine ⟨now.modify pair.1 (· ++ [pair.2]), ?_, ?_, ?_⟩
    · rw [append, found]
    · rw [Dict.keys_modify, before.1]
    · intro name
      rw [Dict.get?_modify, before.2, List.filterMap_append]
      by_cases here : name = pair.1
      · subst here
        simp [select, Function.comp_def]
      · have other : pair.1 ≠ name := Ne.symm here
        simp [select, here, other]
  have start : R [] data := ⟨rfl, fun name => by simp⟩
  exact except_foldlM_history (R := R) step start

theorem foldlM_nameAt (lower : Text → Text) (names : List Text) (group : Text) {i : Nat}
    {rest values : List Text} (tail : names.drop i = rest) (lengths : values.length = rest.length)
    (data : Data) :
    (values.zipIdx i).foldlM (fun data info => do
        let name ← nameAt (some names) info.2
        append data (metricName lower name group) info.1) data =
      ((rest.map fun metric => metricName lower metric group).zip values).foldlM
        (fun data pair => append data pair.1 pair.2) data := by
  induction values generalizing i rest data with
  | nil =>
      rw [List.zip_nil_right]
      rfl
  | cons value values ih =>
      cases rest with
      | nil => cases lengths
      | cons metric rest =>
          have here : nameAt (some names) i = .ok metric := by
            have at_i : names[i]? = some metric := by
              rw [← List.head?_drop, tail]
              rfl
            simp [nameAt, bound, at_i, bind, Except.bind]
          have next : names.drop (i + 1) = rest := by
            rw [← List.tail_drop, tail]
            rfl
          rw [List.zipIdx_cons, List.foldlM_cons, List.map_cons, List.zip_cons_cons, List.foldlM_cons, here]
          change (append data (metricName lower metric group) value >>= _) = _
          apply bind_congr
          intro data'
          exact ih next (Nat.succ.inj lengths) data'

theorem capture_row {lower : Text → Text} {metrics : List Text} (core : Text) (row : Row metrics.length)
    (data : Data) :
    capture lower (some (core :: metrics)) data row.text =
      ((metrics.map fun metric => metricName lower metric row.group).zip row.values).foldlM
        (fun data pair => append data pair.1 pair.2) data := by
  unfold capture
  rw [infopat_strip, row.infopat_text, reSplit_strip row.words]
  exact foldlM_nameAt lower (core :: metrics) row.group rfl row.length data

theorem filterMap_zip_of_not_mem {names values : List Text} {name : Text} (absent : name ∉ names) :
    ((names.zip values).filterMap fun pair => if pair.1 = name then some pair.2 else none) = [] := by
  rw [List.filterMap_eq_nil_iff]
  intro pair member
  have apart : pair.1 ≠ name := ne_of_mem_of_not_mem (List.of_mem_zip member).1 absent
  exact if_neg apart

theorem filterMap_zip_of_nodup {names values : List Text} (distinct : names.Nodup)
    (lengths : values.length = names.length) {j : Nat} {name : Text} (here : names[j]? = some name) :
    ((names.zip values).filterMap fun pair => if pair.1 = name then some pair.2 else none) =
      (values[j]?).toList := by
  induction names generalizing values j with
  | nil => cases here
  | cons first names ih =>
      rw [List.nodup_cons] at distinct
      cases values with
      | nil => cases lengths
      | cons value values =>
          rw [List.zip_cons_cons, List.filterMap_cons]
          cases j with
          | zero =>
              cases here
              rw [filterMap_zip_of_not_mem distinct.1]
              simp
          | succ j =>
              rw [List.getElem?_cons_succ] at here
              have apart : first ≠ name := by
                rintro rfl
                exact distinct.1 (List.mem_of_getElem? here)
              rw [ih distinct.2 (Nat.succ.inj lengths) here]
              simp [apart]

namespace Stream

variable {lower : Text → Text} {stream : Stream lower}

theorem group_mem {row : Row stream.metrics.length} (member : Line.row row ∈ blockLines stream.blocks) :
    row.group ∈ stream.groups := by
  obtain ⟨block, -, inside⟩ := List.mem_flatMap.mp member
  unfold Block.lines at inside
  simp only [List.mem_cons, reduceCtorEq, false_or, List.mem_map, Line.row.injEq] at inside
  obtain ⟨entry, listed, rfl⟩ := inside
  exact block.each.mem_iff.mp (List.mem_map_of_mem listed)

/-- The columns have the values of the lines so far. -/
def Sorted (stream : Stream lower) (names : List Text) (lines : List (Line stream.metrics)) (data : Data) :
    Prop :=
  data.keys = names ∧ ∀ group ∈ stream.groups, ∀ j metric, stream.metrics[j]? = some metric →
    data.get? (metricName lower metric group) = some (lines.filterMap (Line.value group j))

theorem Sorted.snoc {names : List Text} {lines : List (Line stream.metrics)} {line : Line stream.metrics}
    {data data' : Data} (before : stream.Sorted names lines data) (same : data'.keys = data.keys)
    (added : ∀ group ∈ stream.groups, ∀ j metric, stream.metrics[j]? = some metric →
      data'.get? (metricName lower metric group) =
        (data.get? (metricName lower metric group)).map (· ++ (line.value group j).toList)) :
    stream.Sorted names (lines ++ [line]) data' := by
  refine ⟨same.trans before.1, ?_⟩
  intro group known j metric here
  rw [added group known j metric here, before.2 group known j metric here, List.filterMap_append]
  cases value : line.value group j with
  | none => simp [value]
  | some text => simp [value]

theorem values_zip {row : Row stream.metrics.length} (member : row.group ∈ stream.groups)
    {group : Text} (known : group ∈ stream.groups) {j : Nat} {metric : Text}
    (here : stream.metrics[j]? = some metric) :
    (((stream.metrics.map fun metric => metricName lower metric row.group).zip row.values).filterMap
        fun pair => if pair.1 = metricName lower metric group then some pair.2 else none) =
      ((Line.row row).value group j).toList := by
  unfold Line.value
  dsimp only
  by_cases same : row.group = group
  · rw [if_pos same, same]
    apply filterMap_zip_of_nodup (nodup_names stream.distinctMetrics group)
    · rw [List.length_map, row.length]
    · rw [List.getElem?_map, here]
      rfl
  · rw [if_neg same]
    apply filterMap_zip_of_not_mem
    intro inside
    obtain ⟨metric', -, named⟩ := List.mem_map.mp inside
    exact same (metricName_inj (stream.cleanGroups _ member) (stream.cleanGroups _ known) named).2

theorem capture_skipped {metname : Option (List Text)} {line : Text} (matched : infopat line = true)
    (data : Data) : capture lower metname data line = .ok data := by
  rw [capture, infopat_strip, if_pos matched]

theorem capture_line {cores : List Text} (all : cores.Perm stream.groups) {lines : List (Line stream.metrics)}
    {line : Line stream.metrics} (member : line ∈ blockLines stream.blocks) {data : Data}
    (before : stream.Sorted (columnNames lower stream.metrics cores) lines data) :
    ∃ data', capture lower (some ("CORE".toList :: stream.metrics)) data line.text = .ok data' ∧
      stream.Sorted (columnNames lower stream.metrics cores) (lines ++ [line]) data' := by
  cases line with
  | time text marked =>
      exact ⟨data, capture_skipped (infopat_of_hasTime marked) data,
        before.snoc rfl fun _ _ _ _ _ => by simp [Line.value]⟩
  | header text words =>
      exact ⟨data, capture_skipped (infopat_header words) data,
        before.snoc rfl fun _ _ _ _ _ => by simp [Line.value]⟩
  | row row =>
      have own := group_mem member
      have keys : ∀ pair ∈ (stream.metrics.map fun metric => metricName lower metric row.group).zip row.values,
          pair.1 ∈ data.keys := by
        intro pair inside
        obtain ⟨metric, listed, named⟩ := List.mem_map.mp (List.of_mem_zip inside).1
        rw [before.1, mem_columnNames]
        exact ⟨row.group, all.mem_iff.mpr own, metric, listed, named.symm⟩
      obtain ⟨data', run, same, added⟩ := foldlM_append keys
      refine ⟨data', (capture_row _ row data).trans run, before.snoc same ?_⟩
      intro group known j metric here
      rw [added, values_zip own known here]

theorem map_fst_of_padded {entries : List (Text × List Text)} {table : List Column}
    (padded : List.Forall₂ Padded entries table) : table.map Prod.fst = entries.map Prod.fst := by
  induction padded with
  | nil => rfl
  | cons here _ ih => rw [List.map_cons, List.map_cons, here.1, ih]

theorem captured_toCsv {toCsv : Data → List Column} (transposes : Transposes toCsv) {cores : List Text}
    (all : cores.Perm stream.groups) {k : Nat} {data : Data}
    (sorted : stream.Sorted (columnNames lower stream.metrics cores) (stream.fromSecond k) data) :
    stream.Captured k (toCsv data) := by
  have names : (toCsv data).map Prod.fst = data.keys := map_fst_of_padded (transposes data)
  constructor
  · rw [names]
    exact data.distinct
  · intro group known j metric here
    have entry := Dict.mem_entries_iff.mpr (sorted.2 group known j metric here)
    obtain ⟨⟨name, cells⟩, inside, named, padding, filled⟩ := forall₂_exists_right (transposes data) entry
    cases named
    cases filled
    exact ⟨padding, inside⟩
  · intro column member
    have key : column.1 ∈ data.keys := names ▸ List.mem_map_of_mem member
    rw [sorted.1, mem_columnNames] at key
    obtain ⟨core, inside, metric, listed, name⟩ := key
    exact ⟨core, all.mem_iff.mp inside, metric, listed, name⟩

theorem sorted_start {cores : List Text} (all : cores.Perm stream.groups) (count : Nat) (core : Text)
    {time : Text} (marked : hasTime time = true) :
    ∃ data, (⟨count, some (core :: stream.metrics), cores⟩ : Discovery).data lower = .ok data ∧
      stream.Sorted (columnNames lower stream.metrics cores) [.time time marked] data := by
  have distinct : (columnNames lower stream.metrics cores).Nodup :=
    nodup_columnNames stream.distinctMetrics (all.nodup_iff.mpr stream.distinctGroups)
      fun core member => stream.cleanGroups core (all.mem_iff.mp member)
  obtain ⟨data, prepared, keys, empty⟩ := data_start count core distinct
  refine ⟨data, prepared, keys, ?_⟩
  intro group known j metric here
  exact empty _ (mem_columnNames.mpr
    ⟨group, all.mem_iff.mpr known, metric, List.mem_of_getElem? here, rfl⟩)

/-- The interrupt finds the columns of the lines that were read before it. -/
theorem runAndCapturePqos_captured {toCsv : Data → List Column} (transposes : Transposes toCsv)
    (stream : Stream lower) (plain : ∀ metric ∈ stream.metrics, hasTime metric = false) {k : Nat}
    (waiting : stream.Waiting k) :
    ∃ table, runAndCapturePqos lower toCsv (stream.consumed k) = .ok table ∧ stream.Captured k table := by
  obtain ⟨block, -, time, marked, lines, seen, later⟩ := seen_of_waiting plain waiting
  have inside : ∀ line ∈ lines, line ∈ blockLines stream.blocks := by
    intro line member
    have read : line ∈ stream.fromSecond k := later ▸ List.mem_cons_of_mem _ member
    exact List.mem_of_mem_take (List.mem_of_mem_drop read)
  -- The first loop has taken the `TIME` line of the second block, which has no values.
  obtain ⟨data, prepared, start⟩ := sorted_start block.each 2 "CORE".toList marked
  obtain ⟨data', run, sorted⟩ := except_foldlM_history
    (f := fun data line => capture lower (some ("CORE".toList :: stream.metrics)) data line.text)
    (R := stream.Sorted (columnNames lower stream.metrics (block.rows.map Row.group)))
    (fun member before => capture_line block.each (inside _ member) before) start
  refine ⟨toCsv data', ?_, captured_toCsv transposes block.each (later ▸ sorted)⟩
  have found : discover (perflineout (stream.consumed k)) .start =
      (⟨2, some ("CORE".toList :: stream.metrics), block.rows.map Row.group⟩, lines.map Line.text) := by
    rw [discover_consumed, seen, List.map_append, List.map_cons]
    exact discover_block plain block marked _
  have rest : (lines.map Line.text).foldlM (capture lower (some ("CORE".toList :: stream.metrics))) data =
      .ok data' := by
    rw [List.foldlM_map]
    exact run
  unfold runAndCapturePqos
  rw [found]
  dsimp only
  rw [if_neg (Nat.lt_irrefl 2), except_bind_ok]
  exact ⟨data, prepared, except_bind_ok.mpr ⟨data', rest, rfl⟩⟩

end Stream

theorem words_firstRow : wordsOf isSpace "   0-3    1.25\n".toList = ["0-3".toList, "1.25".toList] := by
  decide

theorem plain_firstRow : ∀ word ∈ ["0-3".toList, "1.25".toList], infopat word = false := by decide

theorem words_secondRow : wordsOf isSpace "   0-3    1.31\n".toList = ["0-3".toList, "1.31".toList] := by
  decide

theorem plain_secondRow : ∀ word ∈ ["0-3".toList, "1.31".toList], infopat word = false := by decide

theorem hasTime_timeLine : hasTime "TIME 10:00:01\n".toList = true := by decide

theorem clean_group : '_' ∉ "0-3".toList := by decide

section TwoBlocks

variable {metric header : Text} (words : wordsOf isSpace header = ["CORE".toList, metric])

def firstBlock : Block [metric] ["0-3".toList] where
  time := "TIME 10:00:01\n".toList
  marked := hasTime_timeLine
  header := header
  words := words
  rows := [⟨_, _, _, words_firstRow, rfl, plain_firstRow⟩]
  each := .refl _

def secondBlock : Block [metric] ["0-3".toList] where
  time := "TIME 10:00:01\n".toList
  marked := hasTime_timeLine
  header := header
  words := words
  rows := [⟨_, _, _, words_secondRow, rfl, plain_secondRow⟩]
  each := .refl _

theorem kept_twoBlocks (kept : contains "time".toList header = false) :
    ∀ line ∈ [] ++ (blockLines [firstBlock words, secondBlock words]).map Line.text,
      contains "time".toList line = false := by
  have texts : [] ++ (blockLines [firstBlock words, secondBlock words]).map Line.text =
      ["TIME 10:00:01\n".toList, header, "   0-3    1.25\n".toList,
        "TIME 10:00:01\n".toList, header, "   0-3    1.31\n".toList] := rfl
  have time : contains "time".toList "TIME 10:00:01\n".toList = false := by decide
  have first : contains "time".toList "   0-3    1.25\n".toList = false := by decide
  have second : contains "time".toList "   0-3    1.31\n".toList = false := by decide
  rw [texts]
  simp only [List.forall_mem_cons]
  exact ⟨time, kept, first, time, kept, second, List.forall_mem_nil _⟩

def twoBlocks (kept : contains "time".toList header = false) : Stream (List.map Char.toLower) where
  metrics := [metric]
  groups := ["0-3".toList]
  preamble := []
  blocks := [firstBlock words, secondBlock words]
  read := List.forall_mem_nil _
  quiet := List.forall_mem_nil _
  kept := kept_twoBlocks words kept
  distinctGroups := List.nodup_singleton _
  distinctMetrics := List.nodup_singleton _
  cleanGroups := List.forall_mem_singleton.mpr clean_group

end TwoBlocks

theorem words_ipc : wordsOf isSpace "  CORE     IPC\n".toList = ["CORE".toList, "IPC".toList] := by
  decide

theorem kept_ipc : contains "time".toList "  CORE     IPC\n".toList = false := by decide

def ipcStream : Stream (List.map Char.toLower) := twoBlocks words_ipc kept_ipc

theorem ipcStream_captured : ipcStream.Waiting 6 ∧ ∃ table,
    runAndCapturePqos (List.map Char.toLower) filledUp (ipcStream.consumed 6) = .ok table ∧
      ipcStream.Captured 6 table := by
  have waiting : ipcStream.Waiting 6 := by
    unfold Stream.Waiting
    decide
  have plain : ∀ metric ∈ ipcStream.metrics, hasTime metric = false := by decide
  exact ⟨waiting, Stream.runAndCapturePqos_captured filledUp_transposes ipcStream plain waiting⟩

theorem words_runtime : wordsOf isSpace "  CORE     RUNTIME\n".toList = ["CORE".toList, "RUNTIME".toList] := by
  decide

theorem kept_runtime : contains "time".toList "  CORE     RUNTIME\n".toList = false := by decide

def runtimeStream : Stream (List.map Char.toLower) := twoBlocks words_runtime kept_runtime

/-- The first header counts as the second line with `TIME`.  The second loop waits for its first line
    without any column, and an interrupt there writes an empty file. -/
theorem runtimeStream_not_captured : runtimeStream.Waiting 2 ∧ ¬ ∃ table,
    runAndCapturePqos (List.map Char.toLower) filledUp (runtimeStream.consumed 2) = .ok table ∧
      runtimeStream.Captured 2 table := by
  have waiting : runtimeStream.Waiting 2 := by
    unfold Stream.Waiting
    decide
  have empty : runAndCapturePqos (List.map Char.toLower) filledUp (runtimeStream.consumed 2) = .ok [] := by
    have found : discover (perflineout (runtimeStream.consumed 2)) .start = (⟨2, none, []⟩, []) := by
      decide
    unfold runAndCapturePqos
    rw [found]
    rfl
  refine ⟨waiting, ?_⟩
  rintro ⟨table, run, captured⟩
  rw [empty] at run
  cases run
  obtain ⟨padding, missing⟩ := captured.column "0-3".toList List.mem_cons_self 0 _ rfl
  cases missing

end KvmWorkload.PqosMonTool
