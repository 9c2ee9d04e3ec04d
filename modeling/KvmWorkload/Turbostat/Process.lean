import KvmWorkload.Lib.Fields
import KvmWorkload.Lib.Segments

/-! # Averages of turbostat samples

turbostat writes a preamble and then one block of lines for every second, with
one line for each core.  `turbostat_process.sh` sorts the lines of the blocks
into one file for each core and averages the columns of these files.
-/

namespace KvmWorkload.Turbostat.Process

/-- How awk reads a number from a field and prints one.  Between the two it computes with doubles, here with
    exact rationals. -/
structure Numbers where
  read : Text → Rat
  print : Rat → Text

/-- `awk '{ sum += $k; n++ } END { if (n > 0) print sum / n; }'`. -/
def average (numbers : Numbers) (lines : List Text) (k : Nat) : Option Text :=
  let total := lines.foldl (fun total line => (total.1 + numbers.read (field k line), total.2 + 1)) ((0 : Rat), 0)
  if total.2 > 0 then some (numbers.print (total.1 / (total.2 : Nat))) else none

/-- The files `output_n`; one that does not exist is read as empty. -/
abbrev Files := Nat → List Text

/-- `>> output_n`. -/
def Files.append (files : Files) (n : Nat) (lines : List Text) : Files :=
  fun m => if m = n then files m ++ lines else files m

/-- `sed 'line!d'`. -/
def sed (line : Nat) (input : List Text) : List Text := (input[line - 1]?).toList

section Loops

variable (input : List Text) (cores start : Nat)

/-- The inner loop, over the cores. -/
def coreLoop (files : Files) (entry : Nat) : Files :=
  (List.range cores).foldl
    (fun files core => files.append (core + start) (sed (66 + core + entry * (cores + 2)) input)) files

/-- The outer loop.  Its variable starts at the first core. -/
def entryLoop : Files :=
  let coreEntries := input.length / cores
  (List.range' start (coreEntries - start)).foldl (coreLoop input cores start) fun _ => []

end Loops

/-- A line of output_average_per_core.txt; `echo` drops the averages that are missing. -/
def averageRow (numbers : Numbers) (core : Nat) (lines : List Text) : Text :=
  [' '].intercalate (decimal core :: [3, 4, 5, 6, 7, 8].filterMap (average numbers lines))

/-- The files that the script leaves, and the averages that it prints. -/
structure Outcome where
  files : Files
  perCore : List Text
  overall : List Text

def turbostatProcess (numbers : Numbers) (input : List Text) (cores start : Nat) : Outcome :=
  let files := entryLoop input cores start
  let perCore := (List.range cores).map fun core => averageRow numbers (core + start) (files (core + start))
  { files, perCore, overall := [2, 3, 4, 5, 6, 7].filterMap (average numbers perCore) }

/-- What turbostat has written for a number of cores. -/
structure Recording (cores : Nat) where
  preamble : List Text
  blocks : List (List Text)
  preamble_length : preamble.length = 65
  block_length : ∀ block ∈ blocks, block.length = cores + 2

namespace Recording

variable {cores : Nat} (recording : Recording cores)

def lines : List Text := recording.preamble ++ recording.blocks.flatten

/-- The samples of the `k`-th core, one from every block. -/
def samples (k : Nat) : List Text := recording.blocks.filterMap (·[k]?)

end Recording

/-- Every core's file has that core's samples, and the averages are taken over these. -/
structure Averaged (numbers : Numbers) {cores : Nat} (recording : Recording cores) (start : Nat) : Prop where
  files : ∀ k < cores, (turbostatProcess numbers recording.lines cores start).files (start + k) = recording.samples k
  averages : (turbostatProcess numbers recording.lines cores start).perCore =
    (List.range cores).map fun k => averageRow numbers (start + k) (recording.samples k)

section Loops

variable (input : List Text) (cores start : Nat)

theorem append_same (files : Files) (n : Nat) (lines : List Text) : files.append n lines n = files n ++ lines :=
  if_pos rfl

theorem append_other (files : Files) {n m : Nat} (differ : m ≠ n) (lines : List Text) :
    files.append n lines m = files m := if_neg differ

theorem coreLoop_apply (files : Files) (entry : Nat) {k : Nat} (inside : k < cores) :
    coreLoop input cores start files entry (start + k) =
      files (start + k) ++ sed (66 + k + entry * (cores + 2)) input := by
  have walk : ∀ count, (List.range count).foldl
      (fun files core => files.append (core + start) (sed (66 + core + entry * (cores + 2)) input)) files (start + k) =
        if k < count then files (start + k) ++ sed (66 + k + entry * (cores + 2)) input else files (start + k) := by
    intro count
    induction count with
    | zero => rfl
    | succ count ih =>
        rw [List.range_succ, List.foldl_append, List.foldl_cons, List.foldl_nil]
        by_cases last : k = count
        · subst last
          rw [Nat.add_comm k start, append_same, ih, if_neg (by omega), if_pos (by omega)]
        · rw [append_other _ (by omega), ih]
          congr 1
          exact propext (by omega)
  rw [coreLoop, walk, if_pos inside]

theorem foldl_coreLoop (entries : List Nat) (files : Files) {k : Nat} (inside : k < cores) :
    entries.foldl (coreLoop input cores start) files (start + k) =
      files (start + k) ++ entries.flatMap fun entry => sed (66 + k + entry * (cores + 2)) input := by
  induction entries generalizing files with
  | nil => simp
  | cons entry entries ih =>
      rw [List.foldl_cons, ih, coreLoop_apply input cores start files entry inside, List.flatMap_cons,
        List.append_assoc]

end Loops

section Recordings

variable {cores : Nat} (recording : Recording cores) (start : Nat)

theorem length_lines : recording.lines.length = 65 + recording.blocks.length * (cores + 2) := by
  rw [Recording.lines, List.length_append, recording.preamble_length, length_flatten_blocks recording.block_length]

theorem sed_lines {k : Nat} (inside : k < cores) (entry : Nat) :
    sed (66 + k + entry * (cores + 2)) recording.lines = (recording.blocks[entry]?.bind (·[k]?)).toList := by
  have position : 66 + k + entry * (cores + 2) - 1 = 65 + (entry * (cores + 2) + k) := by omega
  rw [sed, position, Recording.lines, List.getElem?_append_right (by rw [recording.preamble_length]; omega),
    recording.preamble_length, Nat.add_sub_cancel_left,
    getElem?_flatten_blocks recording.block_length (by omega)]

theorem blocks_le_entries (some_core : 1 ≤ cores) : recording.blocks.length ≤ recording.lines.length / cores := by
  rw [Nat.le_div_iff_mul_le some_core, length_lines, Nat.mul_add]
  omega

theorem entryLoop_apply (some_core : 1 ≤ cores) {k : Nat} (inside : k < cores) :
    entryLoop recording.lines cores start (start + k) = (recording.blocks.drop start).filterMap (·[k]?) := by
  have enough := blocks_le_entries recording some_core
  rw [entryLoop, foldl_coreLoop _ _ _ _ _ inside, List.nil_append]
  simp only [sed_lines recording inside]
  rw [flatMap_range'_getElem?, List.take_of_length_le]
  rw [List.length_drop]
  omega

theorem length_filterMap_sample {blocks : List (List Text)} (uniform : ∀ block ∈ blocks, block.length = cores + 2)
    {k : Nat} (inside : k < cores) : (blocks.filterMap (·[k]?)).length = blocks.length := by
  rw [List.length_filterMap_eq_countP, List.countP_eq_length]
  intro block member
  have bound : k < block.length := by
    rw [uniform block member]
    omega
  rw [List.getElem?_eq_getElem bound]
  rfl

/-- Every block is counted in the averages of a core when the first core is number 0. -/
theorem averaged_iff (numbers : Numbers) (some_core : 1 ≤ cores) :
    Averaged numbers recording start ↔ start = 0 ∨ recording.blocks = [] := by
  constructor
  · intro averaged
    have first : entryLoop recording.lines cores start (start + 0) = recording.samples 0 :=
      averaged.files 0 some_core
    rw [entryLoop_apply recording start some_core some_core, Recording.samples] at first
    have sizes := congrArg List.length first
    rw [length_filterMap_sample (fun block member => recording.block_length block (List.mem_of_mem_drop member))
      some_core, length_filterMap_sample recording.block_length some_core, List.length_drop] at sizes
    rw [← List.length_eq_zero_iff]
    omega
  · intro all
    have kept : recording.blocks.drop start = recording.blocks := by
      rcases all with rfl | none
      · rfl
      · rw [none, List.drop_nil]
    have files : ∀ k < cores, entryLoop recording.lines cores start (start + k) = recording.samples k := by
      intro k inside
      rw [entryLoop_apply recording start some_core inside, kept, Recording.samples]
    refine ⟨files, List.map_congr_left fun k member => ?_⟩
    rw [Nat.add_comm k start, files k (List.mem_range.mp member)]

end Recordings

def wholeNumbers : Numbers where
  read text := readDecimal text
  print value := decimal value.num.natAbs

def sampleLine : Text := "1 1 1200 45 2600 2700 41 50".toList

def sampleRecording : Recording 1 where
  preamble := List.replicate 65 []
  blocks := [[sampleLine, [], []]]
  preamble_length := List.length_replicate
  block_length := by
    intro block member
    rw [List.mem_singleton.mp member]
    rfl

theorem averaged_core_zero : Averaged wholeNumbers sampleRecording 0 :=
  (averaged_iff sampleRecording 0 wholeNumbers (Nat.le_refl 1)).mpr (.inl rfl)

/-- As core 1 the sample is lost, since the loop over the blocks starts at 1 too. -/
theorem not_averaged_core_one :
    (turbostatProcess wholeNumbers sampleRecording.lines 1 1).files 1 = [] ∧
      sampleRecording.samples 0 = [sampleLine] ∧ ¬ Averaged wholeNumbers sampleRecording 1 := by
  have lost : entryLoop sampleRecording.lines 1 1 (1 + 0) = [] :=
    entryLoop_apply sampleRecording 1 (Nat.le_refl 1) Nat.zero_lt_one
  refine ⟨lost, rfl, fun averaged => ?_⟩
  cases lost.symm.trans (averaged.files 0 Nat.zero_lt_one)

end KvmWorkload.Turbostat.Process
