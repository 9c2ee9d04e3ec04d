import KvmWorkload.Lib.Exec
import KvmWorkload.MemcRedis.Clients
import Mathlib.Data.List.Nodup
import Mathlib.Logic.Function.Basic

/-! # `generate_report`

The report waits for the memtier processes and writes a row for each one that
has ended.  It removes the process from the list that it iterates over, so that
the next process is passed over until the list is gone through again.

A state is what the two loops leave between two processes: the list, the place
of the iterator in it, and the file so far.  Time is the number of polls.
-/

namespace KvmWorkload.MemcRedis

/-- A `Popen` object; two of them are equal only when they are the same. -/
structure Process where
  id : Nat
  args : Text
  deriving DecidableEq

inductive ReportError where
  | indexError
  | fileNotFoundError
  deriving DecidableEq

/-- `list[i]`. -/
def item {α : Type} (list : List α) (i : Nat) : Except ReportError α :=
  match list[i]? with
  | none => .error .indexError
  | some x => .ok x

/-- What the report takes from a command line. -/
structure Target where
  port : Text
  server : Text
  core : Text

def Target.ofArgs (args : Text) : Except ReportError Target := do
  let cmd := args.splitOn ' '
  let port ← item cmd 5
  let server ← item cmd 7
  let binding ← item cmd 2
  let core ← item (binding.splitOn '=') 1
  pure { port, server, core }

/-- The log that is opened. -/
def Target.logfile (target : Target) : Text :=
  "ip".toList ++ target.server ++ "prt".toList ++ target.port ++ "cc".toList ++ target.core ++
    ".txt".toList

/-- The options that the launchers put into a command line. -/
structure Memtier where
  runnuma : Bool
  hostIp : Text
  data : Text
  connection : Text
  ratio : Text
  keyMax : Text
  proto : Text
  num : Text
  pipeline : Text

/-- The words of a command line up to the server. -/
def Memtier.address (memtier : Memtier) (client : Client) : List Text :=
  ["numactl".toList, "--membind=".toList ++ (if memtier.runnuma then ['1'] else ['0']),
    "--physcpubind=".toList ++ decimal client.core, "memtier_benchmark".toList, "-p".toList,
    decimal client.port, "-s".toList, memtier.hostIp]

def Memtier.workload (memtier : Memtier) : List Text :=
  ["-d".toList, memtier.data, "-c".toList, memtier.connection, "--ratio=".toList ++ memtier.ratio,
    "--key-pattern".toList, "G:G".toList, "--key-maximum".toList, memtier.keyMax, "-P".toList,
    memtier.proto, "-n".toList, memtier.num, "--thread=1".toList,
    "--pipeline=".toList ++ memtier.pipeline]

/-- The command line of a client, with single blanks between the words. -/
def Memtier.cmd (memtier : Memtier) (client : Client) : Text :=
  [' '].intercalate (memtier.address client ++ memtier.workload)

theorem Memtier.not_mem_address {memtier : Memtier} (clean : ' ' ∉ memtier.hostIp) (client : Client) :
    ∀ w ∈ memtier.address client, ' ' ∉ w := by
  have blank : ∀ n, ' ' ∉ decimal n := fun n => not_mem_decimal (by decide)
  have option : ∀ {x y : Text}, ' ' ∉ x → ' ' ∉ y → ' ' ∉ x ++ y := fun left right =>
    List.not_mem_append left right
  have node : ' ' ∉ if memtier.runnuma then ['1'] else ['0'] := by split_ifs <;> decide
  unfold Memtier.address
  simp only [List.forall_mem_cons]
  exact ⟨by decide, option (by decide) node, option (by decide) (blank _), by decide, by decide, blank _,
    by decide, clean, List.forall_mem_nil _⟩

theorem splitOn_binding (core : Nat) :
    ("--physcpubind=".toList ++ decimal core).splitOn '=' = ["--physcpubind".toList, decimal core] := by
  have equals : "--physcpubind=".toList = "--physcpubind".toList ++ ['='] := by decide
  have option : '=' ∉ "--physcpubind".toList := by decide
  rw [equals, List.append_assoc, List.singleton_append, List.splitOn_append_cons_self,
    splitOn_of_not_mem option, splitOn_of_not_mem (not_mem_decimal (by decide)), List.singleton_append]

theorem Memtier.ofArgs_cmd (memtier : Memtier) (client : Client) (clean : ' ' ∉ memtier.hostIp) :
    Target.ofArgs (memtier.cmd client) =
      .ok { port := decimal client.port, server := memtier.hostIp, core := decimal client.core } := by
  have split : (memtier.cmd client).splitOn ' ' =
      memtier.address client ++ ([' '].intercalate memtier.workload).splitOn ' ' :=
    splitOn_intercalate_append (memtier.not_mem_address clean client) (List.cons_ne_nil _ _)
  have core : item (("--physcpubind=".toList ++ decimal client.core).splitOn '=') 1 =
      .ok (decimal client.core) := by rw [splitOn_binding]; rfl
  unfold Target.ofArgs
  rw [split]
  exact except_bind_ok.mpr ⟨_, rfl, except_bind_ok.mpr ⟨_, rfl, except_bind_ok.mpr ⟨_, rfl,
    except_bind_ok.mpr ⟨_, core, rfl⟩⟩⟩⟩

/-- `line.split()`. -/
def words (line : Text) : List Text := (line.splitOnP Char.isWhitespace).filter (· ≠ [])

/-- `data_per_instance`. -/
abbrev DataPerInstance := Text → Option Text

def DataPerInstance.set (data : DataPerInstance) (key value : Text) : DataPerInstance :=
  Function.update data key (some value)

/-- The operations, the latency and the bandwidth of a line, under the given keys. -/
def readColumns (qps lat bw line : Text) (data : DataPerInstance) : Except ReportError DataPerInstance := do
  let operation ← item (words line) 1
  let latency ← item (words line) 4
  let bandwidth ← item (words line) 5
  pure (((data.set qps operation).set lat latency).set bw bandwidth)

def readSets (data : DataPerInstance) (line : Text) : Except ReportError DataPerInstance :=
  if contains "Sets ".toList line then
    readColumns "set_qps".toList "set_lat".toList "sbw".toList line data
  else .ok data

def readGets (data : DataPerInstance) (line : Text) : Except ReportError DataPerInstance :=
  if contains "Gets ".toList line then
    readColumns "get_qps".toList "get_lat".toList "gbw".toList line data
  else .ok data

def readLine (data : DataPerInstance) (line : Text) : Except ReportError DataPerInstance := do
  let data ← readSets data line
  readGets data line

/-- What the report finds: `options.mark_name`, the answers of `poll()` after a number of polls, and
    the lines of the log files. -/
structure System where
  markName : Text
  poll : Process → Nat → Bool
  logs : Text → Option (List Text)

namespace System

variable (sys : System)

def header : List Text :=
  [sys.markName, "set_qps".toList, "set_lat".toList, "sbw".toList, "get_qps".toList, "get_lat".toList,
    "gbw".toList, "IP".toList, "port".toList]

def openLog (name : Text) : Except ReportError (List Text) :=
  match sys.logs name with
  | none => .error .fileNotFoundError
  | some lines => .ok lines

/-- The cells of the row with number `index`; a key without a value leaves its cell empty. -/
def row (index : Nat) (process : Process) : Except ReportError (List Text) := do
  let target ← Target.ofArgs process.args
  let logfile ← sys.openLog target.logfile
  let data ← logfile.foldlM readLine fun _ => none
  let data := data.set sys.markName (decimal index)
  let data := data.set "IP".toList target.server
  let data := data.set "port".toList target.port
  pure (sys.header.map fun key => (data key).getD [])

/-- The log of the process exists, and its lines with `Sets ` and `Gets ` have all columns. -/
def LogReady (process : Process) : Prop :=
  ∃ target lines, Target.ofArgs process.args = .ok target ∧ sys.logs target.logfile = some lines ∧
    ∀ line ∈ lines, contains "Sets ".toList line ∨ contains "Gets ".toList line →
      6 ≤ (words line).length

end System

theorem item_of_lt {α : Type} {list : List α} {i : Nat} (inside : i < list.length) :
    item list i = .ok list[i] := by
  unfold item
  rw [List.getElem?_eq_getElem inside]

theorem readColumns_of_columns {line : Text} (columns : 6 ≤ (words line).length) (qps lat bw : Text)
    (data : DataPerInstance) : ∃ data', readColumns qps lat bw line data = .ok data' := by
  unfold readColumns
  rw [item_of_lt (by omega), item_of_lt (by omega), item_of_lt (by omega)]
  exact ⟨_, rfl⟩

theorem readLine_of_columns {line : Text}
    (columns : contains "Sets ".toList line ∨ contains "Gets ".toList line → 6 ≤ (words line).length)
    (data : DataPerInstance) : ∃ data', readLine data line = .ok data' := by
  have sets : ∃ data', readSets data line = .ok data' := by
    unfold readSets
    split_ifs with found
    · exact readColumns_of_columns (columns (.inl found)) ..
    · exact ⟨data, rfl⟩
  obtain ⟨data', sets⟩ := sets
  have gets : ∃ data'', readGets data' line = .ok data'' := by
    unfold readGets
    split_ifs with found
    · exact readColumns_of_columns (columns (.inr found)) ..
    · exact ⟨data', rfl⟩
  obtain ⟨data'', gets⟩ := gets
  refine ⟨data'', ?_⟩
  unfold readLine
  rw [sets]
  exact gets

theorem foldlM_readLine_of_columns {lines : List Text}
    (columns : ∀ line ∈ lines, contains "Sets ".toList line ∨ contains "Gets ".toList line →
      6 ≤ (words line).length) (data : DataPerInstance) :
    ∃ data', lines.foldlM readLine data = .ok data' := by
  induction lines generalizing data with
  | nil => exact ⟨data, rfl⟩
  | cons line lines ih =>
      obtain ⟨here, later⟩ := List.forall_mem_cons.mp columns
      obtain ⟨next, read⟩ := readLine_of_columns here data
      rw [List.foldlM_cons, read]
      exact ih later next

theorem System.LogReady.row_ok {sys : System} {process : Process} (ready : sys.LogReady process)
    (index : Nat) : ∃ cells, sys.row index process = .ok cells := by
  obtain ⟨target, lines, args, found, columns⟩ := ready
  obtain ⟨data, read⟩ := foldlM_readLine_of_columns columns fun _ => none
  have opened : sys.openLog target.logfile = .ok lines := by rw [openLog, found]
  exact ⟨_, except_bind_ok.mpr ⟨target, args, except_bind_ok.mpr ⟨lines, opened,
    except_bind_ok.mpr ⟨data, read, rfl⟩⟩⟩⟩

theorem System.row_number {sys : System} (ip : sys.markName ≠ "IP".toList)
    (port : sys.markName ≠ "port".toList) {index : Nat} {process : Process} {cells : List Text}
    (row : sys.row index process = .ok cells) : cells.head? = some (decimal index) := by
  obtain ⟨target, -, row⟩ := except_bind_ok.mp row
  obtain ⟨lines, -, row⟩ := except_bind_ok.mp row
  obtain ⟨data, -, row⟩ := except_bind_ok.mp row
  cases row
  unfold header DataPerInstance.set
  rw [List.map_cons, List.head?_cons, Function.update_of_ne port, Function.update_of_ne ip,
    Function.update_self]
  rfl

/-- The variables of `generate_report` and the lines of the summary file. -/
structure Reporting where
  processGroup : List Process
  /-- The place of the iterator of `for process in process_group`. -/
  position : Nat
  polls : Nat
  index : Nat
  file : List (List Text)

namespace Reporting

/-- The process has not ended: `time.sleep(1)`. -/
def sleep (s : Reporting) : Reporting := { s with position := s.position + 1, polls := s.polls + 1 }

/-- The row is written and the process removed; the iterator moves on all the same. -/
def report (s : Reporting) (process : Process) (cells : List Text) : Reporting where
  processGroup := s.processGroup.erase process
  position := s.position + 1
  polls := s.polls + 1
  index := s.index + 1
  file := s.file ++ [cells]

/-- The iterator is at its end and `while` starts another one. -/
def again (s : Reporting) : Reporting := { s with position := 0 }

end Reporting

namespace System

variable (sys : System)

/-- The header is appended to what the file held. -/
def start (processGroup : List Process) (old : List (List Text)) : Reporting where
  processGroup := processGroup
  position := 0
  polls := 0
  index := 0
  file := old ++ [sys.header]

/-- The body of the inner loop, or the end of it. -/
def visit : EStateM ReportError Reporting Unit := fun s =>
  match s.processGroup[s.position]? with
  | none => .ok () s.again
  | some process =>
      if sys.poll process s.polls then
        match sys.row (s.index + 1) process with
        | .error e => .error e { s with position := s.position + 1, polls := s.polls + 1 }
        | .ok cells => .ok () (s.report process cells)
      else .ok () s.sleep

/-- `generate_report`, up to `n` steps of its loops. -/
def generateReport (n : Nat) : EStateM ReportError Reporting Unit :=
  whileFor (fun s => !s.processGroup.isEmpty) sys.visit n

end System

/-- What a step of the loops can be. -/
inductive Visited (sys : System) (s : Reporting) : Reporting → Prop where
  | again : s.processGroup.length ≤ s.position → Visited sys s s.again
  | sleep {process : Process} : s.processGroup[s.position]? = some process →
      sys.poll process s.polls = false → Visited sys s s.sleep
  | report {process : Process} {cells : List Text} : process ∈ s.processGroup →
      sys.row (s.index + 1) process = .ok cells → Visited sys s (s.report process cells)

theorem System.visit_ok {sys : System} {s : Reporting}
    (ready : ∀ process ∈ s.processGroup, sys.LogReady process) :
    ∃ s', sys.visit s = .ok () s' ∧ Visited sys s s' := by
  unfold visit
  cases found : s.processGroup[s.position]? with
  | none => exact ⟨_, rfl, .again (List.getElem?_eq_none_iff.mp found)⟩
  | some process =>
      have member := List.mem_of_getElem? found
      cases ended : sys.poll process s.polls with
      | false =>
          simp only [ended]
          exact ⟨_, rfl, .sleep found ended⟩
      | true =>
          obtain ⟨cells, row⟩ := (ready process member).row_ok (s.index + 1)
          simp only [ended, if_true, row]
          exact ⟨_, rfl, .report member row⟩

/-- The processes that have been reported, in the order of their rows: they are those that are no
    longer in the list, and their rows are numbered from 1. -/
structure Accounts (sys : System) (processGroup : List Process) (old : List (List Text))
    (reported : List Process) (s : Reporting) : Prop where
  once : reported.Nodup
  removed : ∀ process, process ∈ reported ↔ process ∈ processGroup ∧ process ∉ s.processGroup
  rows : ∃ rows, s.file = old ++ sys.header :: rows ∧
    rows.map .ok = reported.mapIdx fun k process => sys.row (k + 1) process
  index : s.index = reported.length
  left : s.processGroup.Sublist processGroup

theorem Visited.accounts {sys : System} {processGroup reported : List Process}
    {old : List (List Text)} (distinct : processGroup.Nodup) {s s' : Reporting}
    (visited : Visited sys s s') (accounts : Accounts sys processGroup old reported s) :
    ∃ reported', Accounts sys processGroup old reported' s' := by
  obtain ⟨once, removed, ⟨rows, file, cells⟩, index, left⟩ := accounts
  cases visited with
  | again _ => exact ⟨reported, once, removed, ⟨rows, file, cells⟩, index, left⟩
  | sleep _ _ => exact ⟨reported, once, removed, ⟨rows, file, cells⟩, index, left⟩
  | @report process newCells member row =>
      have fresh : process ∉ reported := fun again => ((removed process).mp again).2 member
      refine ⟨reported ++ [process], ?_, ?_, ⟨rows ++ [newCells], ?_, ?_⟩, ?_, ?_⟩
      · exact once.append (List.nodup_singleton _) (List.disjoint_singleton.mpr fresh)
      · intro other
        rw [List.mem_append, List.mem_singleton, removed other]
        change _ ↔ other ∈ processGroup ∧ other ∉ s.processGroup.erase process
        rw [(distinct.sublist left).mem_erase_iff]
        by_cases same : other = process
        · subst same
          simp [left.subset member]
        · simp [same]
      · simp [Reporting.report, file]
      · simp [cells, List.mapIdx_append, ← index, row]
      · simp [Reporting.report, index]
      · exact List.erase_sublist.trans left

/-- The rows behind the header are numbered 1, 2, ... in the order of the file. -/
def Numbered (old : List (List Text)) (s : Reporting) : Prop :=
  ∀ (k : Nat) (cells : List Text), s.file[old.length + 1 + k]? = some cells → cells.head? = some (decimal (k + 1))

theorem Accounts.numbered {sys : System} {processGroup reported : List Process}
    {old : List (List Text)} {s : Reporting} (accounts : Accounts sys processGroup old reported s)
    (ip : sys.markName ≠ "IP".toList) (port : sys.markName ≠ "port".toList) : Numbered old s := by
  intro k cells found
  obtain ⟨rows, file, written⟩ := accounts.rows
  have inRows : rows[k]? = some cells := by
    rw [file, List.getElem?_append_right (by omega), Nat.add_assoc, Nat.add_sub_cancel_left,
      Nat.add_comm 1 k, List.getElem?_cons_succ] at found
    exact found
  have row := congrArg (·[k]?) written
  simp only [List.getElem?_map, inRows, Option.map_some, List.getElem?_mapIdx] at row
  obtain ⟨process, -, row⟩ := Option.map_eq_some_iff.mp row.symm
  exact sys.row_number ip port row

/-- Every process ends at some time and then stays so. -/
structure Completes (sys : System) (processGroup : List Process) : Prop where
  ends : ∀ process ∈ processGroup, ∃ t, sys.poll process t = true
  stays : ∀ process ∈ processGroup, ∀ t t', t ≤ t' → sys.poll process t = true →
    sys.poll process t' = true

theorem Completes.exists_all {sys : System} {processGroup : List Process}
    (completes : Completes sys processGroup) :
    ∃ deadline, ∀ process ∈ processGroup, ∀ t, deadline ≤ t → sys.poll process t = true := by
  obtain ⟨ends, stays⟩ := completes
  induction processGroup with
  | nil => exact ⟨0, List.forall_mem_nil _⟩
  | cons process rest ih =>
      obtain ⟨⟨here, ended⟩, later⟩ := List.forall_mem_cons.mp ends
      obtain ⟨stay, stayLater⟩ := List.forall_mem_cons.mp stays
      obtain ⟨deadline, all⟩ := ih later stayLater
      refine ⟨max here deadline, List.forall_mem_cons.mpr ⟨?_, ?_⟩⟩
      · intro t late
        exact stay here t (by omega) ended
      · intro other member t late
        exact all other member t (by omega)

/-- How many steps the loops can still take: a poll either comes before the deadline or removes a
    process, and the iterator starts again only once behind its end. -/
def Reporting.stepsLeft (deadline : Nat) (s : Reporting) : Nat :=
  2 * (deadline - s.polls + s.processGroup.length) +
    if s.processGroup.length ≤ s.position then 1 else 0

theorem Visited.stepsLeft_lt {sys : System} {deadline : Nat} {s s' : Reporting}
    (deadlineMet : ∀ process ∈ s.processGroup, ∀ t, deadline ≤ t → sys.poll process t = true)
    (more : s.processGroup ≠ []) (visited : Visited sys s s') :
    s'.stepsLeft deadline < s.stepsLeft deadline := by
  have positive := List.length_pos_of_ne_nil more
  unfold Reporting.stepsLeft
  cases visited with
  | again past =>
      change 2 * (deadline - s.polls + s.processGroup.length) +
        (if s.processGroup.length ≤ 0 then 1 else 0) < _
      rw [if_pos past, if_neg (by omega)]
      omega
  | sleep found running =>
      have early : s.polls < deadline := by
        apply Nat.lt_of_not_le
        intro late
        rw [deadlineMet _ (List.mem_of_getElem? found) _ late] at running
        cases running
      change 2 * (deadline - (s.polls + 1) + s.processGroup.length) +
        (if s.processGroup.length ≤ s.position + 1 then 1 else 0) < _
      split_ifs <;> omega
  | @report process _ member row =>
      change 2 * (deadline - (s.polls + 1) + (s.processGroup.erase process).length) +
        (if (s.processGroup.erase process).length ≤ s.position + 1 then 1 else 0) < _
      rw [List.length_erase_of_mem member]
      split_ifs <;> omega

theorem System.visit_round {sys : System} {processGroup : List Process} {old : List (List Text)}
    (distinct : processGroup.Nodup) (ready : ∀ process ∈ processGroup, sys.LogReady process)
    {deadline : Nat}
    (all : ∀ process ∈ processGroup, ∀ t, deadline ≤ t → sys.poll process t = true) {s : Reporting}
    (before : ∃ reported, Accounts sys processGroup old reported s)
    (more : (!s.processGroup.isEmpty) = true) :
    ∃ s', sys.visit s = .ok () s' ∧ (∃ reported, Accounts sys processGroup old reported s') ∧
      s'.stepsLeft deadline < s.stepsLeft deadline := by
  obtain ⟨reported, accounts⟩ := before
  have subset := accounts.left.subset
  have some_left : s.processGroup ≠ [] := by simpa using more
  obtain ⟨s', run, visited⟩ := sys.visit_ok fun process member => ready process (subset member)
  have fewer := visited.stepsLeft_lt (fun process member => all process (subset member)) some_left
  exact ⟨s', run, visited.accounts distinct accounts, fewer⟩

theorem generateReport_accounts {sys : System} {processGroup : List Process}
    (old : List (List Text)) (distinct : processGroup.Nodup)
    (ready : ∀ process ∈ processGroup, sys.LogReady process)
    (completes : Completes sys processGroup) :
    (∀ n, ∃ s reported, sys.generateReport n (sys.start processGroup old) = .ok () s ∧
        Accounts sys processGroup old reported s) ∧
      ∃ n s reported, sys.generateReport n (sys.start processGroup old) = .ok () s ∧
        s.processGroup = [] ∧ Accounts sys processGroup old reported s ∧
        reported.Perm processGroup := by
  have start : ∃ reported, Accounts sys processGroup old reported (sys.start processGroup old) :=
    ⟨[], List.nodup_nil, by simp [System.start], ⟨[], rfl, rfl⟩, rfl, .refl _⟩
  obtain ⟨deadline, all⟩ := completes.exists_all
  constructor
  · intro n
    have keeps : ∀ s, (∃ reported, Accounts sys processGroup old reported s) →
        (!s.processGroup.isEmpty) = true → ∃ s', sys.visit s = .ok () s' ∧
          ∃ reported, Accounts sys processGroup old reported s' := by
      intro s before more
      obtain ⟨s', run, after, -⟩ := sys.visit_round distinct ready all before more
      exact ⟨s', run, after⟩
    obtain ⟨s, run, reported, accounts⟩ := whileFor_invariant keeps n start
    exact ⟨s, reported, run, accounts⟩
  · obtain ⟨s, run, ⟨reported, accounts⟩, done⟩ := whileFor_ends (Reporting.stepsLeft deadline)
      (fun _ before more => sys.visit_round distinct ready all before more) start (Nat.le_refl _)
    have empty : s.processGroup = [] := by simpa using done
    refine ⟨_, s, reported, run, empty, accounts, ?_⟩
    apply (List.perm_ext_iff_of_nodup accounts.once distinct).mpr
    intro process
    rw [accounts.removed, empty]
    simp

/-- `generate_report` never raises, keeps account of every process at every step, and comes to its
    end with an empty list and one row for each process.  The rows are numbered in the order in which
    they are written, as long as the number's column is not called like one that is filled later. -/
theorem generateReport_complete {sys : System} {processGroup : List Process}
    (old : List (List Text)) (distinct : processGroup.Nodup)
    (ready : ∀ process ∈ processGroup, sys.LogReady process)
    (completes : Completes sys processGroup) (ip : sys.markName ≠ "IP".toList)
    (port : sys.markName ≠ "port".toList) :
    (∀ n, ∃ s reported, sys.generateReport n (sys.start processGroup old) = .ok () s ∧
        Accounts sys processGroup old reported s ∧ Numbered old s) ∧
      ∃ n s reported, sys.generateReport n (sys.start processGroup old) = .ok () s ∧
        s.processGroup = [] ∧ Accounts sys processGroup old reported s ∧ Numbered old s ∧
        reported.Perm processGroup := by
  obtain ⟨always, n, s, reported, run, empty, accounts, all⟩ :=
    generateReport_accounts old distinct ready completes
  refine ⟨fun n => ?_, n, s, reported, run, empty, accounts, accounts.numbered ip port, all⟩
  obtain ⟨s, reported, run, accounts⟩ := always n
  exact ⟨s, reported, run, accounts, accounts.numbered ip port⟩

def sampleMemtier : Memtier where
  runnuma := false
  hostIp := "127.0.0.1".toList
  data := "8".toList
  connection := "16".toList
  ratio := "19:1".toList
  keyMax := "100000".toList
  proto := "redis".toList
  num := "10000".toList
  pipeline := "1".toList

/-- The client on core `i` for port `9001 + i`. -/
def sampleProcess (i : Nat) : Process where
  id := i
  args := sampleMemtier.cmd { port := 9001 + i, core := i }

def sampleLog : List Text :=
  ["Sets 200.00 --- --- 0.25000 15.80".toList, "Gets 10.00 0.00 10.00 0.25000 0.40".toList]

/-- Process `i` has ended after `ends i` polls. -/
def sampleSystem (markName : Text) (ends : Nat → Nat) : System where
  markName := markName
  poll process t := ends process.id ≤ t
  logs _ := some sampleLog

theorem sampleSystem_logReady (markName : Text) (ends : Nat → Nat) (i : Nat) :
    (sampleSystem markName ends).LogReady (sampleProcess i) := by
  have clean : ' ' ∉ sampleMemtier.hostIp := by decide
  have args := sampleMemtier.ofArgs_cmd { port := 9001 + i, core := i } clean
  have columns : ∀ line ∈ sampleLog, 6 ≤ (words line).length := by decide +kernel
  exact ⟨_, sampleLog, args, rfl, fun line member _ => columns line member⟩

theorem sampleSystem_completes (markName : Text) (ends : Nat → Nat) (processGroup : List Process) :
    Completes (sampleSystem markName ends) processGroup where
  ends process _ := ⟨ends process.id, decide_eq_true (Nat.le_refl _)⟩
  stays _ _ _ _ later ended := decide_eq_true (Nat.le_trans (of_decide_eq_true ended) later)

def sampleGroup (n : Nat) : List Process := (List.range n).map sampleProcess

theorem sampleGroup_nodup (n : Nat) : (sampleGroup n).Nodup := by
  apply List.nodup_range.map
  intro i j same
  exact congrArg Process.id same

theorem sampleGroup_ready (markName : Text) (ends : Nat → Nat) (n : Nat) :
    ∀ process ∈ sampleGroup n, (sampleSystem markName ends).LogReady process := by
  intro process member
  obtain ⟨i, -, rfl⟩ := List.mem_map.mp member
  exact sampleSystem_logReady markName ends i

/-- The second process ends before the first. -/
def crossedSystem : System := sampleSystem "inst0".toList fun i => 3 - 3 * i

theorem crossedSystem_complete :
    (∀ process ∈ sampleGroup 2, crossedSystem.LogReady process) ∧
      Completes crossedSystem (sampleGroup 2) ∧
      ∃ n s reported,
        crossedSystem.generateReport n (crossedSystem.start (sampleGroup 2) []) = .ok () s ∧
        s.processGroup = [] ∧ Accounts crossedSystem (sampleGroup 2) [] reported s ∧ Numbered [] s ∧
        reported.Perm (sampleGroup 2) := by
  have ready : ∀ process ∈ sampleGroup 2, crossedSystem.LogReady process := sampleGroup_ready _ _ 2
  have completes : Completes crossedSystem (sampleGroup 2) := sampleSystem_completes _ _ _
  exact ⟨ready, completes,
    (generateReport_complete [] (sampleGroup_nodup 2) ready completes (by decide) (by decide)).2⟩

/-- All three have ended, and the second is passed over in the first pass. -/
example : (finalState ((sampleSystem "inst0".toList fun _ => 0).generateReport 10
      ((sampleSystem "inst0".toList fun _ => 0).start (sampleGroup 3) []))).map
    (fun s => (s.file.map List.getLast?, s.processGroup, s.polls)) =
      some ([some "port".toList, some "9001".toList, some "9003".toList, some "9002".toList], [], 3) := by
  decide +kernel

/-- The column of the numbers is called like that of the ports. -/
def markedPort : System := sampleSystem "port".toList fun _ => 0

theorem markedPort_not_numbered :
    (sampleGroup 1).Nodup ∧ (∀ process ∈ sampleGroup 1, markedPort.LogReady process) ∧
      Completes markedPort (sampleGroup 1) ∧
      ∃ n s, markedPort.generateReport n (markedPort.start (sampleGroup 1) []) = .ok () s ∧
        s.processGroup = [] ∧ ¬ Numbered [] s := by
  have ends : (finalState (markedPort.generateReport 1 (markedPort.start (sampleGroup 1) []))).map
      (fun s => (s.processGroup, s.file[1]?.bind List.head?)) = some ([], some "9001".toList) := by decide +kernel
  obtain ⟨s, run, same⟩ := exists_ok_of_view ends
  obtain ⟨empty, first⟩ := Prod.mk.inj same
  refine ⟨sampleGroup_nodup 1, sampleGroup_ready _ _ 1, sampleSystem_completes _ _ _, 1, s, run, empty, ?_⟩
  intro numbered
  obtain ⟨cells, found, head⟩ := Option.bind_eq_some_iff.mp first
  have one := numbered 0 cells found
  rw [head] at one
  exact absurd one (by decide)

end KvmWorkload.MemcRedis
