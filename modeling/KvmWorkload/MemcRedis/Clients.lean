import KvmWorkload.Lib.Fields
import Mathlib.Data.Rat.Defs

/-! # Load generators

memtier_client_server_modules.py starts one memtier process for each pair of a
server port and a client core that a launcher picks, and gives it a log file
named after the pair.

The launchers look up `runnuma`, which decides where the memory of a client is
bound.  The variable is taken to be set here; where it is not, as when
run_memcache.sh is the first script, the first client ends in a `KeyError`.
-/

namespace KvmWorkload.MemcRedis

/-- The exceptions that the modules can raise. -/
inductive PyError where
  | valueError
  | typeError
  | indexError
  | zeroDivisionError
  deriving DecidableEq

/-- One memtier process: the port it talks to and the core it is bound to. -/
structure Client where
  port : Nat
  core : Nat
  deriving DecidableEq

/-- The file that the process writes its report to. -/
def logName (hostIp : Text) (client : Client) : Text :=
  "ip".toList ++ hostIp ++ "prt".toList ++ decimal client.port ++ "cc".toList ++
    decimal client.core ++ ".txt".toList

/-- `int(text)` on a run of digits; signs, blanks and underscores do not occur in core lists. -/
def parseInt (text : Text) : Except PyError Nat :=
  if text ≠ [] ∧ text.all Char.isDigit then .ok (readDecimal text) else .error .valueError

/-- One slice of a core list, `start-end`. -/
def coreSlice (slice : Text) : Except PyError (List Nat) :=
  match slice.splitOn '-' with
  | [start, stop] => do
      let start ← parseInt start
      let stop ← parseInt stop
      pure (List.range' start (stop + 1 - start))
  | _ => .error .valueError

/-- `get_core_list(corecount=8, cores=cores)`; the count is that of `--loop_num`, which no script sets. -/
def getCoreList (cores : Text) : Except PyError (List Nat) :=
  if cores.isEmpty then .ok (List.range' 1 8)
  else do
    let slices ← (cores.splitOn ',').mapM coreSlice
    pure slices.flatten

/-- The loop of `exhaustclientcores` over the cores that are still to be popped. -/
def exhaustLoop (portlist : List Nat) : List Nat → Nat → Except PyError (List Client)
  | [], _ => .ok []
  | core :: rest, portidx =>
      match portlist[portidx % portlist.length]? with
      | none => .error .zeroDivisionError
      | some port => do
          let later ← exhaustLoop portlist rest (portidx % portlist.length + 1)
          pure (⟨port, core⟩ :: later)

/-- Cores are popped from the end of the list; ports are used in turn. -/
def exhaustclientcores (clientcores : List Nat) (startport endport : Nat) :
    Except PyError (List Client) :=
  exhaustLoop (List.range' startport (endport - startport)) clientcores.reverse 0

/-- The loop of `singleclientperserver`: every port takes one core from the end of the list. -/
def singleLoop : List Nat → List Nat → Except PyError (List Client)
  | [], _ => .ok []
  | _ :: _, [] => .error .indexError
  | port :: ports, core :: cores => do
      let later ← singleLoop ports cores
      pure (⟨port, core⟩ :: later)

def singleclientperserver (clientcores : List Nat) (startport endport : Nat) :
    Except PyError (List Client) :=
  singleLoop (List.range' startport (endport - startport)) clientcores.reverse

def multiclentperserver (clientcores : List Nat) (startport endport : Nat) : List Client :=
  (List.range' startport (endport - startport)).flatMap fun port =>
    clientcores.reverse.map fun core => ⟨port, core⟩

/-- The values of `--port`. -/
inductive PercentPort where
  | halfTop
  | halfBottom
  | onecperserv
  | useallccore
  | multiclientperservcore
  | all
  deriving DecidableEq

/-- The options that `run_memtier` reads. -/
structure Options where
  serverport : Nat
  servercores : Text
  clientcores : Text
  percentport : PercentPort
  ratio : Text

/-- A number of Python, by its type. -/
inductive Number where
  | int (n : Nat)
  | float (x : ℚ)

/-- `+`: a float makes the sum a float. -/
def Number.add : Number → Number → Number
  | .int m, .int n => .int (m + n)
  | .int m, .float y => .float (m + y)
  | .float x, .int n => .float (x + n)
  | .float x, .float y => .float (x + y)

/-- `/` on two ints, as Python 3 has it. -/
def trueDivision (m n : Nat) : Number := .float ((m : ℚ) / n)

/-- `/` on two ints, as Python 2 had it; `//` in Python 3. -/
def floorDivision (m n : Nat) : Number := .int (m / n)

/-- An argument of `range`. -/
def rangeArgument : Number → Except PyError Nat
  | .int n => .ok n
  | .float _ => .error .typeError

inductive Strategy where
  | singleclientperserver
  | exhaustclientcores
  | multiclentperserver

/-- The client cores and ports that a strategy pairs up, in the order of the calls of `Popen`. -/
def Strategy.clients (strategy : Strategy) (clientcores : List Nat) (startport endport : Nat) :
    Except PyError (List Client) :=
  match strategy with
  | .singleclientperserver => MemcRedis.singleclientperserver clientcores startport endport
  | .exhaustclientcores => MemcRedis.exhaustclientcores clientcores startport endport
  | .multiclentperserver => .ok (MemcRedis.multiclentperserver clientcores startport endport)

section Division

variable (divide : Nat → Nat → Number)

/-- `startport` and `endport`. -/
def portBounds (percentport : PercentPort) (servport corenum : Nat) : Number × Number :=
  match percentport with
  | .halfTop =>
      if corenum % 2 = 0 then (.int servport, (Number.int servport).add (divide corenum 2))
      else (.int servport, ((Number.int servport).add (divide (corenum - 1) 2)).add (.int 1))
  | .halfBottom =>
      if corenum % 2 = 0 then
        ((Number.int servport).add (divide corenum 2), .int (servport + corenum))
      else
        (((Number.int servport).add (divide (corenum - 1) 2)).add (.int 1), .int (servport + corenum))
  | .onecperserv => (.int servport, .int (servport + corenum))
  | .useallccore => (.int servport, .int (servport + corenum))
  | .multiclientperservcore => (.int servport, .int (servport + corenum))
  | .all => (.int servport, .int (servport + corenum))

/-- The launcher that `run_memtier` picks. -/
def strategyOf (percentport : PercentPort) (ratio : Text) : Strategy :=
  if percentport = .onecperserv ∧ ratio ≠ "1:0".toList then .singleclientperserver
  else if percentport = .useallccore ∧ ratio ≠ "1:0".toList then .exhaustclientcores
  else if percentport = .multiclientperservcore then .multiclentperserver
  else .singleclientperserver

/-- `run_memtier` with the given `/`.  Each launcher starts with `range(startport, endport)`. -/
def runMemtierWith (options : Options) : Except PyError (List Client) := do
  let servercores ← getCoreList options.servercores
  let clientcores ← getCoreList options.clientcores
  let bounds := portBounds divide options.percentport options.serverport servercores.length
  let startport ← rangeArgument bounds.1
  let endport ← rangeArgument bounds.2
  (strategyOf options.percentport options.ratio).clients clientcores startport endport

end Division

def runMemtier (options : Options) : Except PyError (List Client) := runMemtierWith trueDivision options

theorem parseInt_decimal (n : Nat) : parseInt (decimal n) = .ok n := by
  rw [parseInt, if_pos ⟨decimal_ne_nil n, all_isDigit_decimal n⟩, readDecimal_decimal]

theorem coreSlice_rangeText (lo hi : Nat) : coreSlice (rangeText lo hi) = .ok (List.range' lo (hi + 1 - lo)) := by
  rw [coreSlice, splitOn_rangeText]
  simp only [parseInt_decimal]
  rfl

theorem getCoreList_of_slices {cores : Text} {slices : List (List Nat)}
    (run : (cores.splitOn ',').mapM coreSlice = .ok slices) : getCoreList cores = .ok slices.flatten := by
  cases cores with
  | nil => cases run
  | cons c rest =>
      rw [getCoreList, run]
      rfl

theorem getCoreList_ranges {ranges : List (Nat × Nat)} (more : ranges ≠ []) :
    getCoreList ([','].intercalate (ranges.map fun r => rangeText r.1 r.2)) =
      .ok (ranges.flatMap fun r => List.range' r.1 (r.2 + 1 - r.1)) := by
  have clean : ∀ w ∈ ranges.map fun r => rangeText r.1 r.2, ',' ∉ w := by
    intro w member
    obtain ⟨r, -, rfl⟩ := List.mem_map.mp member
    exact not_mem_rangeText (by decide) (by decide)
  have slices : (ranges.map fun r => rangeText r.1 r.2).mapM coreSlice =
      .ok (ranges.map fun r => List.range' r.1 (r.2 + 1 - r.1)) := by
    clear clean more
    induction ranges with
    | nil => rfl
    | cons r rest ih =>
        rw [List.map_cons, List.mapM_cons, coreSlice_rangeText, ih]
        rfl
  rw [getCoreList_of_slices, List.flatMap_def]
  rw [List.splitOn_intercalate ',' clean (by simpa using more), slices]

theorem getCoreList_rangeText (lo hi : Nat) :
    getCoreList (rangeText lo hi) = .ok (List.range' lo (hi + 1 - lo)) := by
  have one : [(lo, hi)] ≠ [] := List.cons_ne_nil _ _
  simpa using getCoreList_ranges one

theorem exhaustLoop_range' (startport : Nat) {n : Nat} (some : 0 < n) (cores : List Nat)
    (portidx : Nat) :
    exhaustLoop (List.range' startport n) cores portidx =
      .ok (cores.mapIdx fun j core => ⟨startport + (portidx + j) % n, core⟩) := by
  induction cores generalizing portidx with
  | nil => rfl
  | cons core rest ih =>
      have inside : portidx % n < n := Nat.mod_lt _ some
      have port : (List.range' startport n)[portidx % n]? = .some (startport + portidx % n) := by
        rw [List.getElem?_range' inside, Nat.one_mul]
      rw [exhaustLoop, List.length_range', port, List.mapIdx_cons]
      simp only [ih, bind, Except.bind, pure, Except.pure, Nat.add_zero]
      congr 3
      funext j core
      rw [Nat.add_right_comm, Nat.add_assoc, Nat.mod_add_mod]

theorem exhaustclientcores_eq (clientcores : List Nat) (startport : Nat) {n : Nat} (some : 0 < n) :
    exhaustclientcores clientcores startport (startport + n) =
      .ok (clientcores.reverse.mapIdx fun j core => ⟨startport + j % n, core⟩) := by
  rw [exhaustclientcores, Nat.add_sub_cancel_left, exhaustLoop_range' startport some]
  simp only [Nat.zero_add]

/-- A client for every port needs a core for every port. -/
theorem singleLoop_ok_iff {ports cores : List Nat} {clients : List Client} :
    singleLoop ports cores = .ok clients ↔
      ports.length ≤ cores.length ∧ clients = List.zipWith Client.mk ports cores := by
  induction ports generalizing cores clients with
  | nil => simp [singleLoop, eq_comm]
  | cons port ports ih =>
      cases cores with
      | nil => simp [singleLoop]
      | cons core cores =>
          rw [singleLoop]
          cases run : singleLoop ports cores with
          | error e =>
              have short : ¬ ports.length ≤ cores.length := by
                intro enough
                have ends := ih.mpr ⟨enough, rfl⟩
                rw [run] at ends
                cases ends
              simp [bind, Except.bind, short]
          | ok later =>
              obtain ⟨enough, rfl⟩ := ih.mp run
              simp [bind, Except.bind, pure, Except.pure, enough, eq_comm]

theorem useallccore_whole : PercentPort.useallccore ≠ .halfTop ∧ PercentPort.useallccore ≠ .halfBottom := by decide

theorem runMemtier_whole {options : Options} {servercores clientcores : List Nat}
    (servers : getCoreList options.servercores = .ok servercores)
    (cores : getCoreList options.clientcores = .ok clientcores)
    (whole : options.percentport ≠ .halfTop ∧ options.percentport ≠ .halfBottom) :
    runMemtier options = (strategyOf options.percentport options.ratio).clients clientcores options.serverport
      (options.serverport + servercores.length) := by
  have bounds : portBounds trueDivision options.percentport options.serverport servercores.length =
      (.int options.serverport, .int (options.serverport + servercores.length)) := by
    cases percentport : options.percentport with
    | halfTop => exact absurd percentport whole.1
    | halfBottom => exact absurd percentport whole.2
    | onecperserv | useallccore | multiclientperservcore | all => rfl
  rw [runMemtier, runMemtierWith, servers, cores]
  simp only [bind, Except.bind, bounds, rangeArgument]

theorem core_eq_of_logName_eq {hostIp : Text} {client client' : Client}
    (same : logName hostIp client = logName hostIp client') : client.core = client'.core := by
  have letter : ∀ n, 'c' ∉ decimal n := fun n => not_mem_decimal (by decide)
  have regroup : ∀ x core ext : Text,
      x ++ ['c', 'c'] ++ core ++ ext = x ++ ['c'] ++ 'c' :: core ++ ext := by simp
  have shape : ∀ client : Client, logName hostIp client =
      "ip".toList ++ hostIp ++ "prt".toList ++ decimal client.port ++ ['c'] ++
        'c' :: decimal client.core ++ ".txt".toList := fun _ => regroup _ _ _
  rw [shape, shape] at same
  exact decimal_injective
    (suffix_eq_of_sep (letter client.core) (letter client'.core) (List.append_cancel_right same))

end KvmWorkload.MemcRedis
