import KvmWorkload.Lib.Lists
import KvmWorkload.Lib.Glob
import KvmWorkload.Lib.Segments
import KvmWorkload.MemcRedis.Clients

/-! # The measurement phase

mc_rds_in_vm.sh (and mc_rds_sweep.sh) starts one worker script for each server
instance, all at once.  A worker runs its clients, then copies what its file
pattern finds among the client logs into an instance file; at the end the
instance files that a second pattern finds are added up.

The workers run concurrently, so a run is a schedule: the order in which the
client logs were finished and the workers collected.
-/

namespace KvmWorkload.MemcRedis

inductive ServerType where
  | redis
  | memcache
  deriving DecidableEq

/-- Which of the two scripts runs the phase.  mc_rds_in_vm.sh takes the first client core as an
    argument. -/
inductive Script where
  | inVm (memtiercore : Nat)
  | sweep

/-- The first client core, `ci`. -/
def Script.clientStart : Script → Nat
  | .inVm memtiercore => memtiercore
  | .sweep => 36

def Script.dsize : Script → Nat
  | .inVm _ => 8
  | .sweep => 2048

/-- The ratio of writes to reads. -/
def Script.ratio : Script → Text
  | .inVm _ => "19:1".toList
  | .sweep => "1:4".toList

/-- The arguments of a run, with at least one core for each instance.  Both scripts set `hypt` to
    `off`, so that a core list is one range. -/
structure Config where
  script : Script
  type : ServerType
  physLo : Nat
  physHi : Nat
  ins : Nat
  mccon : Nat
  positive : 1 ≤ ins
  enough : ins ≤ physHi + 1 - physLo

namespace Config

variable (cfg : Config)

def total : Nat := cfg.physHi + 1 - cfg.physLo

/-- Cores for each instance. -/
def cpi : Nat := cfg.total / cfg.ins

/-- `_con${connections}_d${dsize}.txt`, the end of the name of an instance file. -/
def fileEnd : Text :=
  "_con".toList ++ decimal cfg.mccon ++ "_d".toList ++ decimal cfg.script.dsize ++ ".txt".toList

end Config

/-- The variables of the loop that starts the workers. -/
structure Launch where
  serv : Nat
  port : Nat
  i : Nat
  ci : Nat

/-- The arguments of amd_memcached_core_scale.sh. -/
structure Worker where
  tag : Text
  ccore : Text
  server : Text
  curport : Nat

def Launch.worker (cfg : Config) (launch : Launch) : Worker where
  tag := "inst".toList ++ decimal launch.serv
  ccore := rangeText launch.ci (launch.ci + (cfg.cpi - 1))
  server := rangeText launch.i (launch.i + (cfg.cpi - 1))
  curport := launch.port + 1

def Launch.next (cfg : Config) (launch : Launch) : Launch where
  serv := launch.serv + 1
  port := launch.port + 1
  i := launch.i + (cfg.cpi - 1) + 1
  ci := launch.ci + (cfg.cpi - 1) + 1

/-- `while [ "$serv" -lt "${ins}" ]`, with `n` instances to go. -/
def launchLoop (cfg : Config) : Nat → Launch → List Worker
  | 0, _ => []
  | n + 1, launch => launch.worker cfg :: launchLoop cfg n (launch.next cfg)

def workers (cfg : Config) : List Worker :=
  launchLoop cfg cfg.ins
    { serv := 0, port := 9000, i := cfg.physLo, ci := cfg.script.clientStart }

namespace Worker

/-- The clients that client_memt.sh starts for the worker.  A memcached instance is one server,
    whatever its cores; a redis instance has one server for each core. -/
def clients (cfg : Config) (w : Worker) : Except PyError (List Client) :=
  runMemtier
    { serverport := w.curport
      servercores := match cfg.type with
        | .memcache => "0-0".toList
        | .redis => w.server
      clientcores := w.ccore
      percentport := .useallccore
      ratio := cfg.script.ratio }

def logs (cfg : Config) (w : Worker) : List Text :=
  match w.clients cfg with
  | .ok clients => clients.map (logName "127.0.0.1".toList)
  | .error _ => []

/-- `ip127.0.0.1prt${prttag}`, the logs that the worker collects. -/
def logGlob (cfg : Config) (w : Worker) : List GlobPart :=
  match cfg.type with
  | .memcache =>
      [.lit ("ip127.0.0.1prt".toList ++ decimal (9001 + readDecimal (cut 't' 2 w.tag))), .star]
  | .redis => [.lit "ip127.0.0.1prt90".toList, .star]

def fileName (cfg : Config) (w : Worker) : Text := w.tag ++ cfg.fileEnd

end Worker

/-- All client logs of the phase. -/
def allLogs (cfg : Config) : List Text := (workers cfg).flatMap fun w => w.logs cfg

/-- An instance file, by the logs whose lines it holds. -/
structure InstFile where
  name : Text
  logs : List Text

/-- The directory: finished client logs and instance files.  Everything that the patterns of the
    phase could find was removed before it started. -/
structure Disk where
  logs : List Text
  files : List InstFile

inductive Event where
  /-- A client has ended and its log is complete. -/
  | finished (log : Text)
  /-- A worker copies the logs it finds. -/
  | collect (w : Worker)

def Event.log? : Event → Option Text
  | .finished log => some log
  | .collect _ => none

def Event.worker? : Event → Option Worker
  | .finished _ => none
  | .collect w => some w

def Disk.step (cfg : Config) (disk : Disk) : Event → Disk
  | .finished log => { disk with logs := disk.logs ++ [log] }
  | .collect w =>
      { disk with
        files := disk.files ++
          [{ name := w.fileName cfg, logs := disk.logs.filter (globMatches (w.logGlob cfg)) }] }

/-- One run of the phase: every client finishes once, every worker collects once, and no worker
    collects before its own clients have finished. -/
structure Schedule (cfg : Config) where
  events : List Event
  finishes : (events.filterMap Event.log?).Perm (allLogs cfg)
  collects : (events.filterMap Event.worker?).Perm (workers cfg)
  waits : ∀ before w after, events = before ++ .collect w :: after →
    ∀ log ∈ w.logs cfg, log ∈ before.filterMap Event.log?

def Schedule.disk {cfg : Config} (schedule : Schedule cfg) : Disk :=
  schedule.events.foldl (Disk.step cfg) { logs := [], files := [] }

/-- A client's report: the latency lines (milliseconds and percentile) and the throughput. -/
structure Report where
  gets : List (ℚ × ℚ)
  sets : List (ℚ × ℚ)
  totals : ℚ

/-- `inst[0-9]_con${connections}_d${dsize}.txt`. -/
def instGlob (cfg : Config) : List GlobPart := [.lit "inst".toList, .digit, .lit cfg.fileEnd]

def instFiles (cfg : Config) (disk : Disk) : List InstFile :=
  disk.files.filter fun file => globMatches (instGlob cfg) file.name

/-- `hpthrput`, the sum over the lines with `Totals`. -/
def hpthrput (cfg : Config) (report : Text → Report) (disk : Disk) : ℚ :=
  ((instFiles cfg disk).flatMap fun file => file.logs.map fun log => (report log).totals).sum

/-- The latencies of the `GET` lines in an instance file, those above the 95th percentile and below
    the 99.99th. -/
def InstFile.latencies (report : Text → Report) (file : InstFile) : List ℚ :=
  file.logs.flatMap fun log =>
    ((report log).gets.filter fun line => 95 < line.2 ∧ line.2 < 9999 / 100).map Prod.fst

/-- The quantile of a column, interpolated between the neighbours. -/
def quantile (q : ℚ) (values : List ℚ) : ℚ :=
  let sorted := values.insertionSort (· ≤ ·)
  let position := q * (values.length - 1)
  let lower := position.floor.toNat
  let low := sorted.getD lower 0
  low + (sorted.getD (lower + 1) low - low) * (position - lower)

/-- A row of `testsum`: the columns that are averaged. -/
structure Row where
  filename : Text
  avg : ℚ
  p99 : ℚ
  p75 : ℚ

def processStats (report : Text → Report) (file : InstFile) : Row :=
  let values := file.latencies report
  { filename := file.name
    avg := values.sum / values.length
    p99 := quantile (99 / 100) values
    p75 := quantile (75 / 100) values }

def testsum (cfg : Config) (report : Text → Report) (disk : Disk) : List Row :=
  (instFiles cfg disk).map (processStats report)

/-- `bc` with `scale=2`: the digits behind the second are cut off. -/
def scale2 (x : ℚ) : ℚ := (x * 100).floor / 100

/-- `sumavg`, `p99avg` and `p75avg`, by the column that is averaged. -/
def columnAvg (cfg : Config) (column : Row → ℚ) (rows : List Row) : ℚ :=
  scale2 ((rows.map column).sum / cfg.ins)

theorem Config.cpi_pos (cfg : Config) : 0 < cfg.cpi := Nat.div_pos cfg.enough cfg.positive

theorem Config.slice_next (cfg : Config) (start k : Nat) :
    start + k * cfg.cpi + (cfg.cpi - 1) + 1 = start + (k + 1) * cfg.cpi := by
  have := cfg.cpi_pos
  rw [Nat.succ_mul]
  omega

theorem Config.slice_width (cfg : Config) (start : Nat) : start + (cfg.cpi - 1) + 1 - start = cfg.cpi := by
  have := cfg.cpi_pos
  omega

/-- The worker of instance `k`. -/
def workerAt (cfg : Config) (k : Nat) : Worker where
  tag := "inst".toList ++ decimal k
  ccore := rangeText (cfg.script.clientStart + k * cfg.cpi)
    (cfg.script.clientStart + k * cfg.cpi + (cfg.cpi - 1))
  server := rangeText (cfg.physLo + k * cfg.cpi) (cfg.physLo + k * cfg.cpi + (cfg.cpi - 1))
  curport := 9001 + k

theorem launchLoop_eq (cfg : Config) (n k : Nat) :
    launchLoop cfg n
        { serv := k, port := 9000 + k, i := cfg.physLo + k * cfg.cpi,
          ci := cfg.script.clientStart + k * cfg.cpi } =
      (List.range' k n).map (workerAt cfg) := by
  induction n generalizing k with
  | zero => rfl
  | succ n ih =>
      have next := ih (k + 1)
      rw [← cfg.slice_next, ← cfg.slice_next] at next
      rw [launchLoop, List.range'_succ, List.map_cons, ← next]
      have port : 9000 + k + 1 = 9001 + k := by omega
      simp only [Launch.worker, Launch.next, workerAt, ← Nat.add_assoc 9000, port]

theorem workers_eq (cfg : Config) : workers cfg = (List.range cfg.ins).map (workerAt cfg) := by
  have start := launchLoop_eq cfg cfg.ins 0
  rw [workers, List.range_eq_range', ← start]
  simp only [Nat.zero_mul, Nat.add_zero]

/-- The number of servers, and so of ports, of an instance. -/
def Config.ports (cfg : Config) : Nat :=
  match cfg.type with
  | .memcache => 1
  | .redis => cfg.cpi

theorem Config.ports_pos (cfg : Config) : 0 < cfg.ports := by
  cases type : cfg.type <;> simp [ports, type, cfg.cpi_pos]

theorem Script.ratio_ne (script : Script) : script.ratio ≠ "1:0".toList := by
  cases script with
  | inVm => exact (by decide : "19:1".toList ≠ "1:0".toList)
  | sweep => decide

/-- The clients of instance `k`: its client cores from the last to the first, its ports in turn. -/
def clientsAt (cfg : Config) (k : Nat) : List Client :=
  (List.range' (cfg.script.clientStart + k * cfg.cpi) cfg.cpi).reverse.mapIdx
    fun j core => ⟨9001 + k + j % cfg.ports, core⟩

theorem clients_workerAt (cfg : Config) (k : Nat) :
    (workerAt cfg k).clients cfg = .ok (clientsAt cfg k) := by
  have servers : getCoreList (match cfg.type with
      | .memcache => "0-0".toList
      | .redis => (workerAt cfg k).server) =
        .ok (List.range' (match cfg.type with
          | .memcache => 0
          | .redis => cfg.physLo + k * cfg.cpi) cfg.ports) := by
    cases type : cfg.type with
    | memcache =>
        rw [Config.ports, type, show "0-0".toList = rangeText 0 0 by decide]
        exact getCoreList_rangeText 0 0
    | redis => rw [workerAt, getCoreList_rangeText, cfg.slice_width, Config.ports, type]
  have cores : getCoreList (workerAt cfg k).ccore =
      .ok (List.range' (cfg.script.clientStart + k * cfg.cpi) cfg.cpi) := by
    rw [workerAt, getCoreList_rangeText, cfg.slice_width]
  have strategy : strategyOf .useallccore cfg.script.ratio = .exhaustclientcores := by
    rw [strategyOf, if_neg (by simp), if_pos ⟨rfl, cfg.script.ratio_ne⟩]
  rw [Worker.clients, runMemtier_whole servers cores useallccore_whole, strategy, List.length_range']
  exact exhaustclientcores_eq _ _ cfg.ports_pos

theorem logs_workerAt (cfg : Config) (k : Nat) :
    (workerAt cfg k).logs cfg = (clientsAt cfg k).map (logName "127.0.0.1".toList) := by
  rw [Worker.logs, clients_workerAt]

theorem cores_clientsAt (cfg : Config) (k : Nat) : (clientsAt cfg k).map Client.core =
    (List.range' (cfg.script.clientStart + k * cfg.cpi) cfg.cpi).reverse := by
  refine List.ext_getElem? fun j => ?_
  simp only [clientsAt, List.getElem?_map, List.getElem?_mapIdx, Option.map_map]
  cases (List.range' (cfg.script.clientStart + k * cfg.cpi) cfg.cpi).reverse[j]? <;> rfl

theorem cores_disjoint (cfg : Config) {k k' core : Nat}
    (left : core ∈ (clientsAt cfg k).map Client.core)
    (right : core ∈ (clientsAt cfg k').map Client.core) : k = k' := by
  rw [cores_clientsAt, List.mem_reverse] at left right
  have own : ∀ k, core ∈ List.range' (cfg.script.clientStart + k * cfg.cpi) cfg.cpi →
      (core - cfg.script.clientStart) / cfg.cpi = k :=
    fun k inside => ((mem_slice_iff cfg.cpi_pos).mp inside).2
  rw [← own k left, ← own k' right]

theorem nodup_logs (cfg : Config) (k : Nat) : ((workerAt cfg k).logs cfg).Nodup := by
  rw [logs_workerAt, List.nodup_map_iff_inj_on]
  · intro client member client' member' same
    have cores : ((clientsAt cfg k).map Client.core).Nodup := by
      rw [cores_clientsAt, List.nodup_reverse]
      exact List.nodup_range'
    exact List.inj_on_of_nodup_map cores member member' (core_eq_of_logName_eq same)
  · refine List.Nodup.of_map Client.core ?_
    rw [cores_clientsAt, List.nodup_reverse]
    exact List.nodup_range'

theorem logs_disjoint (cfg : Config) {k k' : Nat} {log : Text}
    (left : log ∈ (workerAt cfg k).logs cfg) (right : log ∈ (workerAt cfg k').logs cfg) : k = k' := by
  rw [logs_workerAt] at left right
  obtain ⟨client, member, rfl⟩ := List.mem_map.mp left
  obtain ⟨client', member', same⟩ := List.mem_map.mp right
  have core := core_eq_of_logName_eq same
  exact cores_disjoint cfg (List.mem_map_of_mem member)
    (core ▸ List.mem_map_of_mem member')

theorem allLogs_eq (cfg : Config) :
    allLogs cfg = (List.range cfg.ins).flatMap fun k => (workerAt cfg k).logs cfg := by
  rw [allLogs, workers_eq, List.flatMap_map]

theorem allLogs_nodup (cfg : Config) : (allLogs cfg).Nodup := by
  rw [allLogs_eq, List.nodup_flatMap]
  refine ⟨fun k _ => nodup_logs cfg k, List.nodup_range.imp ?_⟩
  intro k k' differ log left right
  exact differ (logs_disjoint cfg left right)

end KvmWorkload.MemcRedis
