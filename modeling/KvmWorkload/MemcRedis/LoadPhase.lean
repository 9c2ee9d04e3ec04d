import KvmWorkload.MemcRedis.Measurement

/-! # The load phase

Before anything is measured, mc_rds_in_vm.sh (and mc_rds_sweep.sh) starts the
servers of every instance and fills them with one client for each server port.
For redis the load call lists twice as many server cores as the range has: the
range of the instance and a second one from core 112 on.
-/

namespace KvmWorkload.MemcRedis

/-- The variables of the load loop.  `ci` is not among them: it only moves in the measurement
    loop. -/
structure Loading where
  serv : Nat
  port : Nat
  i : Nat
  j : Nat
  ms : Nat
  me : Nat

/-- The arguments of amd_memcached_core_scale.sh in the load loop, with `hypt` off. -/
def Loading.worker (cfg : Config) (load : Loading) : Worker where
  tag := "inst".toList ++ decimal load.serv
  ccore := match cfg.type with
    | .redis => rangeText cfg.script.clientStart (cfg.script.clientStart + (cfg.cpi - 1))
    | .memcache => rangeText load.ms load.me
  server := match cfg.type with
    | .redis =>
        rangeText load.i (load.i + (cfg.cpi - 1)) ++ ',' :: rangeText load.j (load.j + (cfg.cpi - 1))
    | .memcache => rangeText load.i (load.i + (cfg.cpi - 1))
  curport := load.port + 1

def Loading.next (cfg : Config) (load : Loading) : Loading where
  serv := load.serv + 1
  port := load.port + 1
  i := load.i + (cfg.cpi - 1) + 1
  j := load.j + (cfg.cpi - 1) + 1
  ms := load.ms + 2
  me := load.me + 2

/-- `while [ "${serv}" -lt "${ins}" ]`, with `n` instances to go. -/
def loadLoop (cfg : Config) : Nat → Loading → List Worker
  | 0, _ => []
  | n + 1, load => load.worker cfg :: loadLoop cfg n (load.next cfg)

def loadWorkers (cfg : Config) : List Worker :=
  loadLoop cfg cfg.ins
    { serv := 0
      port := 9000
      i := cfg.physLo
      j := 112
      ms := cfg.script.clientStart
      me := cfg.script.clientStart + 1 }

/-- A redis server and the core that it is started for. -/
structure Server where
  port : Nat
  core : Nat
  deriving DecidableEq

/-- `run_redis_server`: the ports start at 9001 in every call.  The cores are popped from the end
    of the reversed list, so they are used in order. -/
def runRedisServer (servercores : Text) : Except PyError (List Server) := do
  let cores ← getCoreList servercores
  pure (List.zipWith Server.mk (List.range' 9001 cores.length) cores)

/-- The clients that client_memt.sh starts in the load phase.  The Python program that starts them
    ends when `generate_report` has seen the end of every process that `run_memtier` returned. -/
def Worker.loadClients (cfg : Config) (w : Worker) : Except PyError (List Client) :=
  runMemtier
    { serverport := w.curport
      servercores := match cfg.type with
        | .memcache => "0-0".toList
        | .redis => w.server
      clientcores := w.ccore
      percentport := .useallccore
      ratio := "1:0".toList }

/-- A call fills every redis server that it started: there are at least as many client cores as
    server ports, and each port has a client that is waited for. -/
structure Worker.Loaded (cfg : Config) (w : Worker) : Prop where
  enough : ∃ servercores clientcores, getCoreList w.server = .ok servercores ∧
    getCoreList w.ccore = .ok clientcores ∧ servercores.length ≤ clientcores.length
  filled : ∃ servers clients, runRedisServer w.server = .ok servers ∧ w.loadClients cfg = .ok clients ∧
    ∀ server ∈ servers, ∃ client ∈ clients, client.port = server.port

/-- Every call of the load loop fills its servers. -/
def LoadComplete (cfg : Config) : Prop := ∀ w ∈ loadWorkers cfg, w.Loaded cfg

/-- The variables when instance `k` is started. -/
def loadingAt (cfg : Config) (k : Nat) : Loading where
  serv := k
  port := 9000 + k
  i := cfg.physLo + k * cfg.cpi
  j := 112 + k * cfg.cpi
  ms := cfg.script.clientStart + 2 * k
  me := cfg.script.clientStart + 1 + 2 * k

theorem next_loadingAt (cfg : Config) (k : Nat) : (loadingAt cfg k).next cfg = loadingAt cfg (k + 1) := by
  simp only [Loading.next, loadingAt, cfg.slice_next]
  rfl

/-- The call for instance `k`. -/
def loadWorkerAt (cfg : Config) (k : Nat) : Worker := (loadingAt cfg k).worker cfg

theorem loadLoop_eq (cfg : Config) (n k : Nat) :
    loadLoop cfg n (loadingAt cfg k) = (List.range' k n).map (loadWorkerAt cfg) := by
  induction n generalizing k with
  | zero => rfl
  | succ n ih =>
      rw [loadLoop, next_loadingAt, ih, List.range'_succ, List.map_cons, loadWorkerAt]

theorem loadWorkers_eq (cfg : Config) : loadWorkers cfg = (List.range cfg.ins).map (loadWorkerAt cfg) := by
  rw [List.range_eq_range', ← loadLoop_eq, loadingAt]
  simp only [Nat.zero_mul, Nat.mul_zero, Nat.add_zero]
  rfl

section Redis

variable {cfg : Config} (redis : cfg.type = .redis) (k : Nat)
include redis

theorem getCoreList_loadServer :
    getCoreList (loadWorkerAt cfg k).server =
      .ok (List.range' (cfg.physLo + k * cfg.cpi) cfg.cpi ++ List.range' (112 + k * cfg.cpi) cfg.cpi) := by
  have text : (loadWorkerAt cfg k).server = [','].intercalate
      ([(cfg.physLo + k * cfg.cpi, cfg.physLo + k * cfg.cpi + (cfg.cpi - 1)),
        (112 + k * cfg.cpi, 112 + k * cfg.cpi + (cfg.cpi - 1))].map fun r => rangeText r.1 r.2) := by
    simp [loadWorkerAt, loadingAt, Loading.worker, redis]
  rw [text, getCoreList_ranges (by simp)]
  simp [cfg.slice_width]

theorem getCoreList_loadCcore :
    getCoreList (loadWorkerAt cfg k).ccore = .ok (List.range' cfg.script.clientStart cfg.cpi) := by
  have text : (loadWorkerAt cfg k).ccore =
      rangeText cfg.script.clientStart (cfg.script.clientStart + (cfg.cpi - 1)) := by
    simp [loadWorkerAt, loadingAt, Loading.worker, redis]
  rw [text, getCoreList_rangeText, cfg.slice_width]

theorem loadClients_loadWorkerAt (clients : List Client) :
    (loadWorkerAt cfg k).loadClients cfg ≠ .ok clients := by
  intro run
  rw [Worker.loadClients, redis, runMemtier_whole (getCoreList_loadServer redis k) (getCoreList_loadCcore redis k)
    useallccore_whole] at run
  have enough := (singleLoop_ok_iff.mp run).1
  have pos := cfg.cpi_pos
  simp at enough
  omega

end Redis

/-- No redis load phase is complete, whatever the range and the number of instances: in every call
    half of the server ports find no client core. -/
theorem not_loadComplete {cfg : Config} (redis : cfg.type = .redis) : ¬ LoadComplete cfg := by
  intro complete
  have first : loadWorkerAt cfg 0 ∈ loadWorkers cfg := by
    rw [loadWorkers_eq]
    exact List.mem_map_of_mem (List.mem_range.mpr cfg.positive)
  obtain ⟨-, clients, -, run, -⟩ := (complete _ first).filled
  exact loadClients_loadWorkerAt redis 0 clients run

/-- One redis instance on cores 0 to 7 and clients from core 8 on, as run_redis.sh starts it on
    sixteen cores. -/
def oneRedis : Config where
  script := .inVm 8
  type := .redis
  physLo := 0
  physHi := 7
  ins := 1
  mccon := 16
  positive := by decide
  enough := by decide

theorem not_loadComplete_oneRedis : ¬ LoadComplete oneRedis := not_loadComplete rfl

/-- Sixteen ports, eight client cores: the ninth `pop` fails. -/
theorem oneRedis_raises :
    (loadWorkers oneRedis).map Worker.server = ["0-7,112-119".toList] ∧
      (loadWorkers oneRedis).map Worker.ccore = ["8-15".toList] ∧
      ∀ w ∈ loadWorkers oneRedis, w.loadClients oneRedis = .error .indexError ∧ ¬ w.Loaded oneRedis := by
  refine ⟨by decide, by decide, ?_⟩
  intro w member
  rw [loadWorkers_eq] at member
  obtain ⟨k, inside, rfl⟩ := List.mem_map.mp member
  obtain rfl : k = 0 := Nat.lt_one_iff.mp (List.mem_range.mp inside)
  refine ⟨by decide +kernel, fun loaded => ?_⟩
  obtain ⟨-, clients, -, run, -⟩ := loaded.filled
  exact loadClients_loadWorkerAt rfl 0 clients run

end KvmWorkload.MemcRedis
