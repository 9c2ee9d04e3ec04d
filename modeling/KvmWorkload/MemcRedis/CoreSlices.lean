import KvmWorkload.MemcRedis.LoadPhase

/-! # Core slices of the measurement phase

The load loop and the measurement loop of mc_rds_in_vm.sh (and mc_rds_sweep.sh)
work on one set of shell variables.  Between the loops the server offsets are
set back, and the client offset is not: the load loop has left it alone.
run_memcache.sh gives the lower half of a VM's cores to the servers and the
upper half to the clients.
-/

namespace KvmWorkload.MemcRedis

/-- The variables that the loops move, with `hypt` off. -/
structure Vars where
  serv : Nat
  port : Nat
  i : Nat
  j : Nat
  ci : Nat
  ms : Nat
  me : Nat

namespace Vars

variable (cfg : Config)

def start : Vars where
  serv := 0
  port := 9000
  i := cfg.physLo
  j := 112
  ci := cfg.script.clientStart
  ms := cfg.script.clientStart
  me := cfg.script.clientStart + 1

/-- The call in the body of the load loop. -/
def loadCall (v : Vars) : Worker where
  tag := "inst".toList ++ decimal v.serv
  ccore := match cfg.type with
    | .redis => rangeText v.ci (v.ci + (cfg.cpi - 1))
    | .memcache => rangeText v.ms v.me
  server := match cfg.type with
    | .redis => rangeText v.i (v.i + (cfg.cpi - 1)) ++ ',' :: rangeText v.j (v.j + (cfg.cpi - 1))
    | .memcache => rangeText v.i (v.i + (cfg.cpi - 1))
  curport := v.port + 1

def loadNext (v : Vars) : Vars :=
  { v with
    serv := v.serv + 1
    port := v.port + 1
    i := v.i + (cfg.cpi - 1) + 1
    j := v.j + (cfg.cpi - 1) + 1
    ms := v.ms + 2
    me := v.me + 2 }

/-- The assignments in front of the measurement loop. -/
def reset (v : Vars) : Vars := { v with serv := 0, port := 9000, i := cfg.physLo, j := 112 }

/-- The call in the body of the measurement loop. -/
def measureCall (v : Vars) : Worker where
  tag := "inst".toList ++ decimal v.serv
  ccore := rangeText v.ci (v.ci + (cfg.cpi - 1))
  server := rangeText v.i (v.i + (cfg.cpi - 1))
  curport := v.port + 1

def measureNext (v : Vars) : Vars :=
  { v with
    serv := v.serv + 1
    port := v.port + 1
    i := v.i + (cfg.cpi - 1) + 1
    j := v.j + (cfg.cpi - 1) + 1
    ci := v.ci + (cfg.cpi - 1) + 1 }

end Vars

/-- `n` rounds of a loop: its calls and the variables behind it. -/
def rounds (call : Vars → Worker) (next : Vars → Vars) : Nat → Vars → List Worker × Vars
  | 0, v => ([], v)
  | n + 1, v =>
      let later := rounds call next n (next v)
      (call v :: later.1, later.2)

/-- The calls of the load phase and of the measurement phase. -/
def scriptCalls (cfg : Config) : List Worker × List Worker :=
  let load := rounds (Vars.loadCall cfg) (Vars.loadNext cfg) cfg.ins (.start cfg)
  let measure := rounds (Vars.measureCall cfg) (Vars.measureNext cfg) cfg.ins (load.2.reset cfg)
  (load.1, measure.1)

def Vars.loading (v : Vars) : Loading where
  serv := v.serv
  port := v.port
  i := v.i
  j := v.j
  ms := v.ms
  me := v.me

def Vars.launch (v : Vars) : Launch where
  serv := v.serv
  port := v.port
  i := v.i
  ci := v.ci

theorem rounds_load (cfg : Config) (n : Nat) {v : Vars} (ci : v.ci = cfg.script.clientStart) :
    (rounds (Vars.loadCall cfg) (Vars.loadNext cfg) n v).1 = loadLoop cfg n v.loading ∧
      (rounds (Vars.loadCall cfg) (Vars.loadNext cfg) n v).2.ci = cfg.script.clientStart := by
  induction n generalizing v with
  | zero => exact ⟨rfl, ci⟩
  | succ n ih =>
      have moved : (v.loadNext cfg).ci = cfg.script.clientStart := ci
      have call : v.loadCall cfg = v.loading.worker cfg := by
        unfold Vars.loadCall Loading.worker
        rw [ci]
        rfl
      obtain ⟨calls, kept⟩ := ih moved
      refine ⟨?_, kept⟩
      rw [rounds, loadLoop, call]
      exact congrArg _ calls

theorem rounds_measure (cfg : Config) (n : Nat) (v : Vars) :
    (rounds (Vars.measureCall cfg) (Vars.measureNext cfg) n v).1 = launchLoop cfg n v.launch := by
  induction n generalizing v with
  | zero => rfl
  | succ n ih =>
      rw [rounds, launchLoop]
      exact congrArg _ (ih (v.measureNext cfg))

theorem scriptCalls_eq (cfg : Config) : scriptCalls cfg = (loadWorkers cfg, workers cfg) := by
  obtain ⟨load, ci⟩ := rounds_load cfg cfg.ins (v := .start cfg) rfl
  apply Prod.ext
  · exact load
  · refine (rounds_measure cfg cfg.ins _).trans ?_
    unfold Vars.launch Vars.reset
    rw [ci]
    rfl

/-- Servers on the cores up to `cc / 2 - 1`, clients on the cores behind: equal slices that do not
    meet. -/
structure HalvesSliced (cc : Nat) (servers clients : List (List Nat)) : Prop where
  serversDisjoint : servers.Pairwise List.Disjoint
  clientsDisjoint : clients.Pairwise List.Disjoint
  width : ∃ width, 0 < width ∧ (∀ cores ∈ servers, cores.Nodup ∧ cores.length = width) ∧
    ∀ cores ∈ clients, cores.Nodup ∧ cores.length = width
  serversInside : ∀ cores ∈ servers, ∀ core ∈ cores, core ≤ cc / 2 - 1
  clientsInside : ∀ cores ∈ clients, ∀ core ∈ cores, cc / 2 ≤ core ∧ core ≤ cc - 1
  apart : ∀ cores ∈ servers, ∀ others ∈ clients, cores.Disjoint others
  exist : ∀ cores ∈ servers ++ clients, ∀ core ∈ cores, core < cc

theorem memcache_enough {cc ins : Nat} (two : 2 ≤ cc) (fits : ins ≤ cc / 2) :
    ins ≤ cc / 2 - 1 + 1 - 0 := by omega

/-- The arguments of run_memcache.sh in a VM with `cc` CPUs, for any number of instances. -/
def runMemcache (cc ins : Nat) (two : 2 ≤ cc) (positive : 1 ≤ ins) (fits : ins ≤ cc / 2) : Config where
  script := .inVm (cc / 2)
  type := .memcache
  physLo := 0
  physHi := cc / 2 - 1
  ins := ins
  mccon := 125
  positive := positive
  enough := memcache_enough two fits

theorem getCoreList_slice (cfg : Config) (start k : Nat) :
    getCoreList (rangeText (start + k * cfg.cpi) (start + k * cfg.cpi + (cfg.cpi - 1))) =
      .ok (slice start cfg.cpi k) := by
  rw [getCoreList_rangeText, cfg.slice_width]
  rfl

theorem getCoreList_server (cfg : Config) :
    (workers cfg).map (fun w => getCoreList w.server) =
      (slices cfg.physLo cfg.cpi cfg.ins).map .ok := by
  rw [workers_eq, slices, List.map_map, List.map_map]
  apply List.map_congr_left
  intro k _
  exact getCoreList_slice cfg _ k

theorem getCoreList_ccore (cfg : Config) :
    (workers cfg).map (fun w => getCoreList w.ccore) =
      (slices cfg.script.clientStart cfg.cpi cfg.ins).map .ok := by
  rw [workers_eq, slices, List.map_map, List.map_map]
  apply List.map_congr_left
  intro k _
  exact getCoreList_slice cfg _ k

/-- The slices stay in the halves: `ins` times the width is at most half of the CPUs. -/
theorem runMemcache_sliced {cc ins : Nat} (two : 2 ≤ cc) (positive : 1 ≤ ins) (fits : ins ≤ cc / 2) :
    ∃ servers clients,
      (scriptCalls (runMemcache cc ins two positive fits)).2.map (fun w => getCoreList w.server) =
        servers.map .ok ∧
      (scriptCalls (runMemcache cc ins two positive fits)).2.map (fun w => getCoreList w.ccore) =
        clients.map .ok ∧
      servers.length = ins ∧ clients.length = ins ∧ HalvesSliced cc servers clients := by
  let cfg := runMemcache cc ins two positive fits
  have width := cfg.cpi_pos
  have room : ins * cfg.cpi ≤ cc / 2 := by
    have whole : cfg.total = cc / 2 := by
      change cc / 2 - 1 + 1 - 0 = cc / 2
      omega
    rw [← whole]
    exact Nat.mul_div_le cfg.total ins
  have server : ∀ cores ∈ slices 0 cfg.cpi ins, ∀ core ∈ cores, core ≤ cc / 2 - 1 := by
    intro cores member core inside
    have bounds := slices_inside member inside
    omega
  have client : ∀ cores ∈ slices (cc / 2) cfg.cpi ins, ∀ core ∈ cores, cc / 2 ≤ core ∧ core ≤ cc - 1 := by
    intro cores member core inside
    have bounds := slices_inside member inside
    omega
  rw [scriptCalls_eq]
  refine ⟨slices 0 cfg.cpi ins, slices (cc / 2) cfg.cpi ins, getCoreList_server cfg,
    getCoreList_ccore cfg, length_slices .., length_slices .., ?_⟩
  constructor
  · exact slices_pairwise 0 ins width
  · exact slices_pairwise (cc / 2) ins width
  · exact ⟨cfg.cpi, width, fun _ => slices_width, fun _ => slices_width⟩
  · exact server
  · exact client
  · intro cores member others member' core left right
    have below := server cores member core left
    have above := client others member' core right
    omega
  · intro cores member core inside
    rcases List.mem_append.mp member with left | right
    · have below := server cores left core inside
      omega
    · have above := client cores right core inside
      omega

/-- Five CPUs and two instances: one core each, and CPU 4 stays free. -/
theorem runMemcache_sliced_five :
    ∃ (two : 2 ≤ 5) (positive : 1 ≤ 2) (fits : 2 ≤ 5 / 2), ∃ servers clients,
      (scriptCalls (runMemcache 5 2 two positive fits)).2.map (fun w => getCoreList w.server) =
        servers.map .ok ∧
      (scriptCalls (runMemcache 5 2 two positive fits)).2.map (fun w => getCoreList w.ccore) =
        clients.map .ok ∧
      servers.length = 2 ∧ clients.length = 2 ∧ HalvesSliced 5 servers clients := by
  have two : 2 ≤ 5 := by decide
  have positive : 1 ≤ 2 := by decide
  have fits : 2 ≤ 5 / 2 := by decide
  exact ⟨two, positive, fits, runMemcache_sliced two positive fits⟩

end KvmWorkload.MemcRedis
