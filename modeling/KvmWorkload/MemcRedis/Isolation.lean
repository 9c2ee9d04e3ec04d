import KvmWorkload.Lib.Interleaving
import KvmWorkload.MemcRedis.LoadPhase
import Mathlib.Logic.Function.Basic

/-! # Whose server answers on a port

Every load call for redis first kills all redis servers and then starts its own
on the ports from 9001 on.  mc_rds_in_vm.sh makes the calls one after the
other; mc_rds_sweep.sh makes them all at once, so its runs are interleavings.
The measurement phase neither kills nor starts servers.
-/

namespace KvmWorkload.MemcRedis

/-- What a load call does to the servers. -/
inductive ServerAction where
  /-- `pkill -9 redis-server`. -/
  | pkill
  /-- `redis-server --port <port> &`. -/
  | start (server : Server)
  deriving DecidableEq

/-- The `launchredis` branch of amd_memcached_core_scale.sh; launch_server.py ends early if the core
    list cannot be read. -/
def Worker.launchredis (w : Worker) : List ServerAction :=
  match runRedisServer w.server with
  | .ok servers => .pkill :: servers.map .start
  | .error _ => [.pkill]

/-- The instance whose server is bound to each port. -/
abbrev Owners := Nat → Option Nat

/-- One action of the call for an instance.  A server that finds its port taken exits. -/
def Owners.step (owners : Owners) (event : Nat × ServerAction) : Owners :=
  match event.2 with
  | .pkill => fun _ => none
  | .start server => Function.update owners server.port (some ((owners server.port).getD event.1))

def Owners.after (owners : Owners) (events : List (Nat × ServerAction)) : Owners :=
  events.foldl Owners.step owners

/-- Whether the load calls for redis are put in the background. -/
def Script.background : Script → Bool
  | .inVm _ => false
  | .sweep => true

/-- What instance `k` does in the load phase. -/
def launchAt (cfg : Config) (k : Nat) : List ServerAction := (loadWorkerAt cfg k).launchredis

/-- A run of the load phase. -/
structure LoadRun (cfg : Config) where
  events : List (Nat × ServerAction)
  interleaves : Interleaves (List.range cfg.ins) (launchAt cfg) events
  inOrder : cfg.script.background = false → events = oneByOne (List.range cfg.ins) (launchAt cfg)

/-- The servers when the measurement phase starts; the script has killed all older ones. -/
def LoadRun.owners {cfg : Config} (run : LoadRun cfg) : Owners := Owners.after (fun _ => none) run.events

/-- The clients of an instance talk to its own servers only. -/
structure Isolated (cfg : Config) (run : LoadRun cfg) : Prop where
  disjoint : ∀ k < cfg.ins, ∀ k' < cfg.ins, k ≠ k' → ∀ clients clients',
    (workerAt cfg k).clients cfg = .ok clients → (workerAt cfg k').clients cfg = .ok clients' →
      ∀ client ∈ clients, ∀ client' ∈ clients', client.port ≠ client'.port
  served : ∀ k < cfg.ins, ∀ clients, (workerAt cfg k).clients cfg = .ok clients →
    ∀ client ∈ clients, run.owners client.port = some k

theorem Owners.after_append (owners : Owners) (events later : List (Nat × ServerAction)) :
    owners.after (events ++ later) = (owners.after events).after later :=
  List.foldl_append

theorem after_starts (k : Nat) (servers : List Server) (owners : Owners) (port : Nat) :
    owners.after ((servers.map ServerAction.start).map (Prod.mk k)) port =
      if port ∈ servers.map Server.port then some ((owners port).getD k) else owners port := by
  induction servers generalizing owners with
  | nil => simp [Owners.after]
  | cons server rest ih =>
      have first : owners.step (k, .start server) port =
          if port = server.port then some ((owners port).getD k) else owners port := by
        by_cases here : port = server.port
        · simp [Owners.step, here]
        · simp [Owners.step, here]
      have later := ih (owners.step (k, .start server))
      rw [first] at later
      rw [List.map_cons, List.map_cons, Owners.after, List.foldl_cons]
      refine later.trans ?_
      by_cases here : port = server.port <;> by_cases more : port ∈ rest.map Server.port <;>
        simp_all

section Redis

variable {cfg : Config} (redis : cfg.type = .redis)
include redis

theorem runRedisServer_loadWorkerAt (k : Nat) :
    ∃ servers, runRedisServer (loadWorkerAt cfg k).server = .ok servers ∧
      servers.map Server.port = List.range' 9001 (2 * cfg.cpi) := by
  rw [runRedisServer, getCoreList_loadServer redis k]
  refine ⟨_, rfl, ?_⟩
  apply List.ext_getElem
  · simp [Nat.two_mul]
  · intro i left right
    simp

theorem after_launchAt (k : Nat) (owners : Owners) (port : Nat) :
    owners.after ((launchAt cfg k).map (Prod.mk k)) port =
      if 9001 ≤ port ∧ port < 9001 + 2 * cfg.cpi then some k else none := by
  obtain ⟨servers, launched, ports⟩ := runRedisServer_loadWorkerAt redis k
  have killed : owners.after ((launchAt cfg k).map (Prod.mk k)) =
      Owners.after (fun _ => none) ((servers.map ServerAction.start).map (Prod.mk k)) := by
    rw [launchAt, Worker.launchredis, launched]
    rfl
  rw [killed, after_starts, ports]
  simp only [List.mem_range'_1, Option.getD_none]

theorem after_oneByOne (port : Nat) :
    Owners.after (fun _ => none) (oneByOne (List.range cfg.ins) (launchAt cfg)) port =
      if 9001 ≤ port ∧ port < 9001 + 2 * cfg.cpi then some (cfg.ins - 1) else none := by
  obtain ⟨earlier, split⟩ : ∃ earlier, cfg.ins = earlier + 1 := ⟨cfg.ins - 1, by have := cfg.positive; omega⟩
  rw [split, List.range_succ, oneByOne, List.flatMap_append, Owners.after_append, List.flatMap_singleton,
    after_launchAt redis, Nat.add_sub_cancel]

theorem port_clientsAt {k : Nat} {client : Client} (member : client ∈ clientsAt cfg k) :
    9001 + k ≤ client.port ∧ client.port < 9001 + k + cfg.cpi := by
  obtain ⟨j, inside, rfl⟩ := List.mem_mapIdx.mp member
  have turn : j % cfg.ports < cfg.ports := Nat.mod_lt j cfg.ports_pos
  have ports : cfg.ports = cfg.cpi := by simp [Config.ports, redis]
  dsimp only
  omega

end Redis

/-- The sequential run, which both scripts can take. -/
def LoadRun.sequential (cfg : Config) : LoadRun cfg where
  events := oneByOne (List.range cfg.ins) (launchAt cfg)
  interleaves := oneByOne_interleaves List.nodup_range (launchAt cfg)
  inOrder _ := rfl

theorem clientsAt_ne_nil (cfg : Config) (k : Nat) : clientsAt cfg k ≠ [] := by
  have pos := cfg.cpi_pos
  simp only [clientsAt, ne_eq, List.mapIdx_eq_nil_iff, List.reverse_eq_nil_iff, List.range'_eq_nil_iff]
  omega

/-- Only a single instance is isolated: with more of them, the call for the last one has killed the
    servers of all others. -/
theorem isolated_iff {cfg : Config} (redis : cfg.type = .redis) :
    (∀ run : LoadRun cfg, Isolated cfg run) ↔ cfg.ins = 1 := by
  constructor
  · intro isolated
    obtain ⟨client, member⟩ := List.exists_mem_of_ne_nil _ (clientsAt_ne_nil cfg 0)
    have owner := (isolated (.sequential cfg)).served 0 cfg.positive _ (clients_workerAt cfg 0) client member
    have last := after_oneByOne redis client.port
    rw [LoadRun.owners, LoadRun.sequential, last] at owner
    split at owner
    · have := cfg.positive
      have := Option.some.inj owner
      omega
    · cases owner
  · intro one run
    have events : run.events = (launchAt cfg 0).map (Prod.mk 0) := by
      have alone := run.interleaves
      rw [one] at alone
      exact alone.single
    constructor
    · intro k below k' below'
      omega
    · intro k below clients started client member
      obtain rfl : k = 0 := by omega
      rw [clients_workerAt] at started
      obtain rfl := Except.ok.inj started
      have port := port_clientsAt redis member
      rw [LoadRun.owners, events, after_launchAt redis, if_pos (by omega)]

theorem oneRedis_isolated :
    oneRedis.type = .redis ∧ ∀ run : LoadRun oneRedis, Isolated oneRedis run :=
  ⟨rfl, (isolated_iff rfl).mpr rfl⟩

/-- Two redis instances with one core each, so that even their ports differ. -/
def pairRedis : Config where
  script := .inVm 2
  type := .redis
  physLo := 0
  physHi := 1
  ins := 2
  mccon := 16
  positive := Nat.le_succ 1
  enough := Nat.le_refl 2

/-- The client of instance 0 talks to a server of instance 1. -/
theorem pairRedis_not_isolated :
    (workerAt pairRedis 0).clients pairRedis = .ok [⟨9001, 2⟩] ∧
      (LoadRun.sequential pairRedis).owners 9001 = some 1 ∧
      ¬ Isolated pairRedis (LoadRun.sequential pairRedis) := by
  have clients : (workerAt pairRedis 0).clients pairRedis = .ok [⟨9001, 2⟩] := by decide +kernel
  have owner : (LoadRun.sequential pairRedis).owners 9001 = some 1 := by decide +kernel
  refine ⟨clients, owner, fun isolated => ?_⟩
  have own := isolated.served 0 (by decide) _ clients ⟨9001, 2⟩ List.mem_cons_self
  rw [owner] at own
  cases own

end KvmWorkload.MemcRedis
