import KvmWorkload.VmCloudInit.Steps

/-! # Whole runs

The nested loops as one sequence of requests, and the rule that later modules
use: a relation between the VMs made so far and the state, kept when a socket
is entered and by every VM, holds at the end of every run that returns.
-/

namespace KvmWorkload.VmCloudInit

/-- The VMs that a socket's tiles ask for, in the order of the loops. -/
def requests (tiles : Tiles) : List (Tile × Nat) :=
  Tile.sorted.flatMap fun tile => (List.range ((tiles tile).getD 0).toNat).map (Prod.mk tile)

theorem requests_fiveG {tiles : Tiles} {n : Nat} (fiveG : tiles .fiveG = some (n : Int))
    (noOther : ∀ tile, tile ≠ .fiveG → (tiles tile).getD 0 ≤ 0) :
    requests tiles = (List.range n).map (Prod.mk .fiveG) := by
  have none : ∀ tile, tile ≠ .fiveG → ((tiles tile).getD 0).toNat = 0 := fun tile other =>
    Int.toNat_eq_zero.mpr (noOther tile other)
  simp [requests, Tile.sorted, fiveG, none]

/-- With SR-IOV, a socket without virtual ports is passed over. -/
def Skipped (env : Env) (socket : Nat) : Prop :=
  env.networking.srIov = 1 ∧ env.vPort socket = none

instance (env : Env) (socket : Nat) : Decidable (Skipped env socket) :=
  inferInstanceAs (Decidable (_ ∧ _))

/-- The requests of a socket that is visited. -/
def served (env : Env) (socket : Nat) (tiles : Tiles) : List (Tile × Nat) :=
  if Skipped env socket then [] else requests tiles

/-- The sockets in front of the first one that does not exist. -/
def visited (env : Env) : List (Nat × Tiles) :=
  env.sortedSockets.takeWhile fun entry => entry.1 < env.numSockets

/-- All VMs that a run makes when it returns. -/
def allServed (env : Env) : List (Tile × Nat) :=
  (visited env).flatMap fun entry => served env entry.1 entry.2

/-- How many of the VMs are of a tile. -/
def tileCount (tile : Tile) (vms : List (Tile × Nat)) : Nat := (vms.map Prod.fst).count tile

theorem tileCount_cons (tile other : Tile) (count : Nat) (vms : List (Tile × Nat)) :
    tileCount tile ((other, count) :: vms) = tileCount tile vms + if other = tile then 1 else 0 := by
  simp [tileCount, List.count_cons]

theorem tileCount_append (tile : Tile) (xs ys : List (Tile × Nat)) :
    tileCount tile (xs ++ ys) = tileCount tile xs + tileCount tile ys := by
  simp [tileCount]

/-- The state in which a socket's first VM finds the variables. -/
def enter (env : Env) (socket : Nat) (pool : List Nat) (s : St) : St :=
  if env.networking.srIov = 1 ∧ env.vPort socket ≠ none ∧ env.assignRandom then
    { s with cpupool := pool }.setPool (.vf socket) (env.shuffle (s.pools (.vf socket)))
  else { s with cpupool := pool }

/-- The loop bodies of a sequence of requests. -/
def serve (env : Env) (socket : Nat) (vms : List (Tile × Nat)) : Py Unit :=
  vms.forM fun request => createVm env socket request.1 request.2

theorem tileLoop_eq (env : Env) (socket : Nat) (tiles : Tiles) :
    tileLoop env socket tiles = serve env socket (requests tiles) := by
  rw [serve, requests, forM_flatMap, tileLoop]
  congr 1
  funext tile
  have mapped : ((List.range ((tiles tile).getD 0).toNat).map (Prod.mk tile)).forM
      (fun request => createVm env socket request.1 request.2) =
      (List.range ((tiles tile).getD 0).toNat).forM fun count => createVm env socket tile count :=
    List.forM_map
  exact mapped.symm

theorem visit_eq (env : Env) (socket : Nat) (tiles : Tiles) (s : St) :
    visit env socket tiles s =
      match getCpuPool env socket with
      | .error e => .error e s
      | .ok pool =>
          serve env socket (served env socket tiles) (enter env socket pool s) := by
  rw [visit]
  cases getCpuPool env socket with
  | error e => rfl
  | ok pool =>
      change (if env.networking.srIov = 1 then _ else _ : Py Unit) { s with cpupool := pool } =
        serve env socket (served env socket tiles) (enter env socket pool s)
      simp only [served, enter, Skipped, tileLoop_eq]
      by_cases srIov : env.networking.srIov = 1
      · rcases Option.eq_none_or_eq_some (env.vPort socket) with absent | ⟨ports, known⟩
        · simp only [srIov, absent, if_true, and_self, ne_eq, not_true, false_and, and_false, if_false]
          rfl
        · by_cases random : env.assignRandom = true
          · simp only [srIov, known, random, if_true, true_and, reduceCtorEq, if_false, ne_eq,
              not_false_eq_true, and_self]
            rfl
          · simp [srIov, known, random]
      · simp [srIov]

theorem enter_pools_of_ne (env : Env) (socket : Nat) (cpus : List Nat) (s : St) {pool : Pool}
    (other : pool ≠ .vf socket) : (enter env socket cpus s).pools pool = s.pools pool := by
  rw [enter]
  split_ifs
  · exact St.setPool_pools_of_ne _ _ other
  · rfl

theorem enter_pools_perm (env : Env) (socket : Nat) (cpus : List Nat) (s : St) (pool : Pool) :
    ((enter env socket cpus s).pools pool).Perm (s.pools pool) := by
  by_cases here : pool = .vf socket
  · subst here
    rw [enter]
    split_ifs
    · rw [St.setPool_pools_self]
      exact env.shuffle_perm _
    · exact .refl _
  · rw [enter_pools_of_ne _ _ _ _ here]

/-- Entering a socket only reorders device lists. -/
theorem enter_eq (env : Env) (socket : Nat) (cpus : List Nat) (s : St) :
    enter env socket cpus s =
      { s with cpupool := cpus, pools := (enter env socket cpus s).pools } := by
  rw [enter]
  split_ifs <;> rfl

theorem socketLoop_eq (env : Env) (sockets : List (Nat × Tiles)) :
    socketLoop env sockets =
      (sockets.takeWhile fun entry => entry.1 < env.numSockets).forM fun entry =>
        visit env entry.1 entry.2 := by
  induction sockets with
  | nil => rfl
  | cons entry rest ih =>
      by_cases exists_ : entry.1 < env.numSockets
      · rw [socketLoop, if_pos exists_, List.takeWhile_cons_of_pos (by simpa using exists_), ih]
        rfl
      · rw [socketLoop, if_neg exists_, List.takeWhile_cons_of_neg (by simpa using exists_)]
        rfl

theorem generateCommands_eq (env : Env) :
    generateCommands env =
      (visited env).forM (fun entry => visit env entry.1 entry.2) (start env) := by
  rw [generateCommands, socketLoop_eq]
  rfl

theorem visited_nodup (env : Env) : ((visited env).map Prod.fst).Nodup := by
  have sorted : (env.sortedSockets.map Prod.fst).Nodup :=
    ((List.perm_insertionSort _ env.tileMap).map Prod.fst).nodup_iff.mpr env.distinctSockets
  exact sorted.sublist ((List.takeWhile_sublist _).map Prod.fst)

theorem visit_idle {env : Env} {socket : Nat} {tiles : Tiles} (readable : Readable env socket)
    (idle : served env socket tiles = []) (s : St) :
    ∃ cpus, visit env socket tiles s = .ok () (enter env socket cpus s) := by
  obtain ⟨cpus, pool, -⟩ := getCpuPool_of_readable readable
  refine ⟨cpus, ?_⟩
  rw [visit_eq, pool, idle]
  rfl

theorem forM_visit_idle {env : Env} {sockets : List (Nat × Tiles)}
    (idle : ∀ entry ∈ sockets, Readable env entry.1 ∧ served env entry.1 entry.2 = []) (s : St) :
    ∃ s', sockets.forM (fun entry => visit env entry.1 entry.2) s = .ok () s' ∧
      s' = { s with cpupool := s'.cpupool, pools := s'.pools } ∧
      ∀ pool, (s'.pools pool).Perm (s.pools pool) := by
  induction sockets generalizing s with
  | nil => exact ⟨s, rfl, rfl, fun _ => .refl _⟩
  | cons entry sockets ih =>
      obtain ⟨readable, nothing⟩ := idle entry List.mem_cons_self
      obtain ⟨cpus, run⟩ := visit_idle readable nothing s
      obtain ⟨s', others, same, perm⟩ := ih (fun entry member => idle entry (List.mem_cons_of_mem _ member))
        (enter env entry.1 cpus s)
      refine ⟨s', forM_cons_ok.mpr ⟨_, run, others⟩, ?_, fun pool =>
        (perm pool).trans (enter_pools_perm ..)⟩
      rw [same, enter_eq]

/-- A relation between the VMs made so far and the state that entering a socket and every VM keep. -/
structure RunInvariant (env : Env) (R : List (Tile × Nat) → St → Prop) : Prop where
  enter : ∀ {done socket pool s}, R done s → getCpuPool env socket = .ok pool →
    R done (enter env socket pool s)
  step : ∀ {done socket tile count s s'}, R done s → createVm env socket tile count s = .ok () s' →
    R (done ++ [(tile, count)]) s'

theorem RunInvariant.visit {env : Env} {R : List (Tile × Nat) → St → Prop}
    (invariant : RunInvariant env R) {done : List (Tile × Nat)} {socket : Nat} {tiles : Tiles}
    {s s' : St} (start : R done s) (run : VmCloudInit.visit env socket tiles s = .ok () s') :
    R (done ++ served env socket tiles) s' := by
  rw [visit_eq] at run
  cases pool : getCpuPool env socket with
  | error e => simp [pool] at run
  | ok pool' =>
      simp only [pool] at run
      exact forM_ok_history (fun before made => invariant.step before made)
        (invariant.enter start pool) run

theorem RunInvariant.generateCommands {env : Env} {R : List (Tile × Nat) → St → Prop}
    (invariant : RunInvariant env R) (start : R [] (start env)) {s' : St}
    (run : VmCloudInit.generateCommands env = .ok () s') : R (allServed env) s' := by
  rw [generateCommands_eq] at run
  let made : List (Nat × Tiles) → List (Tile × Nat) := fun sockets =>
    sockets.flatMap fun entry => served env entry.1 entry.2
  have step : ∀ {done entry s s'}, R (made done) s →
      VmCloudInit.visit env entry.1 entry.2 s = .ok () s' → R (made (done ++ [entry])) s' := by
    intro done entry s s' before run
    simpa [made] using invariant.visit before run
  have first : R (made []) (VmCloudInit.start env) := start
  exact forM_ok_history (R := fun sockets => R (made sockets)) step first run

theorem cpuset_of_unpinned {env : Env} (unpinned : env.cpuAffinity = false)
    (only : ∀ vm ∈ allServed env, vm.1 = .fiveG) {s' : St} (run : generateCommands env = .ok () s') :
    ∀ cmd ∈ s'.testCommands, cmd.cpuset = some (.range env.node0Range) := by
  have invariant : RunInvariant env fun vms s => (∀ vm ∈ vms, vm.1 = .fiveG) →
      ∀ cmd ∈ s.testCommands, cmd.cpuset = some (.range env.node0Range) := by
    constructor
    · intro done socket pool s before _
      rw [enter_eq]
      exact before
    · intro done socket tile count s s' before made only
      obtain rfl : tile = .fiveG := only (tile, count) (by simp)
      obtain ⟨nVcpus, vmName, cmds, -, -, rfl, -, -, cpuset⟩ := createVm_fiveG_ok made
      have earlier := before fun vm member => only vm (List.mem_append_left _ member)
      have here : cmds.1.cpuset = some (.range env.node0Range) := by
        simpa [fiveGCpuset, unpinned] using cpuset
      simpa [record, or_imp, forall_and, here] using earlier
  have first : ∀ cmd ∈ (start env).testCommands, cmd.cpuset = some (.range env.node0Range) :=
    List.forall_mem_nil _
  exact invariant.generateCommands (fun _ => first) run only

end KvmWorkload.VmCloudInit
