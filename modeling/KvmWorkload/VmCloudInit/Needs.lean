import KvmWorkload.VmCloudInit.Runs

/-! # When a run returns

A run consumes CPUs, virtual ports, QAT devices and the entries of three
parallel lists.  Every VM takes what it asks for, so a run returns exactly when
the totals over each socket are there.
-/

namespace KvmWorkload.VmCloudInit

def GpuReady (s : St) : Prop := s.pools .gpu ≠ [] ∨ s.gpuPt ≠ none

/-- How many CPUs the VMs pop. -/
def cpuDemand (env : Env) (vms : List (Tile × Nat)) : Nat :=
  (vms.map fun vm => cpuCost env vm.1 vm.2).sum

/-- The state has what the VMs need. -/
structure FitsIn (env : Env) (socket : Nat) (vms : List (Tile × Nat)) (s : St) : Prop where
  listed : ∀ vm ∈ vms, Listed env vm.1 vm.2
  cpus : cpuDemand env vms ≤ s.cpupool.length
  ports : env.networking.srIov = 1 → vms ≠ [] →
    env.networking.pt ≠ 1 ∧ vms.length ≤ (s.pools (.vf socket)).length
  qats : tileCount .qat vms ≤ (s.pools (.qat socket)).length
  gpus : tileCount .gpuInference vms ≠ 0 → GpuReady s

theorem gpuReady_vmPops {env : Env} {socket : Nat} {tile : Tile} {count : Nat} {s : St} :
    GpuReady (vmPops env socket tile count s) ↔ GpuReady s := by
  rw [GpuReady, GpuReady, vmPops_pools, vmPops_gpuPt, poolAfter]
  split_ifs
  · cases last : (s.pools .gpu).getLast? with
    | none => simp [List.getLast?_eq_none_iff.mp last]
    | some dev =>
        have more : s.pools .gpu ≠ [] := by rintro empty; simp [empty] at last
        simp [more]
  · rfl

theorem cpuDemand_cons (env : Env) (tile : Tile) (count : Nat) (vms : List (Tile × Nat)) :
    cpuDemand env ((tile, count) :: vms) = cpuCost env tile count + cpuDemand env vms := by
  rw [cpuDemand, List.map_cons, List.sum_cons, cpuDemand]

theorem fitsIn_record {env : Env} {socket : Nat} {vms : List (Tile × Nat)} {s : St} {tile : Tile}
    {tileNo : Nat} {cmds : VirtInstall × VirtInstall} :
    FitsIn env socket vms (record tile tileNo cmds s) ↔ FitsIn env socket vms s :=
  ⟨fun fits => ⟨fits.listed, fits.cpus, fits.ports, fits.qats, fits.gpus⟩,
    fun fits => ⟨fits.listed, fits.cpus, fits.ports, fits.qats, fits.gpus⟩⟩

section Cons

variable {env : Env} {socket : Nat} {tile : Tile} {count : Nat} {vms : List (Tile × Nat)} {s : St}

theorem length_vmPops_cpupool : (vmPops env socket tile count s).cpupool.length =
    s.cpupool.length - cpuCost env tile count := by
  rw [vmPops_cpupool, St.length_dropCpus]

theorem length_vmPops_ports (srIov : env.networking.srIov = 1) (noPt : env.networking.pt ≠ 1) :
    ((vmPops env socket tile count s).pools (.vf socket)).length = (s.pools (.vf socket)).length - 1 := by
  rw [vmPops_pools, poolAfter, if_pos ⟨rfl, srIov, noPt⟩, List.length_dropLast]

theorem length_vmPops_qats : ((vmPops env socket tile count s).pools (.qat socket)).length =
    (s.pools (.qat socket)).length - if tile = .qat then 1 else 0 := by
  rw [vmPops_pools, poolAfter]
  split_ifs <;> simp_all

theorem FitsIn.uncons (known : s.pools (.qat socket) ≠ [] → env.qatVfSocket socket ≠ none)
    (fits : FitsIn env socket ((tile, count) :: vms) s) :
    NetReady env socket s ∧ TileReady env socket tile count s ∧
      FitsIn env socket vms (vmPops env socket tile count s) := by
  obtain ⟨listed, cpus, ports, qats, gpus⟩ := fits
  have ports := fun srIov => ports srIov (List.cons_ne_nil (tile, count) vms)
  rw [cpuDemand_cons] at cpus
  rw [tileCount_cons] at qats gpus
  refine ⟨fun srIov => ?_, ⟨listed _ List.mem_cons_self, ?_, ?_, by omega⟩, ?_, ?_, ?_, ?_, ?_⟩
  · obtain ⟨noPt, more⟩ := ports srIov
    exact ⟨noPt, List.ne_nil_of_length_pos (Nat.lt_of_lt_of_le (Nat.succ_pos _) more)⟩
  · rintro rfl
    rw [if_pos rfl] at qats
    have more : s.pools (.qat socket) ≠ [] := List.ne_nil_of_length_pos (by omega)
    exact ⟨known more, more⟩
  · rintro rfl
    exact gpus (by simp)
  · exact fun vm member => listed vm (List.mem_cons_of_mem _ member)
  · rw [length_vmPops_cpupool]
    omega
  · intro srIov _
    obtain ⟨noPt, more⟩ := ports srIov
    rw [List.length_cons] at more
    refine ⟨noPt, ?_⟩
    rw [length_vmPops_ports srIov noPt]
    omega
  · rw [length_vmPops_qats]
    omega
  · exact fun some_gpu => gpuReady_vmPops.mpr (gpus (by omega))

theorem FitsIn.cons (net : NetReady env socket s) (ready : TileReady env socket tile count s)
    (fits : FitsIn env socket vms (vmPops env socket tile count s)) :
    FitsIn env socket ((tile, count) :: vms) s := by
  obtain ⟨listed, cpus, ports, qats, gpus⟩ := fits
  have cost := ready.cpus
  rw [length_vmPops_cpupool] at cpus
  rw [length_vmPops_qats] at qats
  refine ⟨?_, ?_, ?_, ?_, ?_⟩
  · intro vm member
    rcases List.mem_cons.mp member with rfl | later
    · exact ready.listed
    · exact listed vm later
  · rw [cpuDemand_cons]
    omega
  · intro srIov _
    obtain ⟨noPt, more⟩ := net srIov
    have positive := List.length_pos_of_ne_nil more
    refine ⟨noPt, ?_⟩
    rw [List.length_cons]
    by_cases last : vms = []
    · rw [last]
      exact positive
    · have others := (ports srIov last).2
      rw [length_vmPops_ports srIov noPt] at others
      omega
  · rw [tileCount_cons]
    split_ifs at qats ⊢ with isQat
    · have positive := List.length_pos_of_ne_nil (ready.qat isQat).2
      omega
    · exact qats
  · intro some_gpu
    rw [tileCount_cons] at some_gpu
    by_cases isGpu : tile = .gpuInference
    · exact ready.gpu isGpu
    · rw [if_neg isGpu] at some_gpu
      exact gpuReady_vmPops.mp (gpus some_gpu)

end Cons

theorem serve_ends_iff {env : Env} {socket : Nat} {vms : List (Tile × Nat)} {s : St}
    (known : s.pools (.qat socket) ≠ [] → env.qatVfSocket socket ≠ none) :
    (∃ s', serve env socket vms s = .ok () s') ↔ FitsIn env socket vms s := by
  induction vms generalizing s with
  | nil =>
      exact iff_of_true ⟨s, rfl⟩
        ⟨nofun, Nat.zero_le _, fun _ none => absurd rfl none, Nat.zero_le _, fun none => absurd rfl none⟩
  | cons vm vms ih =>
      obtain ⟨tile, count⟩ := vm
      have later : ∀ tileNo cmds,
          (∃ s', serve env socket vms (record tile tileNo cmds (vmPops env socket tile count s)) =
            .ok () s') ↔ FitsIn env socket vms (vmPops env socket tile count s) := by
        intro tileNo cmds
        refine (ih fun more => known fun empty => more ?_).trans fitsIn_record
        change (vmPops env socket tile count s).pools (.qat socket) = []
        rw [vmPops_pools, empty, poolAfter]
        split_ifs <;> rfl
      constructor
      · rintro ⟨s', run⟩
        obtain ⟨t, first, others⟩ := forM_cons_ok.mp run
        obtain ⟨net, ready, cmds, rfl, -, -⟩ := createVm_ok first
        exact .cons net ready ((later _ _).mp ⟨s', others⟩)
      · intro fits
        obtain ⟨net, ready, rest⟩ := fits.uncons known
        obtain ⟨t, run⟩ := createVm_of_ready net ready
        obtain ⟨-, -, cmds, rfl, -, -⟩ := createVm_ok run
        obtain ⟨s', others⟩ := (later _ _).mpr rest
        exact ⟨s', forM_cons_ok.mpr ⟨_, run, others⟩⟩

/-- The host has what a socket's VMs need. -/
structure SocketProvided (env : Env) (socket : Nat) (vms : List (Tile × Nat)) : Prop where
  readable : Readable env socket
  listed : ∀ vm ∈ vms, Listed env vm.1 vm.2
  cpus : cpuDemand env vms ≤ cpuCount env socket
  ports : env.networking.srIov = 1 → vms ≠ [] →
    env.networking.pt ≠ 1 ∧ vms.length ≤ (env.pools (.vf socket)).length
  qats : tileCount .qat vms ≤ (env.pools (.qat socket)).length

/-- The socket's own devices are as the run found them. -/
structure Untouched (env : Env) (s : St) (socket : Nat) : Prop where
  ports : (s.pools (.vf socket)).Perm (env.pools (.vf socket))
  qats : s.pools (.qat socket) = env.pools (.qat socket)

theorem gpuReady_enter {env : Env} {socket : Nat} {cpus : List Nat} {s : St} :
    GpuReady (enter env socket cpus s) ↔ GpuReady s := by
  have gpu : (enter env socket cpus s).pools .gpu = s.pools .gpu := enter_pools_of_ne _ _ _ _ nofun
  rw [GpuReady, GpuReady, gpu, enter_eq]

theorem visit_ends_iff {env : Env} {socket : Nat} {tiles : Tiles} {s : St}
    (untouched : Untouched env s socket) :
    (∃ s', visit env socket tiles s = .ok () s') ↔
      SocketProvided env socket (served env socket tiles) ∧
        (tileCount .gpuInference (served env socket tiles) ≠ 0 → GpuReady s) := by
  rw [visit_eq]
  by_cases readable : Readable env socket
  · obtain ⟨pool, listing, length⟩ := getCpuPool_of_readable readable
    have kept : (enter env socket pool s).pools (.qat socket) = s.pools (.qat socket) :=
      enter_pools_of_ne _ _ _ _ nofun
    have qats := kept.trans untouched.qats
    have ports := ((enter_pools_perm env socket pool s (.vf socket)).trans untouched.ports).length_eq
    have known : (enter env socket pool s).pools (.qat socket) ≠ [] → env.qatVfSocket socket ≠ none := by
      intro more absent
      exact more (by simp [qats, Env.pools, absent])
    have cpus : (enter env socket pool s).cpupool.length = cpuCount env socket := by
      rw [enter_eq]
      exact length
    simp only [listing]
    rw [serve_ends_iff known]
    constructor
    · rintro ⟨listed, demand, network, devices, gpus⟩
      exact ⟨⟨readable, listed, cpus ▸ demand, ports ▸ network, qats ▸ devices⟩,
        fun some_gpu => gpuReady_enter.mp (gpus some_gpu)⟩
    · rintro ⟨⟨-, listed, demand, network, devices⟩, gpus⟩
      exact ⟨listed, cpus ▸ demand, ports ▸ network, qats ▸ devices,
        fun some_gpu => gpuReady_enter.mpr (gpus some_gpu)⟩
  · simp only [getCpuPool_of_not_readable readable]
    exact iff_of_false (by simp) fun provided => readable provided.1.readable

/-- Between the two states only one socket took devices of its own. -/
structure SameElsewhere (socket : Nat) (s t : St) : Prop where
  ports : ∀ other, other ≠ socket → t.pools (.vf other) = s.pools (.vf other)
  qats : ∀ other, other ≠ socket → t.pools (.qat other) = s.pools (.qat other)
  gpus : GpuReady t ↔ GpuReady s

theorem visit_sameElsewhere {env : Env} {socket : Nat} {tiles : Tiles} {s s' : St}
    (run : visit env socket tiles s = .ok () s') : SameElsewhere socket s s' := by
  rw [visit_eq] at run
  cases listing : getCpuPool env socket with
  | error e => simp [listing] at run
  | ok pool =>
      simp only [listing] at run
      refine forM_ok_invariant (fun {vm t t'} before made => ?_) ?_ run
      · obtain ⟨-, -, cmds, rfl, -, -⟩ := createVm_ok made
        have taken : GpuReady (vmPops env socket vm.1 vm.2 t) ↔ GpuReady t := gpuReady_vmPops
        refine ⟨fun other apart => ?_, fun other apart => ?_, taken.trans before.gpus⟩
        · simp only [record, vmPops_pools, poolAfter, apart, false_and, if_false]
          exact before.ports other apart
        · simp only [record, vmPops_pools, poolAfter, apart, false_and, if_false]
          exact before.qats other apart
      · refine ⟨fun other apart => ?_, fun other apart => ?_, gpuReady_enter⟩
        · exact enter_pools_of_ne _ _ _ _ (by simpa using apart)
        · exact enter_pools_of_ne _ _ _ _ (by simp)

theorem sockets_end_iff {env : Env} {sockets : List (Nat × Tiles)}
    (distinct : (sockets.map Prod.fst).Nodup) {s : St}
    (untouched : ∀ entry ∈ sockets, Untouched env s entry.1) :
    (∃ s', sockets.forM (fun entry => visit env entry.1 entry.2) s = .ok () s') ↔
      (∀ entry ∈ sockets, SocketProvided env entry.1 (served env entry.1 entry.2)) ∧
        (tileCount .gpuInference (sockets.flatMap fun entry => served env entry.1 entry.2) ≠ 0 →
          GpuReady s) := by
  induction sockets generalizing s with
  | nil => exact iff_of_true ⟨s, rfl⟩ ⟨nofun, fun none => absurd rfl none⟩
  | cons entry sockets ih =>
      rw [List.map_cons] at distinct
      obtain ⟨fresh, distinct⟩ := List.nodup_cons.mp distinct
      have here : (∃ t, visit env entry.1 entry.2 s = .ok () t) ↔ _ :=
        visit_ends_iff (untouched entry List.mem_cons_self)
      have later : ∀ {t}, visit env entry.1 entry.2 s = .ok () t →
          ∀ other ∈ sockets, Untouched env t other.1 := by
        intro t first other member
        have apart : other.1 ≠ entry.1 := fun same => fresh (same ▸ List.mem_map_of_mem member)
        have same := visit_sameElsewhere first
        have before := untouched other (List.mem_cons_of_mem _ member)
        exact ⟨same.ports _ apart ▸ before.ports, same.qats _ apart ▸ before.qats⟩
      rw [List.flatMap_cons, tileCount_append]
      constructor
      · rintro ⟨s', run⟩
        obtain ⟨t, first, others⟩ := forM_cons_ok.mp run
        obtain ⟨provided, gpus⟩ := here.mp ⟨t, first⟩
        obtain ⟨restProvided, restGpus⟩ := (ih distinct (later first)).mp ⟨s', others⟩
        refine ⟨List.forall_mem_cons.mpr ⟨provided, restProvided⟩, fun some_gpu => ?_⟩
        by_cases own : tileCount .gpuInference (served env entry.1 entry.2) = 0
        · exact (visit_sameElsewhere first).gpus.mp (restGpus (by omega))
        · exact gpus own
      · rintro ⟨provided, gpus⟩
        obtain ⟨first, rest⟩ := List.forall_mem_cons.mp provided
        obtain ⟨t, run⟩ := here.mpr ⟨first, fun own => gpus (by omega)⟩
        have restGpus := fun some_gpu => (visit_sameElsewhere run).gpus.mpr (gpus some_gpu)
        obtain ⟨s', others⟩ := (ih distinct (later run)).mpr ⟨rest, fun own => restGpus (by omega)⟩
        exact ⟨s', forM_cons_ok.mpr ⟨t, run, others⟩⟩

/-- The host has what the requests of the visited sockets need. -/
structure Provided (env : Env) : Prop where
  sockets : ∀ entry ∈ visited env, SocketProvided env entry.1 (served env entry.1 entry.2)
  gpus : tileCount .gpuInference (allServed env) ≠ 0 → env.ptGpu ≠ []

theorem generateCommands_returns_iff {env : Env} :
    (∃ s', generateCommands env = .ok () s') ↔ Provided env := by
  have untouched : ∀ entry ∈ visited env, Untouched env (start env) entry.1 :=
    fun _ _ => ⟨.refl _, rfl⟩
  have gpus : GpuReady (start env) ↔ env.ptGpu ≠ [] := or_iff_left fun bound => bound rfl
  rw [generateCommands_eq, sockets_end_iff (visited_nodup env) untouched, gpus]
  exact ⟨fun ⟨sockets, gpus⟩ => ⟨sockets, gpus⟩, fun ⟨sockets, gpus⟩ => ⟨sockets, gpus⟩⟩

/-- A run that returns has one test command for each VM that it served. -/
theorem length_testCommands {env : Env} {s' : St} (run : generateCommands env = .ok () s') :
    s'.testCommands.length = (allServed env).length := by
  have invariant : RunInvariant env fun vms s => s.testCommands.length = vms.length := by
    constructor
    · intro done socket pool s before _
      rw [enter_eq]
      exact before
    · intro done socket tile count s s' before made
      obtain ⟨-, -, cmds, rfl, -, -⟩ := createVm_ok made
      simp [record, before]
  exact invariant.generateCommands rfl run

end KvmWorkload.VmCloudInit
