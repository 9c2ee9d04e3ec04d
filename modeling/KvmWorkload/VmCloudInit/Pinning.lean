import KvmWorkload.Lib.Segments
import KvmWorkload.VmCloudInit.Runs

/-! # Whole cores

With CPU affinity, a 5G VM is pinned to the CPUs that it pops.  On a socket
whose pool has the two threads of every core next to each other, VMs of even
sizes share no core.
-/

namespace KvmWorkload.VmCloudInit

/-- The CPUs that a `--cpuset` names one by one. -/
def namedCpus : Option CpuSet → List Nat
  | some (.ids cpus) => cpus
  | _ => []

def VirtInstall.pinnedCpus (cmd : VirtInstall) : List Nat := namedCpus cmd.cpuset

/-- A host that lists a socket's cores in full, with a `Tile_Map` that asks for 5G VMs on it and for
    nothing else, and with an entry for every VM in the parallel lists. -/
structure PinnedSetup (env : Env) (socket : Nat) (tiles : Tiles) (cores : List (Nat × Nat)) : Prop where
  ht : env.ht = true
  affinity : env.cpuAffinity = true
  /-- The physical CPUs, and behind them their siblings in the same order. -/
  listing : env.numactl socket = some (cores.map Prod.fst ++ cores.map Prod.snd)
  distinct : (cores.map Prod.fst ++ cores.map Prod.snd).Nodup
  reached : (socket, tiles) ∈ visited env
  fiveG : tiles .fiveG = some (env.cpusPerVm.length : Int)
  noOther : ∀ tile, tile ≠ .fiveG → (tiles tile).getD 0 ≤ 0
  idle : ∀ entry ∈ visited env, entry.1 ≠ socket → Readable env entry.1 ∧ requests entry.2 = []
  even : ∀ n ∈ env.cpusPerVm, 0 < n ∧ n % 2 = 0
  enough : env.cpusPerVm.sum ≤ 2 * (cores.length : Int)
  names : env.cpusPerVm.length ≤ env.workloadPerVm.length
  memory : env.cpusPerVm.length ≤ env.vmMemory.length
  network : env.networking.srIov = 1 → env.networking.pt ≠ 1 ∧
    ∃ ports, env.vPort socket = some ports ∧ env.cpusPerVm.length ≤ ports.length

/-- A command pins the VM to as many CPUs as it has, and to both threads of a core or to none. -/
structure PinsWholeCores (cores : List (Nat × Nat)) (cmd : VirtInstall) (size : Int) : Prop where
  cpuset : cmd.cpuset = some (.ids cmd.pinnedCpus)
  vcpus : cmd.vcpus = size
  length : (cmd.pinnedCpus.length : Int) = size
  nodup : cmd.pinnedCpus.Nodup
  listed : ∀ cpu ∈ cmd.pinnedCpus, ∃ core ∈ cores, cpu = core.1 ∨ cpu = core.2
  whole : ∀ core ∈ cores, core.1 ∈ cmd.pinnedCpus ↔ core.2 ∈ cmd.pinnedCpus

theorem reverse_dropCpus (s : St) (n : Nat) :
    (s.dropCpus n).cpupool.reverse = s.cpupool.reverse.drop n := by
  rw [St.dropCpus, ← List.drop_reverse]

theorem createVm_pinned {env : Env} {socket count : Nat} {n : Int} {s : St}
    (affinity : env.cpuAffinity = true) (cpus : env.cpusPerVm[count]? = some n) (positive : 0 < n)
    (name : count < env.workloadPerVm.length) (memory : count < env.vmMemory.length)
    (net : NetReady env socket s) (enough : n.toNat ≤ s.cpupool.length) :
    ∃ s' cmd, createVm env socket .fiveG count s = .ok () s' ∧
      s'.testCommands = s.testCommands ++ [cmd] ∧ cmd.vcpus = n ∧
      cmd.cpuset = some (.ids (s.cpupool.reverse.take n.toNat)) ∧
      s'.cpupool.reverse = s.cpupool.reverse.drop n.toNat ∧
      s'.pools (.vf socket) = poolAfter env socket .fiveG (.vf socket) (s.pools (.vf socket)) := by
  have size : 1 + (n - 1).toNat = n.toNat := by omega
  have cost : cpuCost env .fiveG count = n.toNat := by
    simp only [cpuCost, fiveGCost, cpus, affinity, Option.getD_some, if_true, size]
  have inside := (List.getElem?_eq_some_iff.mp cpus).1
  have ready : TileReady env socket .fiveG count s := by
    refine ⟨fun _ => ⟨inside, memory, name⟩, ?_, ?_, cost ▸ enough⟩
    · intro isQat
      cases isQat
    · intro isGpu
      cases isGpu
  obtain ⟨s', run⟩ := createVm_of_ready net ready
  obtain ⟨nVcpus, vmName, cmds, cpus', -, rfl, -, vcpus, cpuset⟩ := createVm_fiveG_ok run
  obtain rfl : n = nVcpus := Option.some.inj (cpus.symm.trans cpus')
  refine ⟨_, cmds.1, run, by simp [record], vcpus, ?_, ?_, ?_⟩
  · simpa only [fiveGCpuset, affinity, if_true, St.nextCpus, size] using cpuset
  · simp only [record]
    rw [vmPops_cpupool, cost, reverse_dropCpus]
  · exact vmPops_pools env socket .fiveG count s (.vf socket)

theorem serve_fiveG {env : Env} {socket : Nat} (affinity : env.cpuAffinity = true)
    (names : env.cpusPerVm.length ≤ env.workloadPerVm.length)
    (memory : env.cpusPerVm.length ≤ env.vmMemory.length) {sizes : List Int} {first : Nat} {s : St}
    (listed : env.cpusPerVm.drop first = sizes) (positive : ∀ n ∈ sizes, 0 < n)
    (enough : (sizes.map Int.toNat).sum ≤ s.cpupool.length)
    (network : env.networking.srIov = 1 →
      env.networking.pt ≠ 1 ∧ sizes.length ≤ (s.pools (.vf socket)).length) :
    ∃ s' cmds, serve env socket ((List.range' first sizes.length).map (Prod.mk .fiveG)) s = .ok () s' ∧
      s'.testCommands = s.testCommands ++ cmds ∧ cmds.map VirtInstall.vcpus = sizes ∧
      cmds.map VirtInstall.cpuset =
        ((sizes.map Int.toNat).splitLengths s.cpupool.reverse).map fun cpus => some (.ids cpus) := by
  induction sizes generalizing first s with
  | nil => exact ⟨s, [], rfl, by simp, rfl, rfl⟩
  | cons n sizes ih =>
      have here : env.cpusPerVm[first]? = some n := by
        rw [← List.head?_drop, listed, List.head?_cons]
      have later : env.cpusPerVm.drop (first + 1) = sizes := by
        rw [← List.tail_drop, listed, List.tail_cons]
      have inside : first < env.cpusPerVm.length := (List.getElem?_eq_some_iff.mp here).1
      rw [List.map_cons, List.sum_cons] at enough
      have net : NetReady env socket s := fun srIov =>
        ⟨(network srIov).1, List.ne_nil_of_length_pos
          (Nat.lt_of_lt_of_le (Nat.succ_pos _) (network srIov).2)⟩
      obtain ⟨t, cmd, run, command, vcpus, cpuset, pool, ports⟩ := createVm_pinned affinity here
        (positive n List.mem_cons_self) (by omega) (by omega) net (by omega)
      have left : (sizes.map Int.toNat).sum ≤ t.cpupool.length := by
        have length := congrArg List.length pool
        rw [List.length_reverse, List.length_drop, List.length_reverse] at length
        omega
      have portsLeft : env.networking.srIov = 1 →
          env.networking.pt ≠ 1 ∧ sizes.length ≤ (t.pools (.vf socket)).length := by
        intro srIov
        obtain ⟨noPt, more⟩ := network srIov
        rw [List.length_cons] at more
        refine ⟨noPt, ?_⟩
        rw [ports, poolAfter, if_pos ⟨rfl, srIov, noPt⟩, List.length_dropLast]
        omega
      obtain ⟨s', cmds, others, commands, vcpusMore, cpusetMore⟩ := ih later
        (fun m member => positive m (List.mem_cons_of_mem _ member)) left portsLeft
      refine ⟨s', cmd :: cmds, forM_cons_ok.mpr ⟨t, run, others⟩, ?_, ?_, ?_⟩
      · rw [commands, command, List.append_assoc, List.singleton_append]
      · rw [List.map_cons, vcpus, vcpusMore]
      · rw [List.map_cons, List.map_cons, List.splitLengths_cons, List.map_cons, cpuset, cpusetMore, pool]

theorem reverse_flatMap_cores (cores : List (Nat × Nat)) :
    (cores.reverse.flatMap fun core => [core.2, core.1]).reverse = unpair cores := by
  induction cores with
  | nil => rfl
  | cons core cores ih => simp [unpair, ih]

theorem sum_toNat {sizes : List Int} (positive : ∀ n ∈ sizes, 0 < n) :
    ((sizes.map Int.toNat).sum : Int) = sizes.sum := by
  induction sizes with
  | nil => rfl
  | cons n sizes ih =>
      have size := positive n List.mem_cons_self
      have others := ih fun m member => positive m (List.mem_cons_of_mem _ member)
      rw [List.map_cons, List.sum_cons, List.sum_cons, ← others]
      omega

section Setup

variable {env : Env} {socket : Nat} {tiles : Tiles} {cores : List (Nat × Nat)}

theorem PinnedSetup.positive (setup : PinnedSetup env socket tiles cores) :
    ∀ n ∈ env.cpusPerVm, 0 < n := fun n member => (setup.even n member).1

theorem PinnedSetup.fits (setup : PinnedSetup env socket tiles cores) :
    (env.cpusPerVm.map Int.toNat).sum ≤ (unpair cores).length := by
  have total := sum_toNat setup.positive
  have enough := setup.enough
  have length : (unpair cores).length = 2 * cores.length := by
    rw [← reverse_flatMap_cores, List.length_reverse, (flatMap_cores_perm cores).length_eq]
    simp [Nat.two_mul]
  omega

theorem PinnedSetup.served (setup : PinnedSetup env socket tiles cores) :
    served env socket tiles = (List.range env.cpusPerVm.length).map (Prod.mk .fiveG) := by
  have visible : ¬ Skipped env socket := by
    rintro ⟨srIov, absent⟩
    obtain ⟨-, ports, known, -⟩ := setup.network srIov
    simp [absent] at known
  rw [VmCloudInit.served, if_neg visible, requests_fiveG setup.fiveG setup.noOther]

/-- The socket's visit, from a state in which no virtual port of it is used. -/
theorem PinnedSetup.visit (setup : PinnedSetup env socket tiles cores) {s : St}
    (ports : (s.pools (.vf socket)).Perm (env.pools (.vf socket))) :
    ∃ s' cmds, visit env socket tiles s = .ok () s' ∧ s'.testCommands = s.testCommands ++ cmds ∧
      cmds.map VirtInstall.vcpus = env.cpusPerVm ∧
      cmds.map VirtInstall.cpuset =
        ((env.cpusPerVm.map Int.toNat).splitLengths (unpair cores)).map fun cpus => some (.ids cpus) := by
  let pool := cores.reverse.flatMap fun core => [core.2, core.1]
  have listing : getCpuPool env socket = .ok pool := by
    rw [getCpuPool, setup.listing]
    simpa [setup.ht] using htLoop_cores cores []
  have reversed : (enter env socket pool s).cpupool.reverse = unpair cores := by
    rw [enter_eq]
    exact reverse_flatMap_cores cores
  have network : env.networking.srIov = 1 → env.networking.pt ≠ 1 ∧
      env.cpusPerVm.length ≤ ((enter env socket pool s).pools (.vf socket)).length := by
    intro srIov
    obtain ⟨noPt, list, known, more⟩ := setup.network srIov
    refine ⟨noPt, ?_⟩
    rw [((enter_pools_perm env socket pool s _).trans ports).length_eq]
    simpa [Env.pools, known] using more
  have enough : (env.cpusPerVm.map Int.toNat).sum ≤ (enter env socket pool s).cpupool.length := by
    rw [← List.length_reverse, reversed]
    exact setup.fits
  obtain ⟨s', cmds, run, commands, vcpus, cpuset⟩ := serve_fiveG setup.affinity setup.names setup.memory
    (List.drop_zero (l := env.cpusPerVm)) setup.positive enough network
  refine ⟨s', cmds, ?_, ?_, vcpus, reversed ▸ cpuset⟩
  · rw [visit_eq, listing, setup.served, List.range_eq_range']
    exact run
  · rw [commands, enter_eq]

theorem PinnedSetup.run (setup : PinnedSetup env socket tiles cores) :
    ∃ s', generateCommands env = .ok () s' ∧ s'.testCommands.map VirtInstall.vcpus = env.cpusPerVm ∧
      s'.testCommands.map VirtInstall.cpuset =
        ((env.cpusPerVm.map Int.toNat).splitLengths (unpair cores)).map fun cpus => some (.ids cpus) := by
  obtain ⟨before, after, shape⟩ := List.append_of_mem setup.reached
  have keys := visited_nodup env
  rw [shape, List.map_append, List.map_cons, List.nodup_middle, List.nodup_cons, List.mem_append] at keys
  have idle : ∀ entry, entry ∈ before ∨ entry ∈ after →
      Readable env entry.1 ∧ VmCloudInit.served env entry.1 entry.2 = [] := by
    intro entry member
    have other : entry.1 ≠ socket := by
      rintro rfl
      have again : entry.1 ∈ before.map Prod.fst ∨ entry.1 ∈ after.map Prod.fst :=
        member.imp List.mem_map_of_mem List.mem_map_of_mem
      exact keys.1 again
    have inside : entry ∈ visited env := by
      rw [shape, List.mem_append, List.mem_cons]
      exact member.imp_right .inr
    obtain ⟨readable, nothing⟩ := setup.idle entry inside other
    exact ⟨readable, by rw [VmCloudInit.served, nothing, ite_self]⟩
  obtain ⟨s₁, run₁, same₁, perm₁⟩ := forM_visit_idle (fun entry member => idle entry (.inl member)) (start env)
  obtain ⟨s₂, cmds, run₂, commands, vcpus, cpuset⟩ := setup.visit (perm₁ (.vf socket))
  obtain ⟨s₃, run₃, same₃, -⟩ := forM_visit_idle (fun entry member => idle entry (.inr member)) s₂
  have first : s₁.testCommands = [] := by rw [same₁]; rfl
  have last : s₃.testCommands = cmds := by rw [same₃, commands, first, List.nil_append]
  refine ⟨s₃, ?_, last ▸ vcpus, last ▸ cpuset⟩
  rw [generateCommands_eq, shape]
  exact forM_append_ok.mpr ⟨s₁, run₁, forM_cons_ok.mpr ⟨s₂, run₂, run₃⟩⟩

theorem unpair_nodup (distinct : (cores.map Prod.fst ++ cores.map Prod.snd).Nodup) :
    (unpair cores).Nodup := by
  rw [← reverse_flatMap_cores, List.nodup_reverse]
  exact (flatMap_cores_perm cores).nodup_iff.mpr distinct

theorem PinnedSetup.exists_group (setup : PinnedSetup env socket tiles cores) {piece : List Nat}
    (member : piece ∈ (env.cpusPerVm.map Int.toNat).splitLengths (unpair cores)) :
    ∃ group, group ⊆ cores ∧ piece = unpair group := by
  have halves : env.cpusPerVm.map Int.toNat =
      (env.cpusPerVm.map fun n => n.toNat / 2).map (2 * ·) := by
    rw [List.map_map]
    refine List.map_congr_left fun n inside => ?_
    have even := setup.even n inside
    simp only [Function.comp]
    omega
  rw [halves, splitLengths_unpair] at member
  obtain ⟨group, inside, rfl⟩ := List.mem_map.mp member
  exact ⟨group, (sublist_of_mem_splitLengths inside).subset, rfl⟩

theorem PinnedSetup.pins (setup : PinnedSetup env socket tiles cores) {cmd : VirtInstall} {size : Int}
    {piece : List Nat}
    (member : piece ∈ (env.cpusPerVm.map Int.toNat).splitLengths (unpair cores))
    (cpuset : cmd.cpuset = some (.ids piece)) (vcpus : cmd.vcpus = size)
    (length : (piece.length : Int) = size) : PinsWholeCores cores cmd size := by
  have pinned : cmd.pinnedCpus = piece := by rw [VirtInstall.pinnedCpus, cpuset, namedCpus]
  have distinct := (unpair_nodup setup.distinct).sublist (sublist_of_mem_splitLengths member)
  obtain ⟨group, inside, rfl⟩ := setup.exists_group member
  refine ⟨pinned ▸ cpuset, vcpus, pinned ▸ length, pinned ▸ distinct, ?_, ?_⟩
  · intro cpu listed
    rw [pinned] at listed
    obtain ⟨core, found, which⟩ := mem_unpair.mp listed
    exact ⟨core, inside found, which⟩
  · intro core listed
    rw [pinned]
    exact fst_mem_unpair_iff setup.distinct inside listed

/-- The run returns one command for every size; the VMs are pinned to as many CPUs as they have,
    share none, and hold both threads of a core or neither. -/
theorem fiveG_pinned_to_whole_cores (setup : PinnedSetup env socket tiles cores) :
    ∃ s', generateCommands env = .ok () s' ∧ s'.testCommands.length = env.cpusPerVm.length ∧
      (∀ (i : Nat) cmd size, s'.testCommands[i]? = some cmd → env.cpusPerVm[i]? = some size →
        PinsWholeCores cores cmd size) ∧
      s'.testCommands.Pairwise fun a b => a.pinnedCpus.Disjoint b.pinnedCpus := by
  obtain ⟨s', run, vcpus, cpusets⟩ := setup.run
  let pieces := (env.cpusPerVm.map Int.toNat).splitLengths (unpair cores)
  refine ⟨s', run, by rw [← vcpus, List.length_map], ?_, ?_⟩
  · intro i cmd size command entry
    have sized : cmd.vcpus = size := by simpa [← vcpus, command] using entry
    obtain ⟨piece, found, cpuset⟩ : ∃ piece, pieces[i]? = some piece ∧
        some (CpuSet.ids piece) = cmd.cpuset := by
      simpa [command] using (congrArg (·[i]?) cpusets).symm
    have length : piece.length = size.toNat := by
      have lengths := congrArg (·[i]?) (List.map_splitLengths_length _ _ setup.fits)
      simpa [pieces, found, entry] using lengths
    have positive := setup.positive size (List.mem_of_getElem? entry)
    exact setup.pins (List.mem_of_getElem? found) cpuset.symm sized (by omega)
  · have pinned : s'.testCommands.map VirtInstall.pinnedCpus = pieces := by
      calc s'.testCommands.map VirtInstall.pinnedCpus
          = (s'.testCommands.map VirtInstall.cpuset).map namedCpus := by rw [List.map_map]; rfl
        _ = pieces := by rw [cpusets, List.map_map]; exact List.map_id _
    exact List.pairwise_map.mp
      (pinned ▸ splitLengths_pairwise_disjoint (unpair_nodup setup.distinct) _)

end Setup

/-- A host with two cores, `0`/`2` and `1`/`3`, and one 5G VM for each of them. -/
def twoCoreHost : Env :=
  { Env.oneSocket 4 fun tile => if tile = .fiveG then some 2 else some 0 with
    ht := true
    cpusPerVm := [2, 2]
    workloadPerVm := ["mlc:0-29".toList, "redis:30-59".toList]
    vmMemory := [8, 8] }

theorem twoCoreHost_setup :
    PinnedSetup twoCoreHost 0 (fun tile => if tile = .fiveG then some 2 else some 0) [(0, 2), (1, 3)] where
  ht := rfl
  affinity := rfl
  listing := rfl
  distinct := by decide
  reached := List.mem_singleton.mpr rfl
  fiveG := rfl
  noOther := by
    intro tile other
    simp [other]
  idle := by
    intro entry member other
    obtain rfl := List.mem_singleton.mp member
    exact absurd rfl other
  even := by decide
  enough := by decide
  names := by decide
  memory := by decide
  network := by decide

theorem twoCoreHost_pinned :
    ∃ s', generateCommands twoCoreHost = .ok () s' ∧ s'.testCommands.length = 2 ∧
      (∀ (i : Nat) cmd size, s'.testCommands[i]? = some cmd → twoCoreHost.cpusPerVm[i]? = some size →
        PinsWholeCores [(0, 2), (1, 3)] cmd size) ∧
      s'.testCommands.Pairwise fun a b => a.pinnedCpus.Disjoint b.pinnedCpus :=
  fiveG_pinned_to_whole_cores twoCoreHost_setup

end KvmWorkload.VmCloudInit
