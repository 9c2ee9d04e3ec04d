import KvmWorkload.RunTestcases.Launch

/-! # Core ranges and pinned CPUs

The classes of service are set up for the CPUs in `VM_CORE_RANGE`.  The modes
that do so with pqos launch their VMs with `-A`, that is without pinning: every
VM may run on the first range of CPUs of node 0, whatever its number.
-/

namespace KvmWorkload.RunTestcases

open VmCloudInit

/-- The CPUs that a `--cpuset` allows. -/
def cpusetCpus : Option CpuSet → List Nat
  | some (.ids cpus) => cpus
  | some (.range text) => cpuList text
  | none => []

/-- In every mode that uses pqos, the CPUs of `VM_CORE_RANGE[i]` are those that the command of VM `i`
    pins it to. -/
def RangesArePinned (found : Env) (node0 : Node0) (config : LaunchConfig) : Prop :=
  ∀ mode : Mode, mode.UsesPqos → ∀ (i : Nat) cmd, (launched found node0 config mode)[i]? = some cmd →
    ∀ cpu, cpu ∈ cpuList (vmCoreRange i) ↔ cpu ∈ cpusetCpus cmd.cpuset

/-- The machine and the configuration file have what launching the VMs without pinning takes. -/
structure Launches (found : Env) (config : LaunchConfig) : Prop where
  admitted : (config.vmCores.length : Int) ≤ found.maxVms
  socket : 0 < found.numSockets
  readable : ∀ socket < 2, socket < found.numSockets → Readable found socket
  cpus : config.vmCores.length ≤ cpuCount found 0
  memory : config.vmCores.length ≤ found.vmMemory.length
  names : config.vmCores.length ≤ config.vmWorkloads.length
  visible : ¬ Skipped found 0
  ports : found.networking.srIov = 1 → found.networking.pt ≠ 1 ∧
    config.vmCores.length ≤ (found.pools (.vf 0)).length

section Run

variable {config : LaunchConfig} {found : Env} {node0 : Node0} {pinned : Bool}

theorem visited_env : visited (config.env found node0 pinned) =
    (mainTileMap config.vmCores.length).takeWhile fun entry => entry.1 < found.numSockets := by
  have sorted : (config.env found node0 pinned).sortedSockets = mainTileMap config.vmCores.length := by
    have order : ¬ socketName 1 < socketName 0 := by decide
    simp [Env.sortedSockets, LaunchConfig.env, mainTileMap, order]
  rw [visited, sorted]
  rfl

theorem forall_visited_env {P : Nat × Tiles → Prop} :
    (∀ entry ∈ visited (config.env found node0 pinned), P entry) ↔
      (0 < found.numSockets → P (0, fiveGTiles config.vmCores.length)) ∧
        (1 < found.numSockets → P (1, fiveGTiles 0)) := by
  rw [visited_env, mainTileMap]
  by_cases first : 0 < found.numSockets
  · by_cases second : 1 < found.numSockets <;> simp [first, second]
  · have none : ¬ 1 < found.numSockets := by omega
    simp [first, none]

/-- The VMs of a configuration, as the loops meet them. -/
def LaunchConfig.vms (config : LaunchConfig) : List (Tile × Nat) :=
  (List.range config.vmCores.length).map (Prod.mk .fiveG)

theorem served_first (visible : ¬ Skipped found 0) :
    served (config.env found node0 pinned) 0 (fiveGTiles config.vmCores.length) = config.vms := by
  have same : ¬ Skipped (config.env found node0 pinned) 0 := visible
  rw [served, if_neg same]
  exact requests_fiveG rfl fun tile other => by simp [fiveGTiles, other]

theorem served_second : served (config.env found node0 pinned) 1 (fiveGTiles 0) = [] := by
  simp [served, requests, fiveGTiles]

theorem allServed_env (socket : 0 < found.numSockets) (visible : ¬ Skipped found 0) :
    allServed (config.env found node0 pinned) = config.vms := by
  rw [allServed, visited_env, mainTileMap]
  by_cases second : 1 < found.numSockets <;>
    simp [socket, second, served_first visible, served_second]

theorem allServed_env_eq_nil (nothing : ¬ (0 < found.numSockets ∧ ¬ Skipped found 0)) :
    allServed (config.env found node0 pinned) = [] := by
  refine List.flatMap_eq_nil_iff.mpr (forall_visited_env.mpr ⟨fun socket => ?_, fun _ => served_second⟩)
  have skipped : Skipped (config.env found node0 pinned) 0 := by
    by_contra visible
    exact nothing ⟨socket, visible⟩
  rw [served, if_pos skipped]

theorem cpuDemand_vms : cpuDemand (config.env found node0 false) config.vms = config.vmCores.length := by
  have cost : ∀ count, cpuCost (config.env found node0 false) .fiveG count = 1 := fun _ => rfl
  have costs : (config.vms.map fun vm => cpuCost (config.env found node0 false) vm.1 vm.2) =
      List.replicate config.vmCores.length 1 := by
    simp [LaunchConfig.vms, Function.comp_def, cost]
  rw [cpuDemand, costs, List.sum_replicate_nat, Nat.mul_one]

theorem tileCount_vms {tile : Tile} (other : tile ≠ .fiveG) : tileCount tile config.vms = 0 := by
  simp [tileCount, LaunchConfig.vms, Function.comp_def, List.count_replicate, other.symm]

theorem vms_length : config.vms.length = config.vmCores.length := by simp [LaunchConfig.vms]

theorem vms_ne_nil : config.vms ≠ [] := by simpa [LaunchConfig.vms] using config.vmCores_ne

theorem isVmAvailable_env : isVmAvailable (config.env found node0 pinned) = true ↔
    (config.vmCores.length : Int) ≤ found.maxVms := by
  simp [isVmAvailable, LaunchConfig.env, mainTileMap, Tile.sorted, fiveGTiles]

theorem vmNames_length : config.vmNames.length = config.vmWorkloads.length := by
  simp [LaunchConfig.vmNames]

theorem listed_vms : (∀ vm ∈ config.vms, Listed (config.env found node0 pinned) vm.1 vm.2) ↔
    config.vmCores.length ≤ found.vmMemory.length ∧
      config.vmCores.length ≤ config.vmWorkloads.length := by
  simp only [LaunchConfig.vms, List.forall_mem_map, List.mem_range, Listed, true_implies]
  have same : (config.env found node0 pinned).cpusPerVm.length = config.vmCores.length :=
    List.length_map _
  have names : (config.env found node0 pinned).workloadPerVm.length = config.vmWorkloads.length :=
    vmNames_length
  have positive := List.length_pos_of_ne_nil config.vmCores_ne
  rw [same, names]
  constructor
  · intro inside
    have last := inside (config.vmCores.length - 1) (by omega)
    exact ⟨Nat.le_of_pred_lt last.2.1, Nat.le_of_pred_lt last.2.2⟩
  · intro ⟨memory, names⟩ i inside
    exact ⟨inside, Nat.lt_of_lt_of_le inside memory, Nat.lt_of_lt_of_le inside names⟩

theorem launches_iff (node0 : Node0) : Launches found config ↔
    isVmAvailable (config.env found node0 false) = true ∧ Provided (config.env found node0 false) ∧
      allServed (config.env found node0 false) ≠ [] := by
  constructor
  · rintro ⟨admitted, socket, readable, cpus, memory, names, visible, ports⟩
    have all : allServed (config.env found node0 false) = config.vms := allServed_env socket visible
    refine ⟨isVmAvailable_env.mpr admitted, ⟨forall_visited_env.mpr ⟨fun _ => ?_, fun second => ?_⟩, ?_⟩,
      all ▸ vms_ne_nil⟩
    · rw [served_first visible]
      refine ⟨readable 0 (by decide) socket, listed_vms.mpr ⟨memory, names⟩, ?_, fun srIov _ => ?_, ?_⟩
      · rw [cpuDemand_vms]
        exact cpus
      · rw [vms_length]
        exact ports srIov
      · have none : tileCount .qat config.vms = 0 := tileCount_vms nofun
        rw [none]
        exact Nat.zero_le _
    · rw [served_second]
      exact ⟨readable 1 (by decide) second, nofun, Nat.zero_le _, fun _ none => absurd rfl none,
        Nat.zero_le _⟩
    · have none : tileCount .gpuInference config.vms = 0 := tileCount_vms nofun
      rw [all, none]
      exact fun some_gpu => absurd rfl some_gpu
  · rintro ⟨admitted, provided, some_vm⟩
    obtain ⟨socket, visible⟩ : 0 < found.numSockets ∧ ¬ Skipped found 0 :=
      not_not.mp fun nothing => some_vm (allServed_env_eq_nil nothing)
    obtain ⟨first, second⟩ := forall_visited_env.mp provided.sockets
    have here := first socket
    rw [served_first visible] at here
    obtain ⟨memory, names⟩ := listed_vms.mp here.listed
    refine ⟨isVmAvailable_env.mp admitted, socket, fun n inside exists_ => ?_, ?_, memory, names, visible,
      fun srIov => ?_⟩
    · obtain rfl | rfl : n = 0 ∨ n = 1 := by omega
      · exact here.readable
      · exact (second exists_).readable
    · have cpus := here.cpus
      rw [cpuDemand_vms] at cpus
      exact cpus
    · obtain ⟨noPt, ports⟩ := here.ports srIov vms_ne_nil
      rw [vms_length] at ports
      exact ⟨noPt, ports⟩

theorem writtenCommands_of_launches (launches : Launches found config) :
    ∃ cmds, writtenCommands (config.env found node0 false) = some cmds ∧
      cmds.length = config.vmCores.length ∧
      ∀ cmd ∈ cmds, cmd.cpuset = some (.range node0.first.item) := by
  obtain ⟨admitted, provided, -⟩ := (launches_iff node0).mp launches
  obtain ⟨s', run⟩ := generateCommands_returns_iff.mpr provided
  have all : allServed (config.env found node0 false) = config.vms :=
    allServed_env launches.socket launches.visible
  refine ⟨s'.testCommands, ?_, ?_, ?_⟩
  · rw [writtenCommands, if_pos admitted, run]
    rfl
  · rw [length_testCommands run, all, vms_length]
  · have unpinned : (config.env found node0 false).cpuAffinity = false := rfl
    have range : (config.env found node0 false).node0Range = node0.first.item := numacpuRange_eq node0
    rw [← range]
    refine cpuset_of_unpinned unpinned (fun vm member => ?_) run
    rw [all] at member
    obtain ⟨count, -, rfl⟩ := List.mem_map.mp member
    rfl

theorem writtenCommands_of_not_launches (never : ¬ Launches found config) :
    (writtenCommands (config.env found node0 false)).getD [] = [] := by
  by_contra some_vm
  refine never ((launches_iff node0).mpr ?_)
  rw [writtenCommands] at some_vm
  split_ifs at some_vm with admitted
  · cases run : finalState (generateCommands (config.env found node0 false)) with
    | none => simp [run] at some_vm
    | some s' =>
        have returned := ok_of_finalState run
        refine ⟨admitted, generateCommands_returns_iff.mp ⟨s', returned⟩, fun nothing => some_vm ?_⟩
        have length := length_testCommands returned
        rw [nothing] at length
        simpa [run] using length
  · exact absurd rfl some_vm

end Run

theorem CoreRange.eq_of_mem_iff {a b : CoreRange} (left : a.lo ≤ a.hi) (right : b.lo ≤ b.hi)
    (same : ∀ core, a.lo ≤ core ∧ core ≤ a.hi ↔ b.lo ≤ core ∧ core ≤ b.hi) : a = b := by
  have fromA := (same a.lo).mp ⟨Nat.le_refl _, left⟩
  have toA := (same a.hi).mp ⟨left, Nat.le_refl _⟩
  have fromB := (same b.lo).mpr ⟨Nat.le_refl _, right⟩
  have toB := (same b.hi).mpr ⟨right, Nat.le_refl _⟩
  rw [CoreRange.mk.injEq]
  omega

theorem launched_of_usesPqos {found : Env} {node0 : Node0} {config : LaunchConfig} {mode : Mode}
    (pqos : mode.UsesPqos) : launched found node0 config mode =
      (writtenCommands (config.env found node0 false)).getD [] := by
  rcases pqos with rfl | rfl | rfl <;> exact launched_eq config found node0 nofun nofun

/-- The ranges are right only for a single VM on a node whose first range is 0-29. -/
theorem rangesArePinned_iff (found : Env) (node0 : Node0) (config : LaunchConfig) :
    RangesArePinned found node0 config ↔
      (Launches found config → config.vmCores.length = 1 ∧ node0.first = ⟨0, 29⟩) := by
  constructor
  · intro pinned launches
    obtain ⟨cmds, written, length, cpusets⟩ := writtenCommands_of_launches launches
    have first : ∀ i range, i < config.vmCores.length → initVmCoreRange[i]? = some range →
        range.lo ≤ range.hi → node0.first = range := by
      intro i range inside entry le
      have command : (launched found node0 config .mba)[i]? = some (cmds[i]) := by
        rw [launched_of_usesPqos (.inl rfl), written]
        exact List.getElem?_eq_getElem _
      refine CoreRange.eq_of_mem_iff node0.ordered le fun cpu => ?_
      have same := pinned .mba (.inl rfl) i _ command cpu
      rw [cpusets _ (List.getElem_mem _), vmCoreRange, List.getElem?_map, entry] at same
      exact CoreRange.mem_cpuList_item.symm.trans (same.symm.trans mem_cpuList_rangeText)
    have positive := List.length_pos_of_ne_nil config.vmCores_ne
    have zero := first 0 ⟨0, 29⟩ positive rfl (by decide)
    refine ⟨?_, zero⟩
    by_contra several
    have one := first 1 ⟨30, 59⟩ (by omega) rfl (by decide)
    exact absurd (zero.symm.trans one) (by decide)
  · intro single mode pqos i cmd entry cpu
    rw [launched_of_usesPqos pqos] at entry
    by_cases launches : Launches found config
    · obtain ⟨alone, first⟩ := single launches
      obtain ⟨cmds, written, length, cpusets⟩ := writtenCommands_of_launches launches
      rw [written, Option.getD_some] at entry
      obtain rfl : i = 0 := by
        have inside := (List.getElem?_eq_some_iff.mp entry).1
        omega
      rw [cpusets cmd (List.mem_of_getElem? entry), cpusetCpus, CoreRange.mem_cpuList_item, first]
      exact mem_cpuList_rangeText
    · simp [writtenCommands_of_not_launches launches] at entry

/-- A socket with the CPUs 0-59. -/
def sixtyCpus : Env := { Env.oneSocket 60 fun _ => none with vmMemory := [8, 8] }

def sixtyCpusNode0 : Node0 := ⟨⟨0, 59⟩, [], by decide, 3⟩

/-- Two VMs of thirty CPUs, the case that `VM_CORE_RANGE` is written for. -/
def thirtyEach : LaunchConfig where
  vmCores := [30, 30]
  vmWorkloads :=
    [.plain ⟨"mlc".toList, by decide, List.all_iff_forall_prop.mp (by decide)⟩,
     .plain ⟨"redis".toList, by decide, List.all_iff_forall_prop.mp (by decide)⟩]
  vmConfig := ⟨"sample_vm_config.yaml".toList, by decide, List.all_iff_forall_prop.mp (by decide)⟩
  vmCores_ne := by decide
  vmWorkloads_ne := by simp
  workload_undashed := by simp [Workload.text_plain]
  config_undashed := by decide

theorem thirtyEach_not_pinned :
    (∀ n ∈ thirtyEach.vmCores, 0 < n) ∧ thirtyEach.vmCores.sum ≤ cpuCount sixtyCpus 0 ∧
      (launched sixtyCpus sixtyCpusNode0 thirtyEach .mba).map VirtInstall.cpuset =
        [some (.range "0-59".toList), some (.range "0-59".toList)] ∧
      ¬ RangesArePinned sixtyCpus sixtyCpusNode0 thirtyEach := by
  have cpusets : (launched sixtyCpus sixtyCpusNode0 thirtyEach .mba).map VirtInstall.cpuset =
      [some (.range "0-59".toList), some (.range "0-59".toList)] := by
    decide +kernel
  refine ⟨by decide, by decide, cpusets, fun pinned => ?_⟩
  have entry := congrArg (·[0]?) cpusets
  simp only [List.getElem?_map, List.getElem?_cons_zero, Option.map_eq_some_iff] at entry
  obtain ⟨cmd, command, cpuset⟩ := entry
  have same := pinned .mba (.inl rfl) 0 cmd command 30
  rw [cpuset] at same
  exact absurd same (by decide +kernel)

end KvmWorkload.RunTestcases
