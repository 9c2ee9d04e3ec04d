import KvmWorkload.VmCloudInit.Runs

/-! # Who holds a device

A device is popped from its list when it is given to a VM, so a fresh one is
given only once.  Two strings outlive the VM they were made for: `storage_pt`,
which only the 5G branch resets, and `gpu_pt`, which keeps its value when no
GPU is left.  A device that is read from them is given a second time.
-/

namespace KvmWorkload.VmCloudInit

/-- The ids of all devices are different. -/
structure DistinctIds (env : Env) : Prop where
  nodup : ∀ pool, (env.pools pool).Nodup
  disjoint : ∀ pool other, pool ≠ other → (env.pools pool).Disjoint (env.pools other)

/-- No device is in the commands of two VMs. -/
def Exclusive (cmds : List VirtInstall) : Prop :=
  cmds.Pairwise fun a b => a.hostDevices.Disjoint b.hostDevices

/-- What a VM reads from the strings of an earlier one. -/
def stale (tile : Tile) (s : St) : List Text :=
  match tile with
  | .gpuInference => if s.pools .gpu = [] then s.gpuPt.toList else []
  | .fio => s.storagePt
  | _ => []

/-- The device is popped from a list between the two states. -/
def Fresh (s s' : St) (dev : Text) : Prop := ∃ pool, dev ∈ s.pools pool ∧ dev ∉ s'.pools pool

theorem poolAfter_isPrefix (env : Env) (socket : Nat) (tile : Tile) (pool : Pool) (devs : List Text) :
    poolAfter env socket tile pool devs <+: devs := by
  cases pool with
  | nvme => simp only [poolAfter]; split_ifs <;> simp
  | _ => simp only [poolAfter]; split_ifs <;> simp [List.dropLast_prefix]

theorem last_not_mem_dropLast {devs : List Text} {dev : Text} (nodup : devs.Nodup)
    (last : dev ∈ devs.getLast?) : dev ∈ devs ∧ dev ∉ devs.dropLast := by
  obtain ⟨front, rfl⟩ := List.getLast?_eq_some_iff.mp last
  rw [List.dropLast_concat]
  exact ⟨by simp, fun inside => List.disjoint_of_nodup_append nodup inside (by simp)⟩

/-- The last device of a list that the VM pops is fresh. -/
theorem fresh_of_last {env : Env} {socket : Nat} {tile : Tile} {count : Nat} {s : St} {pool : Pool}
    {dev : Text} (nodup : (s.pools pool).Nodup) (last : dev ∈ (s.pools pool).getLast?)
    (popped : poolAfter env socket tile pool (s.pools pool) = (s.pools pool).dropLast) :
    Fresh s (vmPops env socket tile count s) dev := by
  obtain ⟨inside, outside⟩ := last_not_mem_dropLast nodup last
  exact ⟨pool, inside, by rwa [vmPops_pools, popped]⟩

theorem mem_netDevices {env : Env} {socket : Nat} {s : St} {dev : Text} :
    dev ∈ (netOptions env socket s).filterMap NetOption.device ↔
      (env.networking.srIov = 1 ∧ dev ∈ (s.pools (.vf socket)).getLast?) ∨
        (env.networking.pt = 1 ∧ dev ∈ (s.pools .nic).getLast?) := by
  simp only [netOptions, List.filterMap_append, List.mem_append]
  split_ifs <;> simp_all [NetOption.device]

theorem netDevice_fresh {env : Env} {socket : Nat} {tile : Tile} {count : Nat} {s : St} {dev : Text}
    (nodup : ∀ pool, (s.pools pool).Nodup) (net : NetReady env socket s)
    (given : dev ∈ (netOptions env socket s).filterMap NetOption.device) :
    Fresh s (vmPops env socket tile count s) dev := by
  rcases mem_netDevices.mp given with ⟨srIov, last⟩ | ⟨pt, last⟩
  · exact fresh_of_last (nodup _) last (by simp [poolAfter, srIov, (net srIov).1])
  · exact fresh_of_last (nodup _) last (by simp [poolAfter, pt])

theorem nvme_fresh {env : Env} {socket : Nat} {tile : Tile} {count : Nat} {s : St} {dev : Text}
    (drains : tile = .fiveG ∨ tile = .fio) (inside : dev ∈ s.pools .nvme) :
    Fresh s (vmPops env socket tile count s) dev :=
  ⟨.nvme, inside, by simp [vmPops_pools, poolAfter, drains]⟩

theorem tileDevice_stale_or_fresh {env : Env} {socket : Nat} {tile : Tile} {count : Nat} {s : St}
    {dev : Text} (nodup : ∀ pool, (s.pools pool).Nodup)
    (given : dev ∈ tileDevices socket tile (netPops env socket s)) :
    dev ∈ stale tile s ∨ Fresh s (vmPops env socket tile count s) dev := by
  have untouched := netPops_pools env socket tile s
  cases tile with
  | qat =>
      simp only [tileDevices, untouched, Option.mem_toList] at given
      exact .inr (fresh_of_last (nodup _) given (by simp [poolAfter]))
  | fiveG =>
      simp only [tileDevices, untouched, List.mem_reverse] at given
      exact .inr (nvme_fresh (.inl rfl) given)
  | fio =>
      simp only [tileDevices, St.drainNvme, untouched, netPops_storagePt, List.mem_append,
        List.mem_reverse] at given
      exact given.imp_right (nvme_fresh (.inr rfl))
  | gpuInference =>
      simp only [tileDevices, St.takeGpu, untouched, netPops_gpuPt, Option.mem_toList] at given
      by_cases exhausted : s.pools .gpu = []
      · left
        simpa [stale, exhausted] using given
      · rw [List.getLast?_eq_some_getLast exhausted, Option.some_or,
          ← List.getLast?_eq_some_getLast exhausted] at given
        exact .inr (fresh_of_last (nodup _) given (by simp [poolAfter]))
  | _ => simp [tileDevices] at given

theorem mem_tileDevices_of_stale {env : Env} {socket : Nat} {tile : Tile} {s : St} {dev : Text}
    (left : dev ∈ stale tile s) : dev ∈ tileDevices socket tile (netPops env socket s) := by
  have untouched := netPops_pools env socket tile s
  cases tile with
  | fio => exact List.mem_append_left _ (by simpa [stale] using left)
  | gpuInference =>
      by_cases exhausted : s.pools .gpu = []
      · simpa [stale, tileDevices, St.takeGpu, untouched, exhausted] using left
      · simp [stale, exhausted] at left
  | _ => simp [stale] at left

/-- Devices that were given away are in no list, and the strings hold only such devices. -/
structure Held (env : Env) (s : St) : Prop where
  nodup : ∀ pool, (s.pools pool).Nodup
  subset : ∀ pool, s.pools pool ⊆ env.pools pool
  gone : ∀ cmd ∈ s.testCommands, ∀ dev ∈ cmd.hostDevices, ∀ pool, dev ∉ s.pools pool
  storage : ∀ dev ∈ s.storagePt, ∃ cmd ∈ s.testCommands, dev ∈ cmd.hostDevices
  gpu : ∀ dev ∈ s.gpuPt, ∃ cmd ∈ s.testCommands, dev ∈ cmd.hostDevices

theorem held_start {env : Env} (distinct : DistinctIds env) : Held env (start env) :=
  ⟨distinct.nodup, fun _ => List.Subset.refl _, nofun, nofun, nofun⟩

theorem Held.enter {env : Env} {s : St} (held : Held env s) (socket : Nat) (cpus : List Nat) :
    Held env (enter env socket cpus s) := by
  have perm := enter_pools_perm env socket cpus s
  rw [enter_eq]
  exact ⟨fun pool => (perm pool).nodup_iff.mpr (held.nodup pool),
    fun pool => List.Subset.trans (perm pool).subset (held.subset pool),
    fun cmd member dev given pool inside =>
      held.gone cmd member dev given pool ((perm pool).mem_iff.mp inside),
    held.storage, held.gpu⟩

/-- The command that a VM adds, and what is known of its devices. -/
structure Adds (env : Env) (socket : Nat) (tile : Tile) (count : Nat) (s : St) (cmd : VirtInstall) :
    Prop where
  net : NetReady env socket s
  ready : TileReady env socket tile count s
  network : cmd.network = netOptions env socket s
  devices : cmd.devices = tileDevices socket tile (netPops env socket s)

theorem Adds.stale_or_fresh {env : Env} {socket : Nat} {tile : Tile} {count : Nat} {s : St}
    {cmd : VirtInstall} (adds : Adds env socket tile count s cmd)
    (nodup : ∀ pool, (s.pools pool).Nodup) {dev : Text} (given : dev ∈ cmd.hostDevices) :
    dev ∈ stale tile s ∨ Fresh s (vmPops env socket tile count s) dev := by
  rw [VirtInstall.hostDevices, adds.network, adds.devices, List.mem_append] at given
  exact given.elim (fun net => .inr (netDevice_fresh nodup adds.net net))
    (tileDevice_stale_or_fresh nodup)

theorem Adds.mem_of_tileDevices {env : Env} {socket : Nat} {tile : Tile} {count : Nat} {s : St}
    {cmd : VirtInstall} (adds : Adds env socket tile count s cmd) {dev : Text}
    (given : dev ∈ tileDevices socket tile (netPops env socket s)) : dev ∈ cmd.hostDevices :=
  List.mem_append_right _ (adds.devices ▸ given)

theorem Held.stale_given {env : Env} {tile : Tile} {s : St} (held : Held env s) {dev : Text}
    (left : dev ∈ stale tile s) : ∃ cmd ∈ s.testCommands, dev ∈ cmd.hostDevices := by
  cases tile with
  | fio => exact held.storage dev left
  | gpuInference =>
      simp only [stale] at left
      split_ifs at left
      · exact held.gpu dev (by simpa using left)
      · simp at left
  | _ => simp [stale] at left

/-- A device that was in one list and is popped from it is in no list. -/
theorem Fresh.gone {env : Env} (distinct : DistinctIds env) {s s' : St} (held : Held env s)
    (shrinks : ∀ pool, s'.pools pool ⊆ s.pools pool) {dev : Text} (fresh : Fresh s s' dev) (pool : Pool) :
    dev ∉ s'.pools pool := by
  obtain ⟨own, inside, popped⟩ := fresh
  intro still
  by_cases same : own = pool
  · exact popped (same ▸ still)
  · exact distinct.disjoint own pool same (held.subset own inside)
      (held.subset pool (shrinks pool still))

/-- The strings behind a VM hold what is in its command, or what they held before. -/
theorem Adds.strings {env : Env} {socket : Nat} {tile : Tile} {count : Nat} {s : St}
    {cmd : VirtInstall} (adds : Adds env socket tile count s cmd) {dev : Text}
    (kept : dev ∈ (vmPops env socket tile count s).storagePt ∨
      dev ∈ (vmPops env socket tile count s).gpuPt) :
    dev ∈ cmd.hostDevices ∨ dev ∈ s.storagePt ∨ dev ∈ s.gpuPt := by
  rw [vmPops_storagePt, vmPops_gpuPt] at kept
  rcases kept with storage | gpu
  · split_ifs at storage with drains
    · exact .inl (adds.mem_of_tileDevices storage)
    · exact .inr (.inl storage)
  · split_ifs at gpu with takes
    · subst takes
      refine .inl (adds.mem_of_tileDevices ?_)
      simpa [tileDevices, St.takeGpu, netPops_pools env socket .gpuInference] using gpu
    · exact .inr (.inr gpu)

/-- Behind a VM, its devices are in no list. -/
theorem Held.step {env : Env} (distinct : DistinctIds env) {socket : Nat} {tile : Tile} {count : Nat}
    {s : St} {cmds : VirtInstall × VirtInstall} {tileNo : Nat} (held : Held env s)
    (adds : Adds env socket tile count s cmds.1) :
    Held env (record tile tileNo cmds (vmPops env socket tile count s)) := by
  have before : ∀ pool, (vmPops env socket tile count s).pools pool <+: s.pools pool := by
    intro pool
    rw [vmPops_pools]
    exact poolAfter_isPrefix ..
  have strings : ∀ dev, (dev ∈ (vmPops env socket tile count s).storagePt ∨
      dev ∈ (vmPops env socket tile count s).gpuPt) →
      ∃ cmd ∈ s.testCommands ++ [cmds.1], dev ∈ cmd.hostDevices := by
    intro dev kept
    rcases adds.strings kept with given | storage | gpu
    · exact ⟨cmds.1, by simp, given⟩
    · obtain ⟨cmd, member, given⟩ := held.storage dev storage
      exact ⟨cmd, List.mem_append_left _ member, given⟩
    · obtain ⟨cmd, member, given⟩ := held.gpu dev gpu
      exact ⟨cmd, List.mem_append_left _ member, given⟩
  constructor
  · exact fun pool => (held.nodup pool).sublist (before pool).sublist
  · exact fun pool => List.Subset.trans (before pool).subset (held.subset pool)
  · intro cmd member dev given pool
    have old : ∀ cmd ∈ s.testCommands, dev ∈ cmd.hostDevices →
        dev ∉ (vmPops env socket tile count s).pools pool := fun cmd member given still =>
      held.gone cmd member dev given pool ((before pool).subset still)
    simp only [record, vmPops_testCommands, List.mem_append, List.mem_singleton] at member
    rcases member with earlier | rfl
    · exact old cmd earlier given
    · rcases adds.stale_or_fresh held.nodup given with left | fresh
      · obtain ⟨cmd, earlier, given⟩ := held.stale_given left
        exact old cmd earlier given
      · exact fresh.gone distinct held (fun pool => (before pool).subset) pool
  · intro dev kept
    simpa [record] using strings dev (.inl kept)
  · intro dev kept
    simpa [record] using strings dev (.inr kept)

theorem Held.exclusive_concat {env : Env} {socket : Nat} {tile : Tile} {count : Nat} {s : St}
    {cmd : VirtInstall} (held : Held env s) (adds : Adds env socket tile count s cmd) :
    Exclusive (s.testCommands ++ [cmd]) ↔ Exclusive s.testCommands ∧ stale tile s = [] := by
  have last : (∀ old ∈ s.testCommands, old.hostDevices.Disjoint cmd.hostDevices) ↔
      stale tile s = [] := by
    constructor
    · intro apart
      rw [List.eq_nil_iff_forall_not_mem]
      intro dev left
      obtain ⟨old, member, given⟩ := held.stale_given left
      exact apart old member given (adds.mem_of_tileDevices (mem_tileDevices_of_stale left))
    · intro nothing old member dev given again
      rcases adds.stale_or_fresh held.nodup again with left | ⟨pool, inside, -⟩
      · simp [nothing] at left
      · exact held.gone old member dev given pool inside
  rw [Exclusive, List.pairwise_append]
  simp only [List.pairwise_singleton, List.mem_singleton, forall_eq, true_and, last]
  rfl

/-- The tiles of the VMs that get NVME devices, in order. -/
def storageVms (vms : List (Tile × Nat)) : List Tile :=
  (vms.map Prod.fst).filter fun tile => tile = .fiveG ∨ tile = .fio

/-- There is a GPU for every VM that asks for one.  The first VM with storage gets all NVME devices,
    and if there are any, the second such VM is not of the tile that keeps `storage_pt`. -/
@[mk_iff] structure SoleHolders (env : Env) (vms : List (Tile × Nat)) : Prop where
  gpus : tileCount .gpuInference vms ≤ env.ptGpu.length
  storage : env.ptNvme = [] ∨ (storageVms vms)[1]? ≠ some .fio

/-- What the first VMs with storage have left of the NVME devices and of `storage_pt`. -/
def StorageState (env : Env) (s : St) : List Tile → Prop
  | [] => s.pools .nvme = env.ptNvme ∧ s.storagePt = []
  | [_] => s.pools .nvme = [] ∧ (s.storagePt = [] ↔ env.ptNvme = [])
  | _ :: second :: _ => s.pools .nvme = [] ∧ (env.ptNvme = [] ∨ second ≠ .fio → s.storagePt = [])

structure Balance (env : Env) (vms : List (Tile × Nat)) (s : St) : Prop where
  gpus : (s.pools .gpu).length = env.ptGpu.length - tileCount .gpuInference vms
  storage : StorageState env s (storageVms vms)

theorem StorageState.concat {env : Env} {s s' : St} {vms : List Tile} {tile : Tile}
    (state : StorageState env s vms) (drained : s'.pools .nvme = [])
    (fiveG : tile = .fiveG → s'.storagePt = (s.pools .nvme).reverse)
    (fio : tile = .fio → s'.storagePt = s.storagePt ++ (s.pools .nvme).reverse)
    (drains : tile = .fiveG ∨ tile = .fio) : StorageState env s' (vms ++ [tile]) := by
  match vms, state with
  | [], ⟨nvme, storagePt⟩ =>
      refine ⟨drained, ?_⟩
      rcases drains with rfl | rfl
      · simp [fiveG rfl, nvme]
      · simp [fio rfl, nvme, storagePt]
  | [_], ⟨nvme, storagePt⟩ =>
      refine ⟨drained, ?_⟩
      rcases drains with rfl | rfl
      · simp [fiveG rfl, nvme]
      · simp [fio rfl, nvme, storagePt]
  | _ :: second :: rest, ⟨nvme, storagePt⟩ =>
      refine ⟨drained, fun clean => ?_⟩
      rcases drains with rfl | rfl
      · simp [fiveG rfl, nvme]
      · simp [fio rfl, nvme, storagePt clean]

theorem StorageState.fio_concat {env : Env} {s : St} {vms : List Tile} (state : StorageState env s vms) :
    (env.ptNvme = [] ∨ (vms ++ [.fio])[1]? ≠ some .fio) ↔
      (env.ptNvme = [] ∨ vms[1]? ≠ some .fio) ∧ s.storagePt = [] := by
  match vms, state with
  | [], ⟨nvme, storagePt⟩ => simp [storagePt]
  | [_], ⟨nvme, storagePt⟩ => simp [storagePt]
  | _ :: second :: rest, ⟨nvme, storagePt⟩ =>
      simp only [List.cons_append, List.getElem?_cons_succ, List.getElem?_cons_zero, ne_eq,
        Option.some.injEq]
      exact ⟨fun clean => ⟨clean, storagePt clean⟩, And.left⟩

theorem Balance.start (env : Env) : Balance env [] (start env) :=
  ⟨rfl, rfl, rfl⟩

theorem StorageState.congr {env : Env} {s s' : St} {vms : List Tile} (state : StorageState env s vms)
    (nvme : s'.pools .nvme = s.pools .nvme) (storagePt : s'.storagePt = s.storagePt) :
    StorageState env s' vms := by
  match vms, state with
  | [], state | [_], state | _ :: _ :: _, state => simpa only [StorageState, nvme, storagePt] using state

theorem Balance.enter {env : Env} {vms : List (Tile × Nat)} {s : St} (balance : Balance env vms s)
    (socket : Nat) (cpus : List Nat) : Balance env vms (enter env socket cpus s) := by
  have gpu : (VmCloudInit.enter env socket cpus s).pools .gpu = s.pools .gpu :=
    enter_pools_of_ne _ _ _ _ nofun
  have nvme : (VmCloudInit.enter env socket cpus s).pools .nvme = s.pools .nvme :=
    enter_pools_of_ne _ _ _ _ nofun
  exact ⟨by rw [gpu, balance.gpus], balance.storage.congr nvme (by rw [enter_eq])⟩

theorem gpuCount_concat (vms : List (Tile × Nat)) (tile : Tile) (count : Nat) :
    tileCount .gpuInference (vms ++ [(tile, count)]) =
      tileCount .gpuInference vms + if tile = .gpuInference then 1 else 0 := by
  rw [tileCount_append, tileCount_cons]
  exact congrArg _ (Nat.zero_add _)

theorem storageVms_concat (vms : List (Tile × Nat)) (tile : Tile) (count : Nat) :
    storageVms (vms ++ [(tile, count)]) =
      storageVms vms ++ if tile = .fiveG ∨ tile = .fio then [tile] else [] := by
  simp [storageVms, List.filter_singleton]

theorem Balance.step {env : Env} {vms : List (Tile × Nat)} {socket : Nat} {tile : Tile} {count : Nat}
    {s : St} {cmds : VirtInstall × VirtInstall} {tileNo : Nat} (balance : Balance env vms s) :
    Balance env (vms ++ [(tile, count)]) (record tile tileNo cmds (vmPops env socket tile count s)) := by
  have nvme := vmPops_pools env socket tile count s .nvme
  have storagePt := vmPops_storagePt env socket tile count s
  constructor
  · change ((vmPops env socket tile count s).pools .gpu).length = _
    rw [vmPops_pools, gpuCount_concat, poolAfter]
    split_ifs
    · rw [List.length_dropLast, balance.gpus]
      omega
    · rw [balance.gpus, Nat.add_zero]
  · rw [storageVms_concat]
    by_cases drains : tile = .fiveG ∨ tile = .fio
    · rw [if_pos drains] at storagePt ⊢
      refine balance.storage.concat ?_ ?_ ?_ drains
      · exact nvme.trans (if_pos drains)
      · rintro rfl
        exact storagePt.trans (congrArg List.reverse (netPops_pools env socket .fiveG s .nvme))
      · rintro rfl
        refine storagePt.trans ?_
        simp [tileDevices, St.drainNvme, netPops_pools env socket .fio]
    · rw [if_neg drains] at storagePt ⊢
      rw [List.append_nil]
      exact balance.storage.congr (nvme.trans (if_neg drains)) storagePt

theorem Balance.soleHolders_concat {env : Env} {vms : List (Tile × Nat)} {socket : Nat} {tile : Tile}
    {count : Nat} {s : St} (balance : Balance env vms s) (ready : TileReady env socket tile count s) :
    SoleHolders env (vms ++ [(tile, count)]) ↔ SoleHolders env vms ∧ stale tile s = [] := by
  rw [soleHolders_iff, soleHolders_iff, gpuCount_concat, storageVms_concat]
  cases tile with
  | gpuInference =>
      have exhausted : stale .gpuInference s = [] ↔ tileCount .gpuInference vms < env.ptGpu.length := by
        have left := balance.gpus
        by_cases empty : s.pools .gpu = []
        · have bound := (ready.gpu rfl).resolve_left (not_not.mpr empty)
          rw [empty, List.length_nil] at left
          simp only [stale, empty, if_true, Option.toList_eq_nil_iff, bound, false_iff]
          omega
        · have positive := List.length_pos_of_ne_nil empty
          simp only [stale, empty, if_false, true_iff]
          omega
      simp only [if_true, reduceCtorEq, or_self, if_false, List.append_nil, exhausted]
      constructor
      · rintro ⟨gpus, storage⟩
        exact ⟨⟨by omega, storage⟩, by omega⟩
      · rintro ⟨⟨-, storage⟩, gpus⟩
        exact ⟨by omega, storage⟩
  | fio =>
      simp only [reduceCtorEq, if_false, Nat.add_zero, or_true, if_true]
      rw [balance.storage.fio_concat, and_assoc]
      rfl
  | fiveG =>
      have second : (storageVms vms ++ [.fiveG])[1]? = some .fio ↔ (storageVms vms)[1]? = some .fio := by
        match storageVms vms with
        | [] | [_] | _ :: _ :: _ => simp
      simp [stale, second]
  | _ => simp [stale]

theorem exclusive_invariant {env : Env} (distinct : DistinctIds env) :
    RunInvariant env fun vms s =>
      Held env s ∧ Balance env vms s ∧ (Exclusive s.testCommands ↔ SoleHolders env vms) where
  enter := by
    rintro done socket cpus s ⟨held, balance, verdict⟩ -
    exact ⟨held.enter socket cpus, balance.enter socket cpus, by rw [enter_eq]; exact verdict⟩
  step := by
    rintro done socket tile count s s' ⟨held, balance, verdict⟩ run
    obtain ⟨net, ready, cmds, rfl, network, devices⟩ := createVm_ok run
    have adds : Adds env socket tile count s cmds.1 := ⟨net, ready, network, devices⟩
    refine ⟨held.step distinct adds, balance.step, ?_⟩
    rw [balance.soleHolders_concat ready, ← verdict, ← held.exclusive_concat adds]
    simp only [record, vmPops_testCommands]

/-- On a run that returns, no device is given to two VMs exactly when no VM comes to read a string
    that an earlier one left. -/
theorem testCommands_exclusive_iff {env : Env} (distinct : DistinctIds env) {s' : St}
    (run : generateCommands env = .ok () s') :
    Exclusive s'.testCommands ↔ SoleHolders env (allServed env) := by
  have first : Exclusive (start env).testCommands ↔ SoleHolders env [] :=
    iff_of_true List.Pairwise.nil ⟨Nat.zero_le _, .inr (by simp [storageVms])⟩
  exact ((exclusive_invariant distinct).generateCommands
    ⟨held_start distinct, Balance.start env, first⟩ run).2.2

/-- A host with one socket of eight CPUs and one NVME device. -/
def nvmeHost (tiles : Tiles) : Env :=
  { Env.oneSocket 8 tiles with ptNvme := ["pci_0000_49_00_0".toList] }

theorem nvmeHost_distinctIds (tiles : Tiles) : DistinctIds (nvmeHost tiles) where
  nodup := by
    intro pool
    cases pool <;> simp [Env.pools, nvmeHost, Env.oneSocket]
  disjoint := by
    intro pool other different
    cases pool <;> cases other <;> simp_all [Env.pools, nvmeHost, Env.oneSocket]

def fioVms (n : Int) : Tiles := fun tile => if tile = .fio then some n else none

theorem testCommands_exclusive_oneFio :
    ∃ s', generateCommands (nvmeHost (fioVms 1)) = .ok () s' ∧
      (Exclusive s'.testCommands ↔
        SoleHolders (nvmeHost (fioVms 1)) (allServed (nvmeHost (fioVms 1)))) := by
  obtain ⟨s', run⟩ : ∃ s', generateCommands (nvmeHost (fioVms 1)) = .ok () s' :=
    exists_ok_of_isSome (by decide +kernel)
  exact ⟨s', run, testCommands_exclusive_iff (nvmeHost_distinctIds _) run⟩

/-- The second FIO VM gets the NVME device of the first. -/
theorem twoFio_not_exclusive :
    DistinctIds (nvmeHost (fioVms 2)) ∧
      ∃ s', generateCommands (nvmeHost (fioVms 2)) = .ok () s' ∧ ¬ Exclusive s'.testCommands := by
  have devices : (finalState (generateCommands (nvmeHost (fioVms 2)))).map
      (fun s => s.testCommands.map VirtInstall.hostDevices) =
        some [["pci_0000_49_00_0".toList], ["pci_0000_49_00_0".toList]] := by decide +kernel
  obtain ⟨s', run, devices⟩ := exists_ok_of_view devices
  refine ⟨nvmeHost_distinctIds _, s', run, fun exclusive => ?_⟩
  have apart := List.pairwise_map.mpr exclusive
  rw [devices] at apart
  simp at apart

end KvmWorkload.VmCloudInit
