import KvmWorkload.VmCloudInit.Commands

/-! # What one VM takes

Each part of the loop body, described by when it comes to its end and by the
state that it leaves.  Later modules argue from these descriptions and never
unfold the loop body.
-/

namespace KvmWorkload.VmCloudInit

namespace St

/-- The next `n` CPUs, in the order in which they are popped. -/
def nextCpus (s : St) (n : Nat) : List Nat := s.cpupool.reverse.take n

def dropCpus (s : St) (n : Nat) : St := { s with cpupool := s.cpupool.take (s.cpupool.length - n) }

/-- The state behind a pop, also a failed one. -/
def dropDevice (s : St) (pool : Pool) : St := s.setPool pool (s.pools pool).dropLast

/-- `storage_pt` with all NVME devices that are left appended to it. -/
def drainNvme (s : St) : St :=
  { s.setPool .nvme [] with storagePt := s.storagePt ++ (s.pools .nvme).reverse }

@[simp] theorem setPool_self (s : St) (pool : Pool) : s.setPool pool (s.pools pool) = s := by
  rw [setPool, Function.update_eq_self]

theorem dropDevice_of_nil {s : St} {pool : Pool} (empty : s.pools pool = []) :
    s.dropDevice pool = s := by
  rw [dropDevice, empty, List.dropLast_nil, ← empty, setPool_self]

@[simp] theorem setPool_pools_self (s : St) (pool : Pool) (devs : List Text) :
    (s.setPool pool devs).pools pool = devs := Function.update_self ..

theorem setPool_pools_of_ne (s : St) {pool other : Pool} (devs : List Text) (ne : other ≠ pool) :
    (s.setPool pool devs).pools other = s.pools other := Function.update_of_ne ne ..

@[simp] theorem length_dropCpus (s : St) (n : Nat) :
    (s.dropCpus n).cpupool.length = s.cpupool.length - n := by
  simp [dropCpus]

theorem dropCpus_dropCpus (s : St) (m n : Nat) : (s.dropCpus m).dropCpus n = s.dropCpus (m + n) := by
  simp only [dropCpus, List.length_take, List.take_take, St.mk.injEq, and_self, true_and, and_true]
  congr 1
  omega

theorem nextCpus_succ {s : St} {cpu : Nat} (last : s.cpupool.getLast? = some cpu) (n : Nat) :
    s.nextCpus (n + 1) = cpu :: (s.dropCpus 1).nextCpus n := by
  obtain ⟨front, shape⟩ := List.getLast?_eq_some_iff.mp last
  simp [nextCpus, dropCpus, shape]

end St

theorem pop_ok {pool : Pool} {dev : Text} {s s' : St} :
    pop pool s = .ok dev s' ↔ (s.pools pool).getLast? = some dev ∧ s.dropDevice pool = s' := by
  rw [pop]
  cases (s.pools pool).getLast? with
  | none => simp
  | some last => simp [St.dropDevice]

theorem tryPop_ok {pool : Pool} {got : Option Text} {s s' : St} :
    tryPop pool s = .ok got s' ↔ (s.pools pool).getLast? = got ∧ s.dropDevice pool = s' := by
  rw [tryPop, pop]
  cases last : (s.pools pool).getLast? with
  | none =>
      rw [St.dropDevice_of_nil (List.getLast?_eq_none_iff.mp last)]
      simp
  | some dev => simp [St.dropDevice]

theorem popCpu_ok {cpu : Nat} {s s' : St} :
    popCpu s = .ok cpu s' ↔ s.cpupool.getLast? = some cpu ∧ s.dropCpus 1 = s' := by
  rw [popCpu]
  cases s.cpupool.getLast? with
  | none => simp
  | some last => simp [St.dropCpus, List.dropLast_eq_take]

theorem popCpus_ok {n : Nat} {cpus : List Nat} {s s' : St} :
    popCpus n s = .ok cpus s' ↔
      n ≤ s.cpupool.length ∧ s.nextCpus n = cpus ∧ s.dropCpus n = s' := by
  induction n generalizing cpus s s' with
  | zero => simp [popCpus, St.nextCpus, St.dropCpus]
  | succ n ih =>
      simp only [popCpus, bind_ok, popCpu_ok, ih, pure_ok]
      constructor
      · rintro ⟨cpu, t, ⟨last, rfl⟩, others, t', ⟨enough, rfl, rfl⟩, rfl, rfl⟩
        have some_left : 0 < s.cpupool.length := by
          cases pool : s.cpupool with
          | nil => simp [pool] at last
          | cons c cs => simp
        rw [St.length_dropCpus] at enough
        exact ⟨by omega, St.nextCpus_succ last n, by rw [St.dropCpus_dropCpus, Nat.add_comm]⟩
      · rintro ⟨enough, rfl, rfl⟩
        obtain ⟨cpu, last⟩ : ∃ cpu, s.cpupool.getLast? = some cpu :=
          ⟨_, List.getLast?_eq_some_getLast (List.ne_nil_of_length_pos (by omega))⟩
        refine ⟨cpu, _, ⟨last, rfl⟩, _, _, ⟨?_, rfl, rfl⟩, (St.nextCpus_succ last n).symm, ?_⟩
        · rw [St.length_dropCpus]
          omega
        · rw [St.dropCpus_dropCpus, Nat.add_comm]

theorem attachNvme_run {devs : List Text} {s : St} (left : s.pools .nvme = devs) :
    attachNvme devs.length s = .ok () s.drainNvme := by
  induction devs using List.reverseRecOn generalizing s with
  | nil =>
      have unchanged : s.drainNvme = s := by
        rw [St.drainNvme, left, List.reverse_nil, List.append_nil, ← left, St.setPool_self]
      rw [unchanged]
      rfl
  | append_singleton rest dev ih =>
      rw [List.length_append, List.length_singleton, attachNvme]
      refine bind_ok.mpr ⟨dev, _, pop_ok.mpr ⟨by simp [left], rfl⟩, ?_⟩
      refine bind_ok.mpr ⟨⟨⟩, _, modify_ok.mpr rfl, ?_⟩
      rw [ih (by simp [St.dropDevice, left])]
      simp [St.drainNvme, St.dropDevice, St.setPool, left]

theorem attachNvme_ok {u : Unit} {s s' : St} :
    attachNvme (s.pools .nvme).length s = .ok u s' ↔ s.drainNvme = s' := by
  rw [attachNvme_run rfl, EStateM.Result.ok.injEq, and_iff_right rfl]

/-- `network_cmd` of a VM whose networking part comes to its end. -/
def netOptions (env : Env) (socket : Nat) (s : St) : List NetOption :=
  (if env.networking.srIov = 1 then (s.pools (.vf socket)).getLast?.toList.map .hostDevice else []) ++
    (if env.networking.bridge = 1 then [.bridge] else []) ++
    (if env.networking.ovsBridge = 1 then [.ovsBridge] else []) ++
    (if env.networking.pt = 1 then (s.pools .nic).getLast?.toList.map .hostDevice else [])

def netPops (env : Env) (socket : Nat) (s : St) : St :=
  if env.networking.pt = 1 then s.dropDevice .nic
  else if env.networking.srIov = 1 then s.dropDevice (.vf socket)
  else s

/-- Only device lists change. -/
theorem netPops_eq (env : Env) (socket : Nat) (s : St) :
    netPops env socket s = { s with pools := (netPops env socket s).pools } := by
  simp only [netPops]
  split_ifs <;> rfl

@[simp] theorem netPops_storagePt (env : Env) (socket : Nat) (s : St) :
    (netPops env socket s).storagePt = s.storagePt := by rw [netPops_eq]

@[simp] theorem netPops_gpuPt (env : Env) (socket : Nat) (s : St) :
    (netPops env socket s).gpuPt = s.gpuPt := by rw [netPops_eq]

@[simp] theorem netPops_cpupool (env : Env) (socket : Nat) (s : St) :
    (netPops env socket s).cpupool = s.cpupool := by rw [netPops_eq]

@[simp] theorem netPops_testCommands (env : Env) (socket : Nat) (s : St) :
    (netPops env socket s).testCommands = s.testCommands := by rw [netPops_eq]

/-- The networking part stops on SR-IOV together with PT, and on SR-IOV without a port left. -/
def NetReady (env : Env) (socket : Nat) (s : St) : Prop :=
  env.networking.srIov = 1 → env.networking.pt ≠ 1 ∧ s.pools (.vf socket) ≠ []

theorem networkCmd_ok {env : Env} {socket : Nat} {network : List NetOption} {s s' : St} :
    networkCmd env socket s = .ok network s' ↔
      NetReady env socket s ∧ netOptions env socket s = network ∧ netPops env socket s = s' := by
  simp only [networkCmd, takeNic, takePort, bind_ok]
  by_cases pt : env.networking.pt = 1
  · by_cases srIov : env.networking.srIov = 1
    · simp [NetReady, pt, srIov]
    · simp [NetReady, netOptions, netPops, tryPop_ok, pt, srIov, and_comm]
  · by_cases srIov : env.networking.srIov = 1
    · simp only [NetReady, netOptions, netPops, pt, srIov, if_true, if_false, pure_ok, map_ok, pop_ok]
      cases last : (s.pools (.vf socket)).getLast? with
      | none => simp [List.getLast?_eq_none_iff.mp last]
      | some dev =>
          have more : s.pools (.vf socket) ≠ [] := by rintro empty; simp [empty] at last
          simp [more, last, pt]
    · simp [NetReady, netOptions, netPops, pt, srIov, and_comm]

theorem popTileCpus_ok {cpuset : CpuSet} {s s' : St} :
    popTileCpus s = .ok cpuset s' ↔
      2 ≤ s.cpupool.length ∧ .ids (s.nextCpus 2) = cpuset ∧ s.dropCpus 2 = s' := by
  simp only [popTileCpus, map_ok, popCpus_ok, tileResource]
  constructor
  · rintro ⟨cpus, ⟨enough, rfl, rfl⟩, rfl⟩
    exact ⟨enough, rfl, rfl⟩
  · rintro ⟨enough, rfl, rfl⟩
    exact ⟨_, ⟨enough, rfl, rfl⟩, rfl⟩

theorem index_ok {α : Type} {list : List α} {i : Nat} {x : α} {s s' : St} :
    index list i s = .ok x s' ↔ list[i]? = some x ∧ s = s' := by
  rw [index]
  cases list[i]? with
  | none => simp
  | some y => simp

theorem popQat_ok {env : Env} {socket : Nat} {dev : Text} {s s' : St} :
    popQat env socket s = .ok dev s' ↔
      env.qatVfSocket socket ≠ none ∧ (s.pools (.qat socket)).getLast? = some dev ∧
        s.dropDevice (.qat socket) = s' := by
  rw [popQat]
  cases env.qatVfSocket socket with
  | none => simp
  | some vfs =>
      by_cases empty : s.pools (.qat socket) = []
      · simp [empty]
      · simp [empty, pop_ok]

theorem qatCommands_ok {env : Env} {socket : Nat} {base : VirtInstall}
    {cmds : VirtInstall × VirtInstall} {s s' : St} :
    qatCommands env socket base s = .ok cmds s' ↔
      ∃ dev, env.qatVfSocket socket ≠ none ∧ (s.pools (.qat socket)).getLast? = some dev ∧
        2 ≤ s.cpupool.length ∧
        ({ base with devices := [dev], cpuset := some (.ids (s.nextCpus 2)) },
          { base.removeCd with devices := [dev] }) = cmds ∧
        (s.dropDevice (.qat socket)).dropCpus 2 = s' := by
  simp only [qatCommands, bind_ok, popQat_ok, popTileCpus_ok, pure_ok]
  constructor
  · rintro ⟨dev, t, ⟨known, last, rfl⟩, cpuset, t', ⟨enough, rfl, rfl⟩, rfl, rfl⟩
    exact ⟨dev, known, last, enough, rfl, rfl⟩
  · rintro ⟨dev, known, last, enough, rfl, rfl⟩
    exact ⟨dev, _, ⟨known, last, rfl⟩, _, _, ⟨enough, rfl, rfl⟩, rfl, rfl⟩

theorem cpuInferenceCommands_ok {env : Env} {tileNo : Nat} {base : VirtInstall}
    {cmds : VirtInstall × VirtInstall} {s s' : St} :
    cpuInferenceCommands env tileNo base s = .ok cmds s' ↔
      2 ≤ s.cpupool.length ∧
        ({ base with
            osType := false
            iso := some (storedAtRoot env (isoName .cpuInference tileNo) "iso".toList)
            cpuset := some (.ids (s.nextCpus 2))
            hostPassthrough := true },
          { base.removeCd with hostPassthrough := true }) = cmds ∧
        s.dropCpus 2 = s' := by
  simp only [cpuInferenceCommands, bind_ok, popTileCpus_ok, pure_ok]
  constructor
  · rintro ⟨cpuset, t, ⟨enough, rfl, rfl⟩, rfl, rfl⟩
    exact ⟨enough, rfl, rfl⟩
  · rintro ⟨enough, rfl, rfl⟩
    exact ⟨_, _, ⟨enough, rfl, rfl⟩, rfl, rfl⟩

theorem otherCommands_ok {base : VirtInstall} {cmds : VirtInstall × VirtInstall} {s s' : St} :
    otherCommands base s = .ok cmds s' ↔
      2 ≤ s.cpupool.length ∧
        (base, { base.removeCd with cpuset := some (.ids (s.nextCpus 2)) }) = cmds ∧
        s.dropCpus 2 = s' := by
  simp only [otherCommands, bind_ok, popTileCpus_ok, pure_ok]
  constructor
  · rintro ⟨cpuset, t, ⟨enough, rfl, rfl⟩, rfl, rfl⟩
    exact ⟨enough, rfl, rfl⟩
  · rintro ⟨enough, rfl, rfl⟩
    exact ⟨_, _, ⟨enough, rfl, rfl⟩, rfl, rfl⟩

theorem fioCommands_ok {base : VirtInstall} {cmds : VirtInstall × VirtInstall} {s s' : St} :
    fioCommands base s = .ok cmds s' ↔
      2 ≤ s.cpupool.length ∧
        ({ base with
            devices := s.drainNvme.storagePt
            cpuset := some (.ids (s.nextCpus 2))
            hostPassthrough := true },
          { base.removeCd with
            devices := s.drainNvme.storagePt
            hostPassthrough := true }) = cmds ∧
        s.drainNvme.dropCpus 2 = s' := by
  simp only [fioCommands, bind_ok, popTileCpus_ok, pure_ok, get_ok]
  constructor
  · rintro ⟨_, _, ⟨rfl, rfl⟩, u, t, drained, cpuset, t', ⟨enough, rfl, rfl⟩, _, _, ⟨rfl, rfl⟩,
      rfl, rfl⟩
    obtain rfl := attachNvme_ok.mp drained
    exact ⟨enough, rfl, rfl⟩
  · rintro ⟨enough, rfl, rfl⟩
    exact ⟨_, _, ⟨rfl, rfl⟩, (), _, attachNvme_ok.mpr rfl, _, _, ⟨enough, rfl, rfl⟩, _, _,
      ⟨rfl, rfl⟩, rfl, rfl⟩

theorem readGpuPt_ok {gpuPt : Text} {s s' : St} :
    readGpuPt s = .ok gpuPt s' ↔ s.gpuPt = some gpuPt ∧ s = s' := by
  rw [readGpuPt]
  cases s.gpuPt with
  | none => simp
  | some bound => simp

/-- The state behind the pop of a GPU; without one left, `gpu_pt` keeps its value. -/
def St.takeGpu (s : St) : St :=
  { s.dropDevice .gpu with gpuPt := (s.pools .gpu).getLast?.or s.gpuPt }

theorem gpuInferenceCommands_ok {base : VirtInstall} {cmds : VirtInstall × VirtInstall} {s s' : St} :
    gpuInferenceCommands base s = .ok cmds s' ↔
      ∃ gpuPt, s.takeGpu.gpuPt = some gpuPt ∧ 2 ≤ s.cpupool.length ∧
        ({ base with
            devices := [gpuPt]
            cpuset := some (.ids (s.nextCpus 2))
            hostPassthrough := true },
          { base.removeCd with devices := [gpuPt], hostPassthrough := true }) = cmds ∧
        s.takeGpu.dropCpus 2 = s' := by
  simp only [gpuInferenceCommands, bind_ok, popTileCpus_ok, tryPop_ok, modify_ok, readGpuPt_ok,
    pure_ok]
  constructor
  · rintro ⟨popped, t, ⟨rfl, rfl⟩, _, _, rfl, cpuset, t', ⟨enough, rfl, rfl⟩, gpuPt, _,
      ⟨bound, rfl⟩, rfl, rfl⟩
    exact ⟨gpuPt, bound, enough, rfl, rfl⟩
  · rintro ⟨gpuPt, bound, enough, rfl, rfl⟩
    exact ⟨_, _, ⟨rfl, rfl⟩, ⟨⟩, _, rfl, _, _, ⟨enough, rfl, rfl⟩, gpuPt, _, ⟨bound, rfl⟩, rfl, rfl⟩

/-- `cpuset` of a 5G VM that wants `nVcpus` CPUs. -/
def fiveGCpuset (env : Env) (nVcpus : Int) (s : St) : CpuSet :=
  if env.cpuAffinity then .ids (s.nextCpus (1 + (nVcpus - 1).toNat)) else .range env.node0Range

/-- How many CPUs a 5G VM pops: one in any case, and the others only to pin it. -/
def fiveGCost (env : Env) (nVcpus : Int) : Nat :=
  if env.cpuAffinity then 1 + (nVcpus - 1).toNat else 1

theorem fiveGCpus_ok {env : Env} {count : Nat} {got : Int × CpuSet} {s s' : St} :
    fiveGCpus env count s = .ok got s' ↔
      ∃ nVcpus, env.cpusPerVm[count]? = some nVcpus ∧ fiveGCost env nVcpus ≤ s.cpupool.length ∧
        (nVcpus, fiveGCpuset env nVcpus s) = got ∧ s.dropCpus (fiveGCost env nVcpus) = s' := by
  simp only [fiveGCpus, fiveGCost, fiveGCpuset, bind_ok, popCpu_ok, index_ok]
  cases env.cpuAffinity with
  | false =>
      simp only [Bool.false_eq_true, if_false, pure_ok]
      constructor
      · rintro ⟨first, _, ⟨last, rfl⟩, nVcpus, _, ⟨cpus, rfl⟩, rfl, rfl⟩
        have some_left := List.getLast?_isSome.mp (Option.isSome_of_eq_some last)
        exact ⟨nVcpus, cpus, List.length_pos_of_ne_nil some_left, rfl, rfl⟩
      · rintro ⟨nVcpus, cpus, enough, rfl, rfl⟩
        have last := List.getLast?_eq_some_getLast (List.ne_nil_of_length_pos enough)
        exact ⟨_, _, ⟨last, rfl⟩, nVcpus, _, ⟨cpus, rfl⟩, rfl, rfl⟩
  | true =>
      -- The first pop and the others are together `1 + (nVcpus - 1)` pops.
      simp only [if_true, map_ok, popCpus_ok, Nat.add_comm 1]
      constructor
      · rintro ⟨first, _, ⟨last, rfl⟩, nVcpus, _, ⟨cpus, rfl⟩, others, ⟨enough, rfl, rfl⟩, rfl⟩
        have some_left := List.getLast?_isSome.mp (Option.isSome_of_eq_some last)
        have positive := List.length_pos_of_ne_nil some_left
        rw [St.length_dropCpus] at enough
        refine ⟨nVcpus, cpus, by omega, by rw [St.nextCpus_succ last], ?_⟩
        rw [St.dropCpus_dropCpus, Nat.add_comm 1]
      · rintro ⟨nVcpus, cpus, enough, rfl, rfl⟩
        have last := List.getLast?_eq_some_getLast
          (List.ne_nil_of_length_pos (show 0 < s.cpupool.length by omega))
        refine ⟨_, _, ⟨last, rfl⟩, nVcpus, _, ⟨cpus, rfl⟩, _, ⟨?_, rfl, ?_⟩, ?_⟩
        · rw [St.length_dropCpus]
          omega
        · rw [St.dropCpus_dropCpus, Nat.add_comm 1]
        · rw [St.nextCpus_succ last]

theorem fiveGCommands_ok {env : Env} {count : Nat} {base : VirtInstall}
    {cmds : VirtInstall × VirtInstall} {s s' : St} :
    fiveGCommands env count base s = .ok cmds s' ↔
      ∃ nVcpus vMemory vmName, env.cpusPerVm[count]? = some nVcpus ∧
        env.vmMemory[count]? = some vMemory ∧ env.workloadPerVm[count]? = some vmName ∧
        fiveGCost env nVcpus ≤ s.cpupool.length ∧
        ({ base with
            name := env.lower vmName
            memory := vMemory * 1024
            vcpus := nVcpus
            osType := false
            devices := (s.pools .nvme).reverse
            cpuset := some (fiveGCpuset env nVcpus s)
            hostPassthrough := true },
          { base.removeCd with
            name := Tile.lower .fiveG
            memory := vMemory * 1024
            vcpus := nVcpus
            hostPassthrough := true }) = cmds ∧
        ({ s with storagePt := [] } : St).drainNvme.dropCpus (fiveGCost env nVcpus) = s' := by
  simp only [fiveGCommands, bind_ok, fiveGCpus_ok, index_ok, modify_ok, get_ok, pure_ok]
  constructor
  · rintro ⟨_, _, ⟨nVcpus, cpus, enough, rfl, rfl⟩, vMemory, _, ⟨memory, rfl⟩, vmName, _,
      ⟨name, rfl⟩, _, _, rfl, _, _, ⟨rfl, rfl⟩, u, _, drained, _, _, ⟨rfl, rfl⟩, rfl, rfl⟩
    obtain rfl := attachNvme_ok.mp drained
    exact ⟨nVcpus, vMemory, vmName, cpus, memory, name, enough, rfl, rfl⟩
  · rintro ⟨nVcpus, vMemory, vmName, cpus, memory, name, enough, rfl, rfl⟩
    exact ⟨_, _, ⟨nVcpus, cpus, enough, rfl, rfl⟩, vMemory, _, ⟨memory, rfl⟩, vmName, _,
      ⟨name, rfl⟩, ⟨⟩, _, rfl, _, _, ⟨rfl, rfl⟩, (), _, attachNvme_ok.mpr rfl, _, _, ⟨rfl, rfl⟩,
      rfl, rfl⟩

/-- How many CPUs a VM pops. -/
def cpuCost (env : Env) (tile : Tile) (count : Nat) : Nat :=
  match tile with
  | .fiveG => fiveGCost env ((env.cpusPerVm[count]?).getD 0)
  | _ => 2

/-- The parallel lists have an entry for the VM. -/
def Listed (env : Env) (tile : Tile) (count : Nat) : Prop :=
  tile = .fiveG →
    count < env.cpusPerVm.length ∧ count < env.vmMemory.length ∧ count < env.workloadPerVm.length

/-- What a branch needs to come to its end. -/
structure TileReady (env : Env) (socket : Nat) (tile : Tile) (count : Nat) (s : St) : Prop where
  listed : Listed env tile count
  qat : tile = .qat → env.qatVfSocket socket ≠ none ∧ s.pools (.qat socket) ≠ []
  gpu : tile = .gpuInference → s.pools .gpu ≠ [] ∨ s.gpuPt ≠ none
  cpus : cpuCost env tile count ≤ s.cpupool.length

/-- The device lists and strings behind a branch. -/
def tilePops (socket : Nat) (tile : Tile) (s : St) : St :=
  match tile with
  | .qat => s.dropDevice (.qat socket)
  | .fiveG => ({ s with storagePt := [] } : St).drainNvme
  | .gpuInference => s.takeGpu
  | .fio => s.drainNvme
  | _ => s

/-- The `--host-device` options that a branch adds to the test command. -/
def tileDevices (socket : Nat) (tile : Tile) (s : St) : List Text :=
  match tile with
  | .qat => (s.pools (.qat socket)).getLast?.toList
  | .fiveG => (s.pools .nvme).reverse
  | .gpuInference => s.takeGpu.gpuPt.toList
  | .fio => s.drainNvme.storagePt
  | _ => []

theorem takeGpu_gpuPt_ne_none {s : St} :
    s.takeGpu.gpuPt ≠ none ↔ s.pools .gpu ≠ [] ∨ s.gpuPt ≠ none := by
  simp only [St.takeGpu, ne_eq, Option.or_eq_none_iff, List.getLast?_eq_none_iff]
  exact not_and_or

theorem tileCommands_ok {env : Env} {socket : Nat} {tile : Tile} {count tileNo : Nat}
    {network : List NetOption} {cmds : VirtInstall × VirtInstall} {s s' : St}
    (run : tileCommands env socket tile count tileNo network s = .ok cmds s') :
    TileReady env socket tile count s ∧ cmds.1.network = network ∧
      cmds.1.devices = tileDevices socket tile s ∧
      s' = (tilePops socket tile s).dropCpus (cpuCost env tile count) := by
  cases tile with
  | qat =>
      obtain ⟨dev, known, last, enough, rfl, rfl⟩ := qatCommands_ok.mp run
      have more := List.getLast?_isSome.mp (Option.isSome_of_eq_some last)
      exact ⟨⟨nofun, fun _ => ⟨known, more⟩, nofun, enough⟩, rfl, by simp [tileDevices, last], rfl⟩
  | cpuInference =>
      obtain ⟨enough, rfl, rfl⟩ := cpuInferenceCommands_ok.mp run
      exact ⟨⟨nofun, nofun, nofun, enough⟩, rfl, rfl, rfl⟩
  | fiveG =>
      obtain ⟨nVcpus, vMemory, vmName, cpus, memory, name, enough, rfl, rfl⟩ :=
        fiveGCommands_ok.mp run
      have cost : cpuCost env .fiveG count = fiveGCost env nVcpus := by simp [cpuCost, cpus]
      refine ⟨⟨fun _ => ⟨?_, ?_, ?_⟩, nofun, nofun, cost ▸ enough⟩, rfl, rfl, by rw [cost]; rfl⟩
      · exact (List.getElem?_eq_some_iff.mp cpus).1
      · exact (List.getElem?_eq_some_iff.mp memory).1
      · exact (List.getElem?_eq_some_iff.mp name).1
  | gpuInference =>
      obtain ⟨gpuPt, bound, enough, rfl, rfl⟩ := gpuInferenceCommands_ok.mp run
      have some_gpu := (takeGpu_gpuPt_ne_none (s := s)).mp (by simp [bound])
      exact ⟨⟨nofun, nofun, fun _ => some_gpu, enough⟩, rfl, by simp [tileDevices, bound], rfl⟩
  | fio =>
      obtain ⟨enough, rfl, rfl⟩ := fioCommands_ok.mp run
      exact ⟨⟨nofun, nofun, nofun, enough⟩, rfl, rfl, rfl⟩
  | iperf | mlc | redis | sgx | spdk | spec =>
      obtain ⟨enough, rfl, rfl⟩ := otherCommands_ok.mp run
      exact ⟨⟨nofun, nofun, nofun, enough⟩, rfl, rfl, rfl⟩

/-- What a test command says whatever the state was: its paths, and its name or, for a 5G VM, the
    entries of the lists. -/
structure TestCommand (env : Env) (tile : Tile) (count tileNo : Nat) (cmd : VirtInstall) : Prop where
  qcow2 : cmd.qcow2 = storedAt env (isoName tile tileNo) "qcow2".toList
  iso : cmd.iso = some
    (if tile = .cpuInference then storedAtRoot env (isoName tile tileNo) "iso".toList
     else storedAt env (isoName tile tileNo) "iso".toList)
  name : tile ≠ .fiveG → cmd.name = isoName tile tileNo
  entries : tile = .fiveG →
    (env.workloadPerVm[count]?).map env.lower = some cmd.name ∧
      env.cpusPerVm[count]? = some cmd.vcpus ∧ (env.vmMemory[count]?).map (· * 1024) = some cmd.memory

theorem tileCommands_testCommand {env : Env} {socket : Nat} {tile : Tile} {count tileNo : Nat}
    {network : List NetOption} {cmds : VirtInstall × VirtInstall} {s s' : St}
    (run : tileCommands env socket tile count tileNo network s = .ok cmds s') :
    TestCommand env tile count tileNo cmds.1 := by
  cases tile with
  | qat =>
      obtain ⟨_, -, -, -, rfl, -⟩ := qatCommands_ok.mp run
      exact ⟨rfl, rfl, fun _ => rfl, nofun⟩
  | cpuInference =>
      obtain ⟨-, rfl, -⟩ := cpuInferenceCommands_ok.mp run
      exact ⟨rfl, rfl, fun _ => rfl, nofun⟩
  | fiveG =>
      obtain ⟨nVcpus, vMemory, vmName, cpus, memory, name, -, rfl, -⟩ := fiveGCommands_ok.mp run
      exact ⟨rfl, rfl, fun other => absurd rfl other, fun _ => ⟨by simp [name], cpus, by simp [memory]⟩⟩
  | gpuInference =>
      obtain ⟨_, -, -, rfl, -⟩ := gpuInferenceCommands_ok.mp run
      exact ⟨rfl, rfl, fun _ => rfl, nofun⟩
  | fio =>
      obtain ⟨-, rfl, -⟩ := fioCommands_ok.mp run
      exact ⟨rfl, rfl, fun _ => rfl, nofun⟩
  | iperf | mlc | redis | sgx | spdk | spec =>
      obtain ⟨-, rfl, -⟩ := otherCommands_ok.mp run
      exact ⟨rfl, rfl, fun _ => rfl, nofun⟩

theorem tileCommands_of_ready {env : Env} {socket : Nat} {tile : Tile} {count : Nat} {s : St}
    (ready : TileReady env socket tile count s) (tileNo : Nat) (network : List NetOption) :
    ∃ cmds s', tileCommands env socket tile count tileNo network s = .ok cmds s' := by
  cases tile with
  | qat =>
      obtain ⟨known, more⟩ := ready.qat rfl
      exact ⟨_, _, qatCommands_ok.mpr
        ⟨_, known, List.getLast?_eq_some_getLast more, ready.cpus, rfl, rfl⟩⟩
  | cpuInference => exact ⟨_, _, cpuInferenceCommands_ok.mpr ⟨ready.cpus, rfl, rfl⟩⟩
  | fiveG =>
      obtain ⟨cpus, memory, name⟩ := ready.listed rfl
      have cpus := List.getElem?_eq_getElem cpus
      have enough := ready.cpus
      simp only [cpuCost, cpus, Option.getD_some] at enough
      exact ⟨_, _, fiveGCommands_ok.mpr ⟨_, _, _, cpus, List.getElem?_eq_getElem memory,
        List.getElem?_eq_getElem name, enough, rfl, rfl⟩⟩
  | gpuInference =>
      obtain ⟨gpuPt, bound⟩ := Option.ne_none_iff_exists'.mp (takeGpu_gpuPt_ne_none.mpr (ready.gpu rfl))
      exact ⟨_, _, gpuInferenceCommands_ok.mpr ⟨gpuPt, bound, ready.cpus, rfl, rfl⟩⟩
  | fio => exact ⟨_, _, fioCommands_ok.mpr ⟨ready.cpus, rfl, rfl⟩⟩
  | iperf | mlc | redis | sgx | spdk | spec =>
      exact ⟨_, _, otherCommands_ok.mpr ⟨ready.cpus, rfl, rfl⟩⟩

/-- The state behind the loop body, up to the commands that it records. -/
def vmPops (env : Env) (socket : Nat) (tile : Tile) (count : Nat) (s : St) : St :=
  let made := createIsoCentos env (isoName tile (s.execTasks tile)) (netPops env socket s)
  (tilePops socket tile made).dropCpus (cpuCost env tile count)

/-- What a VM leaves of a device list. -/
def poolAfter (env : Env) (socket : Nat) (tile : Tile) (pool : Pool) (devs : List Text) : List Text :=
  match pool with
  | .nic => if env.networking.pt = 1 then devs.dropLast else devs
  | .vf n =>
      if n = socket ∧ env.networking.srIov = 1 ∧ env.networking.pt ≠ 1 then devs.dropLast else devs
  | .qat n => if n = socket ∧ tile = .qat then devs.dropLast else devs
  | .gpu => if tile = .gpuInference then devs.dropLast else devs
  | .nvme => if tile = .fiveG ∨ tile = .fio then [] else devs

theorem netPops_pools (env : Env) (socket : Nat) (tile : Tile) (s : St) (pool : Pool) :
    (netPops env socket s).pools pool =
      match pool with
      | .nic | .vf _ => poolAfter env socket tile pool (s.pools pool)
      | _ => s.pools pool := by
  simp only [netPops]
  split_ifs with pt srIov
  · cases pool <;> simp [St.dropDevice, St.setPool, Function.update, poolAfter, pt]
  · cases pool with
    | vf n =>
        by_cases here : n = socket
        · simp [St.dropDevice, St.setPool, poolAfter, pt, srIov, here]
        · simp [St.dropDevice, St.setPool, Function.update, poolAfter, here]
    | _ => simp [St.dropDevice, St.setPool, poolAfter, pt]
  · cases pool <;> simp [poolAfter, pt, srIov]

theorem tilePops_pools (env : Env) (socket : Nat) (tile : Tile) (s : St) (pool : Pool) :
    (tilePops socket tile s).pools pool =
      match pool with
      | .nic | .vf _ => s.pools pool
      | _ => poolAfter env socket tile pool (s.pools pool) := by
  cases tile with
  | qat =>
      cases pool with
      | qat n =>
          by_cases here : n = socket
          · simp [tilePops, St.dropDevice, poolAfter, here]
          · simp [tilePops, St.dropDevice, St.setPool, Function.update, poolAfter, here]
      | _ => simp [tilePops, St.dropDevice, St.setPool, poolAfter]
  | gpuInference => cases pool <;> simp [tilePops, St.takeGpu, St.dropDevice, St.setPool, poolAfter]
  | fiveG | fio => cases pool <;> simp [tilePops, St.drainNvme, St.setPool, poolAfter]
  | _ => cases pool <;> simp [tilePops, poolAfter]

theorem vmPops_pools (env : Env) (socket : Nat) (tile : Tile) (count : Nat) (s : St) (pool : Pool) :
    (vmPops env socket tile count s).pools pool = poolAfter env socket tile pool (s.pools pool) := by
  change (tilePops socket tile
    (createIsoCentos env (isoName tile (s.execTasks tile)) (netPops env socket s))).pools pool = _
  rw [tilePops_pools env]
  change (match pool with
    | .nic | .vf _ => (netPops env socket s).pools pool
    | _ => poolAfter env socket tile pool ((netPops env socket s).pools pool)) = _
  rw [netPops_pools env socket tile]
  cases pool <;> rfl

@[simp] theorem vmPops_testCommands (env : Env) (socket : Nat) (tile : Tile) (count : Nat) (s : St) :
    (vmPops env socket tile count s).testCommands = s.testCommands := by
  cases tile <;> exact netPops_testCommands ..

theorem vmPops_cpupool (env : Env) (socket : Nat) (tile : Tile) (count : Nat) (s : St) :
    (vmPops env socket tile count s).cpupool = (s.dropCpus (cpuCost env tile count)).cpupool := by
  have same := netPops_cpupool env socket s
  cases tile <;> exact congrArg₂ List.take (by rw [← same]; rfl) same

theorem vmPops_storagePt (env : Env) (socket : Nat) (tile : Tile) (count : Nat) (s : St) :
    (vmPops env socket tile count s).storagePt =
      if tile = .fiveG ∨ tile = .fio then tileDevices socket tile (netPops env socket s)
      else s.storagePt := by
  cases tile with
  | fiveG => rfl
  | fio => rfl
  | _ => exact netPops_storagePt ..

theorem vmPops_gpuPt (env : Env) (socket : Nat) (tile : Tile) (count : Nat) (s : St) :
    (vmPops env socket tile count s).gpuPt =
      if tile = .gpuInference then (s.pools .gpu).getLast?.or s.gpuPt else s.gpuPt := by
  cases tile with
  | gpuInference =>
      change ((netPops env socket s).pools .gpu).getLast?.or (netPops env socket s).gpuPt = _
      rw [netPops_pools env socket .gpuInference, netPops_gpuPt]
      rfl
  | _ => exact netPops_gpuPt ..

theorem createVm_ok_iff {env : Env} {socket : Nat} {tile : Tile} {count : Nat} {u : Unit} {s s' : St} :
    createVm env socket tile count s = .ok u s' ↔
      NetReady env socket s ∧ ∃ cmds t,
        tileCommands env socket tile count (s.execTasks tile) (netOptions env socket s)
          (createIsoCentos env (isoName tile (s.execTasks tile)) (netPops env socket s)) = .ok cmds t ∧
        record tile (s.execTasks tile) cmds t = s' := by
  simp only [createVm, bind_ok, get_ok, networkCmd_ok, modify_ok]
  constructor
  · rintro ⟨_, _, ⟨rfl, rfl⟩, _, _, ⟨ready, rfl, rfl⟩, _, _, rfl, cmds, t, run, rfl⟩
    exact ⟨ready, cmds, t, run, rfl⟩
  · rintro ⟨ready, cmds, t, run, rfl⟩
    exact ⟨_, _, ⟨rfl, rfl⟩, _, _, ⟨ready, rfl, rfl⟩, ⟨⟩, _, rfl, cmds, t, run, rfl⟩

/-- A branch asks for nothing but CPUs, QAT devices and a GPU. -/
theorem TileReady.congr {env : Env} {socket : Nat} {tile : Tile} {count : Nat} {s t : St}
    (cpus : t.cpupool = s.cpupool) (qat : t.pools (.qat socket) = s.pools (.qat socket))
    (gpu : t.pools .gpu = s.pools .gpu) (gpuPt : t.gpuPt = s.gpuPt)
    (ready : TileReady env socket tile count s) : TileReady env socket tile count t where
  listed := ready.listed
  qat := qat ▸ ready.qat
  gpu := gpu ▸ gpuPt ▸ ready.gpu
  cpus := cpus ▸ ready.cpus

theorem tileReady_netPops {env : Env} {socket : Nat} {tile : Tile} {count : Nat} {s : St} {iso : Text} :
    TileReady env socket tile count (createIsoCentos env iso (netPops env socket s)) ↔
      TileReady env socket tile count s := by
  have cpus : (createIsoCentos env iso (netPops env socket s)).cpupool = s.cpupool :=
    netPops_cpupool env socket s
  have qat : (createIsoCentos env iso (netPops env socket s)).pools (.qat socket) =
      s.pools (.qat socket) := netPops_pools env socket tile s _
  have gpu : (createIsoCentos env iso (netPops env socket s)).pools .gpu = s.pools .gpu :=
    netPops_pools env socket tile s _
  have gpuPt : (createIsoCentos env iso (netPops env socket s)).gpuPt = s.gpuPt :=
    netPops_gpuPt env socket s
  exact ⟨.congr cpus.symm qat.symm gpu.symm gpuPt.symm, .congr cpus qat gpu gpuPt⟩

/-- What a VM that gets its commands needed, and what it leaves. -/
theorem createVm_ok {env : Env} {socket : Nat} {tile : Tile} {count : Nat} {u : Unit} {s s' : St}
    (run : createVm env socket tile count s = .ok u s') :
    NetReady env socket s ∧ TileReady env socket tile count s ∧ ∃ cmds,
      s' = record tile (s.execTasks tile) cmds (vmPops env socket tile count s) ∧
      cmds.1.network = netOptions env socket s ∧
      cmds.1.devices = tileDevices socket tile (netPops env socket s) := by
  obtain ⟨net, cmds, t, branch, rfl⟩ := createVm_ok_iff.mp run
  obtain ⟨ready, network, devices, rfl⟩ := tileCommands_ok branch
  refine ⟨net, tileReady_netPops.mp ready, cmds, rfl, network, devices.trans ?_⟩
  cases tile <;> rfl

theorem vmPops_created (env : Env) (socket : Nat) (tile : Tile) (count : Nat) (s : St) :
    (vmPops env socket tile count s).created =
      (createIsoCentos env (isoName tile (s.execTasks tile)) s).created := by
  have net : (createIsoCentos env (isoName tile (s.execTasks tile)) (netPops env socket s)).created =
      (createIsoCentos env (isoName tile (s.execTasks tile)) s).created := by rw [netPops_eq]; rfl
  cases tile <;> exact net

theorem vmPops_execTasks (env : Env) (socket : Nat) (tile : Tile) (count : Nat) (s : St) :
    (vmPops env socket tile count s).execTasks = s.execTasks := by
  have net : (netPops env socket s).execTasks = s.execTasks := by rw [netPops_eq]
  cases tile <;> exact net

/-- A VM adds one image and one test command, and the next VM of its tile has the next number. -/
theorem createVm_testCommand {env : Env} {socket : Nat} {tile : Tile} {count : Nat} {u : Unit}
    {s s' : St} (run : createVm env socket tile count s = .ok u s') :
    ∃ cmd, s'.testCommands = s.testCommands ++ [cmd] ∧
      s'.created = (createIsoCentos env (isoName tile (s.execTasks tile)) s).created ∧
      s'.execTasks = Function.update s.execTasks tile (s.execTasks tile + 1) ∧
      TestCommand env tile count (s.execTasks tile) cmd := by
  obtain ⟨-, cmds, t, branch, rfl⟩ := createVm_ok_iff.mp run
  have command := tileCommands_testCommand branch
  obtain ⟨-, -, -, rfl⟩ := tileCommands_ok branch
  have commands := vmPops_testCommands env socket tile count s
  refine ⟨cmds.1, congrArg (· ++ [cmds.1]) commands, vmPops_created env socket tile count s, ?_, command⟩
  change Function.update (vmPops env socket tile count s).execTasks tile _ = _
  rw [vmPops_execTasks]

theorem createVm_fiveG_ok {env : Env} {socket count : Nat} {u : Unit} {s s' : St}
    (run : createVm env socket .fiveG count s = .ok u s') :
    ∃ nVcpus vmName cmds, env.cpusPerVm[count]? = some nVcpus ∧
      env.workloadPerVm[count]? = some vmName ∧
      s' = record .fiveG (s.execTasks .fiveG) cmds (vmPops env socket .fiveG count s) ∧
      cmds.1.name = env.lower vmName ∧ cmds.1.vcpus = nVcpus ∧
      cmds.1.cpuset = some (fiveGCpuset env nVcpus s) := by
  obtain ⟨net, cmds, t, branch, rfl⟩ := createVm_ok_iff.mp run
  obtain ⟨-, -, -, rfl⟩ := tileCommands_ok branch
  obtain ⟨nVcpus, vMemory, vmName, cpus, -, name, -, rfl, -⟩ := fiveGCommands_ok.mp branch
  refine ⟨nVcpus, vmName, _, cpus, name, rfl, rfl, rfl, ?_⟩
  have pool : (createIsoCentos env (isoName .fiveG (s.execTasks .fiveG))
      (netPops env socket s)).cpupool = s.cpupool := netPops_cpupool env socket s
  simp only [fiveGCpuset, St.nextCpus, pool]

theorem createVm_of_ready {env : Env} {socket : Nat} {tile : Tile} {count : Nat} {s : St}
    (net : NetReady env socket s) (ready : TileReady env socket tile count s) :
    ∃ s', createVm env socket tile count s = .ok () s' := by
  obtain ⟨cmds, t, branch⟩ := tileCommands_of_ready
    (tileReady_netPops.mpr ready) (s.execTasks tile) (netOptions env socket s)
  exact ⟨_, createVm_ok_iff.mpr ⟨net, cmds, t, branch, rfl⟩⟩

end KvmWorkload.VmCloudInit
