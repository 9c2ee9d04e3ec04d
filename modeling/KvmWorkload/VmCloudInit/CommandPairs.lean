import KvmWorkload.Lib.Lists
import KvmWorkload.VmCloudInit.CreatedFiles

/-! # The two commands of a VM

Every branch of `generate_commands` writes two commands for its VM: one with
the cdrom disk, and one to start the VM again without it.  The popped CPUs get
into one of them only.  The number of CPUs is that of a QAT VM in every branch
but the one for 5G, whatever `--vcpus` says.
-/

namespace KvmWorkload.VmCloudInit

/-- The cdrom disk and the console options aside, the commands have the same options. -/
def SameVm (cmd cd : VirtInstall) : Prop := cmd.removeCd = cd.removeCd

theorem SameVm.cpuset {cmd cd : VirtInstall} (same : SameVm cmd cd) : cmd.cpuset = cd.cpuset := by
  have removed : cmd.removeCd.cpuset = cd.removeCd.cpuset := congrArg VirtInstall.cpuset same
  exact removed

/-- A `--cpuset` of popped CPUs has as many of them as `--vcpus` says. -/
def CpusetFits (cmd : VirtInstall) : Prop :=
  ∀ cpus, cmd.cpuset = some (.ids cpus) → (cpus.length : Int) = cmd.vcpus

/-- The two lists of a run agree. -/
def CommandsAgree (s : St) : Prop :=
  List.Forall₂ (fun cmd cd => SameVm cmd cd ∧ CpusetFits cmd ∧ CpusetFits cd)
    s.testCommands s.testCommandsRemoveCd

/-- What is left of a command for the comparison when the cpuset is left out, too. -/
def VirtInstall.unpinned (cmd : VirtInstall) : VirtInstall := { cmd.removeCd with cpuset := none }

/-- The branches that write the cpuset into the first command; the others write it into the second. -/
def Tile.pinsFirst : Tile → Bool
  | .qat => true
  | .cpuInference => true
  | .fiveG => true
  | .gpuInference => true
  | .fio => true
  | .iperf => false
  | .mlc => false
  | .redis => false
  | .sgx => false
  | .spdk => false
  | .spec => false

/-- The VM has as many vcpus as CPUs are popped for its cpuset. -/
def PinFits (env : Env) (tile : Tile) (count : Nat) : Prop :=
  match tile with
  | .fiveG => env.cpuAffinity = true → ∀ nVcpus, env.cpusPerVm[count]? = some nVcpus → 1 ≤ nVcpus
  | tile => (tileResource tile).vcpu = 2

structure PairOf (env : Env) (tile : Tile) (count : Nat) (cmds : VirtInstall × VirtInstall) : Prop where
  first : cmds.1.cpuset.isSome = tile.pinsFirst
  second : cmds.2.cpuset.isSome = !tile.pinsFirst
  fits : CpusetFits cmds.1 ∧ CpusetFits cmds.2 ↔ PinFits env tile count
  rest : tile ≠ .cpuInference → tile ≠ .fiveG → cmds.1.unpinned = cmds.2.unpinned

theorem PairOf.not_sameVm {env : Env} {tile : Tile} {count : Nat} {cmds : VirtInstall × VirtInstall}
    (pair : PairOf env tile count cmds) : ¬ SameVm cmds.1 cmds.2 := by
  intro same
  have cpuset := congrArg Option.isSome same.cpuset
  rw [pair.first, pair.second] at cpuset
  cases pins : tile.pinsFirst with
  | true => simp [pins] at cpuset
  | false => simp [pins] at cpuset

theorem St.length_nextCpus {s : St} {n : Nat} (enough : n ≤ s.cpupool.length) : (s.nextCpus n).length = n := by
  simp [St.nextCpus, enough]

theorem cpusetFits_of_none {cmd : VirtInstall} (free : cmd.cpuset = none) : CpusetFits cmd := by
  intro cpus pinned
  rw [free] at pinned
  cases pinned

theorem cpusetFits_next_iff {cmd : VirtInstall} {s : St} {n : Nat} (enough : n ≤ s.cpupool.length)
    (pinned : cmd.cpuset = some (.ids (s.nextCpus n))) : CpusetFits cmd ↔ (n : Int) = cmd.vcpus := by
  constructor
  · intro fits
    have length := fits _ pinned
    rwa [St.length_nextCpus enough] at length
  · intro same cpus pinned'
    rw [pinned] at pinned'
    cases pinned'
    rw [St.length_nextCpus enough, same]

/-- The two CPUs of a branch that does not ask how many vcpus the VM has. -/
theorem cpusetFits_two_iff {cmd other : VirtInstall} {s : St} {vcpu : Nat} (enough : 2 ≤ s.cpupool.length)
    (pinned : cmd.cpuset = some (.ids (s.nextCpus 2))) (free : other.cpuset = none)
    (vcpus : cmd.vcpus = vcpu) : CpusetFits cmd ∧ CpusetFits other ↔ vcpu = 2 := by
  rw [cpusetFits_next_iff enough pinned, and_iff_left (cpusetFits_of_none free), vcpus]
  omega

theorem cpusetFits_fiveG_iff {env : Env} {count : Nat} {cmd other : VirtInstall} {s : St} {nVcpus : Int}
    (enough : fiveGCost env nVcpus ≤ s.cpupool.length)
    (pinned : cmd.cpuset = some (fiveGCpuset env nVcpus s)) (free : other.cpuset = none)
    (vcpus : cmd.vcpus = nVcpus) (listed : env.cpusPerVm[count]? = some nVcpus) :
    CpusetFits cmd ∧ CpusetFits other ↔ PinFits env .fiveG count := by
  rw [and_iff_left (cpusetFits_of_none free)]
  unfold PinFits
  dsimp only
  cases affinity : env.cpuAffinity with
  | true =>
      simp only [fiveGCost, affinity, if_true] at enough
      simp only [fiveGCpuset, affinity, if_true] at pinned
      rw [cpusetFits_next_iff enough pinned, vcpus, listed]
      constructor
      · intro same _ n is
        cases is
        omega
      · intro positive
        have := positive rfl nVcpus rfl
        omega
  | false =>
      simp only [fiveGCpuset, affinity] at pinned
      constructor
      · intro _ pins
        cases pins
      · intro _ cpus ids
        rw [pinned] at ids
        cases ids

theorem tileCommands_pair {env : Env} {socket : Nat} {tile : Tile} {count tileNo : Nat}
    {network : List NetOption} {cmds : VirtInstall × VirtInstall} {s s' : St}
    (run : tileCommands env socket tile count tileNo network s = .ok cmds s') :
    PairOf env tile count cmds := by
  cases tile with
  | qat =>
      obtain ⟨dev, -, -, enough, rfl, -⟩ := qatCommands_ok.mp run
      exact ⟨rfl, rfl, cpusetFits_two_iff enough rfl rfl rfl, fun _ _ => rfl⟩
  | cpuInference =>
      obtain ⟨enough, rfl, -⟩ := cpuInferenceCommands_ok.mp run
      exact ⟨rfl, rfl, cpusetFits_two_iff enough rfl rfl rfl, fun other => absurd rfl other⟩
  | fiveG =>
      obtain ⟨nVcpus, vMemory, vmName, cpus, -, -, enough, rfl, -⟩ := fiveGCommands_ok.mp run
      exact ⟨rfl, rfl, cpusetFits_fiveG_iff enough rfl rfl rfl cpus, fun _ other => absurd rfl other⟩
  | gpuInference =>
      obtain ⟨gpuPt, -, enough, rfl, -⟩ := gpuInferenceCommands_ok.mp run
      exact ⟨rfl, rfl, cpusetFits_two_iff enough rfl rfl rfl, fun _ _ => rfl⟩
  | fio =>
      obtain ⟨enough, rfl, -⟩ := fioCommands_ok.mp run
      exact ⟨rfl, rfl, cpusetFits_two_iff enough rfl rfl rfl, fun _ _ => rfl⟩
  | iperf | mlc | redis | sgx | spdk | spec =>
      -- here the second command is the pinned one
      obtain ⟨enough, rfl, -⟩ := otherCommands_ok.mp run
      exact ⟨rfl, rfl, and_comm.trans (cpusetFits_two_iff enough rfl rfl rfl), fun _ _ => rfl⟩

theorem createVm_pair {env : Env} {socket : Nat} {tile : Tile} {count : Nat} {u : Unit} {s s' : St}
    (run : createVm env socket tile count s = .ok u s') :
    ∃ cmds, s'.testCommands = s.testCommands ++ [cmds.1] ∧
      s'.testCommandsRemoveCd = s.testCommandsRemoveCd ++ [cmds.2] ∧ PairOf env tile count cmds := by
  obtain ⟨-, cmds, t, branch, rfl⟩ := createVm_ok_iff.mp run
  have pair := tileCommands_pair branch
  obtain ⟨-, -, -, rfl⟩ := tileCommands_ok branch
  have commands := vmPops_testCommands env socket tile count s
  have commandsCd : (vmPops env socket tile count s).testCommandsRemoveCd = s.testCommandsRemoveCd := by
    have net : (netPops env socket s).testCommandsRemoveCd = s.testCommandsRemoveCd := by rw [netPops_eq]
    cases tile <;> exact net
  exact ⟨cmds, congrArg (· ++ [cmds.1]) commands, congrArg (· ++ [cmds.2]) commandsCd, pair⟩

/-- The commands are made in step, one of each list for every VM. -/
structure Paired (env : Env) (vms : List (Tile × Nat)) (s : St) : Prop where
  lengths : s.testCommands.length = s.testCommandsRemoveCd.length
  pairs : List.Forall₂ (fun vm cmds => PairOf env vm.1 vm.2 cmds) vms
    (s.testCommands.zip s.testCommandsRemoveCd)

theorem paired_invariant (env : Env) : RunInvariant env (Paired env) where
  enter := by
    intro done socket pool s before _
    rw [enter_eq]
    exact ⟨before.lengths, before.pairs⟩
  step := by
    intro done socket tile count s s' before run
    obtain ⟨cmds, commands, commandsCd, pair⟩ := createVm_pair run
    constructor
    · simp [commands, commandsCd, before.lengths]
    · rw [commands, commandsCd]
      exact forall₂_zip_concat before.lengths before.pairs pair

theorem paired_of_run {env : Env} {s' : St} (run : generateCommands env = .ok () s') :
    Paired env (allServed env) s' :=
  (paired_invariant env).generateCommands ⟨rfl, .nil⟩ run

theorem cpusetsFit_iff {env : Env} {s' : St} (run : generateCommands env = .ok () s') :
    (∀ cmds ∈ s'.testCommands.zip s'.testCommandsRemoveCd, CpusetFits cmds.1 ∧ CpusetFits cmds.2) ↔
      ∀ vm ∈ allServed env, PinFits env vm.1 vm.2 := by
  have each := (paired_of_run run).pairs.imp fun vm cmds pair => pair.fits.symm
  exact (forall_mem_iff_of_forall₂ each).symm

theorem unpinned_of_run {env : Env} {s' : St} (run : generateCommands env = .ok () s')
    (plain : ∀ vm ∈ allServed env, vm.1 ≠ .cpuInference ∧ vm.1 ≠ .fiveG) :
    s'.testCommands.map VirtInstall.unpinned = s'.testCommandsRemoveCd.map VirtInstall.unpinned := by
  have paired := paired_of_run run
  rw [← List.forall₂_eq_eq_eq, List.forall₂_map_left_iff, List.forall₂_map_right_iff,
    List.forall₂_iff_zip]
  refine ⟨paired.lengths, ?_⟩
  intro cmd cd member
  obtain ⟨vm, served, pair⟩ := forall₂_exists_left paired.pairs member
  exact pair.rest (plain vm served).1 (plain vm served).2

/-- The two lists agree only when they are empty. -/
theorem commandsAgree_iff {env : Env} {s' : St} (run : generateCommands env = .ok () s') :
    CommandsAgree s' ↔ allServed env = [] := by
  have paired := paired_of_run run
  unfold CommandsAgree
  rw [List.forall₂_iff_zip, and_iff_right paired.lengths]
  constructor
  · intro agree
    by_contra some_vm
    obtain ⟨vm, served⟩ := List.exists_mem_of_ne_nil _ some_vm
    obtain ⟨cmds, member, pair⟩ := forall₂_exists_right paired.pairs served
    exact pair.not_sameVm (agree member).1
  · intro none cmd cd member
    have pairs := paired.pairs
    rw [none, List.forall₂_nil_left_iff] at pairs
    rw [pairs] at member
    cases member

theorem noVms_agree : ∃ s', generateCommands (Env.oneSocket 4 fun _ => some 0) = .ok () s' ∧
    CommandsAgree s' := by
  obtain ⟨s', run⟩ : ∃ s', generateCommands (Env.oneSocket 4 fun _ => some 0) = .ok () s' :=
    exists_ok_of_isSome (by decide +kernel)
  exact ⟨s', run, (commandsAgree_iff run).mpr (by decide +kernel)⟩

/-- The first command of a REDIS VM is not pinned, the second one is pinned to CPUs 3 and 2. -/
theorem soleVm_redis_not_agree : ∃ s', generateCommands (soleVm .redis) = .ok () s' ∧
    ¬ CommandsAgree s' := by
  have cpusets : (finalState (generateCommands (soleVm .redis))).map (fun s =>
      (s.testCommands.map VirtInstall.cpuset, s.testCommandsRemoveCd.map VirtInstall.cpuset)) =
        some ([none], [some (.ids [3, 2])]) := by
    decide +kernel
  obtain ⟨s', run, seen⟩ := exists_ok_of_view cpusets
  refine ⟨s', run, ?_⟩
  intro agree
  have first : s'.testCommands.map VirtInstall.cpuset = [none] := congrArg Prod.fst seen
  have second : s'.testCommandsRemoveCd.map VirtInstall.cpuset = [some (.ids [3, 2])] :=
    congrArg Prod.snd seen
  have same : s'.testCommands.map VirtInstall.cpuset = s'.testCommandsRemoveCd.map VirtInstall.cpuset := by
    rw [← List.forall₂_eq_eq_eq, List.forall₂_map_left_iff, List.forall₂_map_right_iff]
    exact agree.imp fun cmd cd pair => pair.1.cpuset
  rw [first, second] at same
  cases same

end KvmWorkload.VmCloudInit
