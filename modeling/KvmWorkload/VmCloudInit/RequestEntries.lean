import KvmWorkload.Lib.Lists
import KvmWorkload.VmCloudInit.Needs

/-! # Which VM an entry of the lists is used for

`CPUS_PER_VM`, `WORKLOAD_PER_VM` and `vm_memory` are indexed by `count`, which
starts at 0 again on every socket, while `EXEC_TASKS` numbers the VMs of a tile
over all sockets.  So the entries go to 5G VMs one to one only when a single
socket asks for all of them.
-/

namespace KvmWorkload.VmCloudInit

/-- The command has the name, the CPUs and the memory of entry `j`. -/
structure MadeFrom (env : Env) (j : Nat) (cmd : VirtInstall) : Prop where
  name : (env.workloadPerVm[j]?).map env.lower = some cmd.name
  cpus : env.cpusPerVm[j]? = some cmd.vcpus
  memory : (env.vmMemory[j]?).map (· * 1024) = some cmd.memory

/-- A 5G VM is made from an entry of the lists; any other is called after its tile. -/
def CommandOf (env : Env) (tileNo : Nat) (vm : Tile × Nat) (cmd : VirtInstall) : Prop :=
  if vm.1 = .fiveG then MadeFrom env vm.2 cmd else cmd.name = isoName vm.1 tileNo

theorem commandOf_testCommand {env : Env} {tile : Tile} {count tileNo : Nat} {cmd : VirtInstall}
    (command : TestCommand env tile count tileNo cmd) : CommandOf env tileNo (tile, count) cmd := by
  unfold CommandOf
  split_ifs with isFiveG
  · obtain ⟨name, cpus, memory⟩ := command.entries isFiveG
    exact ⟨name, cpus, memory⟩
  · exact command.name isFiveG

/-- The VMs of a tile are numbered from 1 in the order in which they are made, and every VM has the
    command of its number. -/
structure Emitted (env : Env) (vms : List (Tile × Nat)) (s : St) : Prop where
  numbers : ∀ tile, s.execTasks tile = tileCount tile vms + 1
  length : s.testCommands.length = vms.length
  commands : ∀ k vm, vms[k]? = some vm →
    ∃ cmd, s.testCommands[k]? = some cmd ∧ CommandOf env (tileCount vm.1 (vms.take k) + 1) vm cmd

theorem emitted_invariant (env : Env) : RunInvariant env (Emitted env) where
  enter := by
    intro done socket pool s before _
    rw [enter_eq]
    exact ⟨before.numbers, before.length, before.commands⟩
  step := by
    intro done socket tile count s s' before run
    obtain ⟨cmd, commands, -, tasks, command⟩ := createVm_testCommand run
    constructor
    · intro other
      rw [tasks, tileCount_append, tileCount_cons]
      by_cases same : tile = other
      · subst same
        simp [before.numbers, tileCount]
      · simp [Function.update_of_ne (Ne.symm same), before.numbers, tileCount, same]
    · simp [commands, before.length]
    · intro k vm found
      rw [commands]
      by_cases earlier : k < done.length
      · rw [List.getElem?_append_left earlier] at found
        rw [List.getElem?_append_left (before.length ▸ earlier),
          List.take_append_of_le_length (Nat.le_of_lt earlier)]
        exact before.commands k vm found
      · have last : k = done.length := by
          have bound := (List.getElem?_eq_some_iff.mp found).1
          rw [List.length_append, List.length_singleton] at bound
          omega
        subst last
        rw [List.getElem?_concat_length] at found
        cases found
        refine ⟨cmd, ?_, ?_⟩
        · rw [← before.length, List.getElem?_concat_length]
        · rw [List.take_left, ← before.numbers]
          exact commandOf_testCommand command

theorem emitted_of_run {env : Env} {s' : St} (run : generateCommands env = .ok () s') :
    Emitted env (allServed env) s' := by
  apply (emitted_invariant env).generateCommands _ run
  exact ⟨fun tile => rfl, rfl, by simp⟩

section Names

variable {env : Env} {vms : List (Tile × Nat)} {s : St}

/-- The names that the entries give to 5G VMs. -/
def givenNames (env : Env) : List Text := env.workloadPerVm.map env.lower

theorem MadeFrom.givenName {j : Nat} {cmd : VirtInstall} (made : MadeFrom env j cmd) :
    (givenNames env)[j]? = some cmd.name := by
  rw [givenNames, List.getElem?_map]
  exact made.name

theorem Emitted.madeFrom (emitted : Emitted env vms s) {k j : Nat}
    (found : vms[k]? = some (.fiveG, j)) : ∃ cmd, s.testCommands[k]? = some cmd ∧ MadeFrom env j cmd := by
  obtain ⟨cmd, command, made⟩ := emitted.commands k _ found
  exact ⟨cmd, command, by simpa [CommandOf] using made⟩

theorem Emitted.fiveG_name (emitted : Emitted env vms s) {k j : Nat}
    (found : vms[k]? = some (.fiveG, j)) :
    (s.testCommands.map VirtInstall.name)[k]? = (givenNames env)[j]? := by
  obtain ⟨cmd, command, made⟩ := emitted.madeFrom found
  rw [List.getElem?_map, command, made.givenName]
  rfl

theorem Emitted.tile_name (emitted : Emitted env vms s) {k count : Nat} {tile : Tile}
    (found : vms[k]? = some (tile, count)) (other : tile ≠ .fiveG) :
    (s.testCommands.map VirtInstall.name)[k]? =
      some (isoName tile (tileCount tile (vms.take k) + 1)) := by
  obtain ⟨cmd, command, made⟩ := emitted.commands k _ found
  have named : cmd.name = isoName tile (tileCount tile (vms.take k) + 1) := by
    simpa [CommandOf, other] using made
  rw [List.getElem?_map, command, ← named]
  rfl

theorem tileCount_take_succ_le {tile : Tile} {p q count : Nat} (found : vms[p]? = some (tile, count))
    (order : p < q) : tileCount tile (vms.take p) + 1 ≤ tileCount tile (vms.take q) := by
  have extended : vms.take (p + 1) = vms.take p ++ [(tile, count)] := by
    rw [List.take_add_one, found]
    rfl
  have more : tileCount tile (vms.take (p + 1)) = tileCount tile (vms.take p) + 1 := by
    rw [extended, tileCount_append]
    simp [tileCount]
  rw [← more]
  exact ((List.take_sublist_take_left order).map Prod.fst).count_le tile

theorem exists_numbered {tile : Tile} {n : Nat} (bound : n < tileCount tile vms) :
    ∃ k count, vms[k]? = some (tile, count) ∧ tileCount tile (vms.take k) = n := by
  induction vms generalizing n with
  | nil => exact absurd bound (Nat.not_lt_zero n)
  | cons vm vms ih =>
      obtain ⟨other, count⟩ := vm
      rw [tileCount_cons] at bound
      by_cases same : other = tile
      · subst same
        cases n with
        | zero => exact ⟨0, count, rfl, rfl⟩
        | succ n =>
            rw [if_pos rfl] at bound
            obtain ⟨k, c, found, number⟩ := ih (Nat.lt_of_succ_lt_succ bound)
            refine ⟨k + 1, c, found, ?_⟩
            rw [List.take_succ_cons, tileCount_cons, if_pos rfl, number]
      · rw [if_neg same] at bound
        obtain ⟨k, c, found, number⟩ := ih bound
        refine ⟨k + 1, c, found, ?_⟩
        rw [List.take_succ_cons, tileCount_cons, if_neg same, number, Nat.add_zero]

/-- No 5G VM is given the name of another tile's VM. -/
def NamesApart (env : Env) (vms : List (Tile × Nat)) : Prop :=
  ∀ name ∈ givenNames env, ∀ tile, tile ≠ .fiveG → ∀ n < tileCount tile vms,
    isoName tile (n + 1) ≠ name

theorem Emitted.entry_lt (emitted : Emitted env vms s) {k j : Nat}
    (found : vms[k]? = some (.fiveG, j)) : j < (givenNames env).length := by
  obtain ⟨cmd, -, made⟩ := emitted.madeFrom found
  exact (List.getElem?_eq_some_iff.mp made.givenName).1

theorem Emitted.position_lt (emitted : Emitted env vms s) {k : Nat} {vm : Tile × Nat}
    (found : vms[k]? = some vm) : k < (s.testCommands.map VirtInstall.name).length := by
  rw [List.length_map, emitted.length]
  exact (List.getElem?_eq_some_iff.mp found).1

theorem Emitted.same_vm (emitted : Emitted env vms s)
    (nodup : (s.testCommands.map VirtInstall.name).Nodup) {p q : Nat} {vm vm' : Tile × Nat}
    (atP : vms[p]? = some vm) (atQ : vms[q]? = some vm')
    (same : (s.testCommands.map VirtInstall.name)[p]? = (s.testCommands.map VirtInstall.name)[q]?) :
    vm = vm' := by
  obtain rfl : p = q := (List.getElem?_inj (emitted.position_lt atP) nodup).mp same
  exact Option.some.inj (atP.symm.trans atQ)

theorem Emitted.fiveG_name_ne (emitted : Emitted env vms s) (apart : NamesApart env vms)
    {p q j count : Nat} {tile : Tile} (atP : vms[p]? = some (.fiveG, j))
    (atQ : vms[q]? = some (tile, count)) (other : tile ≠ .fiveG) :
    (s.testCommands.map VirtInstall.name)[p]? ≠ (s.testCommands.map VirtInstall.name)[q]? := by
  rw [emitted.fiveG_name atP, emitted.tile_name atQ other]
  intro same
  have bound := tileCount_take_succ_le atQ (List.getElem?_eq_some_iff.mp atQ).1
  rw [List.take_length] at bound
  exact apart _ (List.mem_of_getElem? same) tile other _ bound rfl

theorem Emitted.name_ne (emitted : Emitted env vms s)
    (once : ∀ j < (givenNames env).length, ∃! k : Nat, vms[k]? = some (.fiveG, j))
    (nodup : (givenNames env).Nodup) (apart : NamesApart env vms) {p q : Nat} (order : p < q)
    {vm vm' : Tile × Nat} (atP : vms[p]? = some vm) (atQ : vms[q]? = some vm') :
    (s.testCommands.map VirtInstall.name)[p]? ≠ (s.testCommands.map VirtInstall.name)[q]? := by
  obtain ⟨tile, i⟩ := vm
  obtain ⟨tile', j⟩ := vm'
  by_cases isFiveG : tile = .fiveG
  · subst isFiveG
    by_cases isFiveG' : tile' = .fiveG
    · subst isFiveG'
      rw [emitted.fiveG_name atP, emitted.fiveG_name atQ]
      intro same
      obtain rfl : i = j := (List.getElem?_inj (emitted.entry_lt atP) nodup).mp same
      exact absurd ((once i (emitted.entry_lt atP)).unique atP atQ) (Nat.ne_of_lt order)
    · exact emitted.fiveG_name_ne apart atP atQ isFiveG'
  · by_cases isFiveG' : tile' = .fiveG
    · subst isFiveG'
      exact (emitted.fiveG_name_ne apart atQ atP isFiveG).symm
    · rw [emitted.tile_name atP isFiveG, emitted.tile_name atQ isFiveG']
      intro same
      obtain ⟨rfl, number⟩ := isoName_injective (Option.some.inj same)
      have more := tileCount_take_succ_le atP order
      omega

/-- When every entry has exactly one VM, the names of the commands differ exactly when the given
    names do, also from those of the other tiles. -/
theorem Emitted.names_nodup_iff (emitted : Emitted env vms s)
    (once : ∀ j < (givenNames env).length, ∃! k : Nat, vms[k]? = some (.fiveG, j)) :
    (s.testCommands.map VirtInstall.name).Nodup ↔ (givenNames env).Nodup ∧ NamesApart env vms := by
  constructor
  · intro nodup
    constructor
    · apply List.nodup_iff_getElem?_ne_getElem?.mpr
      intro i j order bound same
      obtain ⟨p, atP, -⟩ := once i (Nat.lt_trans order bound)
      obtain ⟨q, atQ, -⟩ := once j bound
      rw [← emitted.fiveG_name atP, ← emitted.fiveG_name atQ] at same
      have entries := congrArg Prod.snd (emitted.same_vm nodup atP atQ same)
      exact absurd entries (Nat.ne_of_lt order)
    · intro name member tile other n bound same
      obtain ⟨j, atJ⟩ := List.mem_iff_getElem?.mp member
      obtain ⟨p, atP, -⟩ := once j (List.getElem?_eq_some_iff.mp atJ).1
      obtain ⟨q, count, atQ, number⟩ := exists_numbered bound
      have nameP := emitted.fiveG_name atP
      have nameQ := emitted.tile_name atQ other
      rw [number, same, ← atJ, ← nameP] at nameQ
      exact other (congrArg Prod.fst (emitted.same_vm nodup atQ atP nameQ))
  · intro ⟨nodup, apart⟩
    apply List.nodup_iff_getElem?_ne_getElem?.mpr
    intro p q order bound
    rw [List.length_map, emitted.length] at bound
    have atP := List.getElem?_eq_getElem (Nat.lt_trans order bound)
    have atQ := List.getElem?_eq_getElem bound
    exact emitted.name_ne once nodup apart order atP atQ

end Names

def fiveGCount (tiles : Tiles) : Nat := ((tiles .fiveG).getD 0).toNat

/-- How many 5G VMs `Tile_Map` asks for. -/
def fiveGTotal (env : Env) : Nat := (env.tileMap.map fun entry => fiveGCount entry.2).sum

def fiveGServed (env : Env) (entry : Nat × Tiles) : Nat :=
  if Skipped env entry.1 then 0 else fiveGCount entry.2

theorem count_requests (tiles : Tiles) (j : Nat) :
    (requests tiles).count (.fiveG, j) = if j < fiveGCount tiles then 1 else 0 := by
  have others : ∀ (tile : Tile) (n : Nat), tile ≠ .fiveG →
      ((List.range n).map (Prod.mk tile)).count (.fiveG, j) = 0 := by
    intro tile n other
    apply List.count_eq_zero.mpr
    simp [other]
  have own : ((List.range (fiveGCount tiles)).map (Prod.mk Tile.fiveG)).count (.fiveG, j) =
      if j < fiveGCount tiles then 1 else 0 := by
    rw [(List.nodup_range.map (Prod.mk_right_injective _)).count]
    simp
  unfold requests Tile.sorted
  simp only [List.flatMap_cons, List.flatMap_nil, List.count_append, List.append_nil, others, ne_eq,
    reduceCtorEq, not_false_eq_true, Nat.add_zero]
  exact own

theorem count_served (env : Env) (entry : Nat × Tiles) (j : Nat) :
    (served env entry.1 entry.2).count (.fiveG, j) = if j < fiveGServed env entry then 1 else 0 := by
  unfold served fiveGServed
  by_cases skipped : Skipped env entry.1
  · simp [skipped]
  · simp only [if_neg skipped, count_requests]

theorem count_allServed (env : Env) (j : Nat) :
    (allServed env).count (.fiveG, j) = (visited env).countP fun entry => j < fiveGServed env entry := by
  unfold allServed
  induction visited env with
  | nil => rfl
  | cons entry sockets ih =>
      rw [List.flatMap_cons, List.count_append, List.countP_cons, ih, count_served, Nat.add_comm]
      simp

theorem sum_fiveGServed_le (env : Env) :
    ((visited env).map (fiveGServed env)).sum ≤ fiveGTotal env := by
  have all : (env.sortedSockets.map fun entry => fiveGCount entry.2).sum = fiveGTotal env :=
    ((List.perm_insertionSort _ env.tileMap).map _).sum_eq
  rw [← all]
  calc ((visited env).map (fiveGServed env)).sum
      ≤ ((visited env).map fun entry => fiveGCount entry.2).sum := by
        apply List.sum_le_sum
        intro entry _
        unfold fiveGServed
        split_ifs
        · exact Nat.zero_le _
        · exact Nat.le_refl _
    _ ≤ (env.sortedSockets.map fun entry => fiveGCount entry.2).sum :=
        ((List.takeWhile_sublist _).map _).sum_le_sum fun _ _ => Nat.zero_le _

/-- Every entry is used for exactly one of the VMs, and no two commands have one name. -/
structure EntriesOnce (env : Env) (s : St) : Prop where
  once : ∀ j < fiveGTotal env, ∃! k : Nat,
    (allServed env)[k]? = some (.fiveG, j) ∧ ∃ cmd, s.testCommands[k]? = some cmd ∧ MadeFrom env j cmd
  names : (s.testCommands.map VirtInstall.name).Nodup

/-- One socket asks for all 5G VMs, it is visited, and the names given to them are new. -/
structure SoleRequester (env : Env) : Prop where
  socket : fiveGTotal env = 0 ∨
    ∃ entry ∈ visited env, ¬ Skipped env entry.1 ∧ fiveGCount entry.2 = fiveGTotal env
  names : (givenNames env).Nodup
  apart : NamesApart env (allServed env)

theorem exists_fiveGServed_iff (env : Env) :
    (fiveGTotal env = 0 ∨ ∃ entry ∈ visited env, fiveGServed env entry = fiveGTotal env) ↔
      fiveGTotal env = 0 ∨
        ∃ entry ∈ visited env, ¬ Skipped env entry.1 ∧ fiveGCount entry.2 = fiveGTotal env := by
  by_cases none : fiveGTotal env = 0
  · simp [none]
  · have whole : ∀ entry, fiveGServed env entry = fiveGTotal env ↔
        ¬ Skipped env entry.1 ∧ fiveGCount entry.2 = fiveGTotal env := by
      intro entry
      unfold fiveGServed
      split_ifs with skipped
      · simp [skipped, Ne.symm none]
      · simp [skipped]
    simp [none, whole]

theorem once_iff {env : Env} {s : St} (emitted : Emitted env (allServed env) s) :
    (∀ j < fiveGTotal env, ∃! k : Nat, (allServed env)[k]? = some (.fiveG, j) ∧
        ∃ cmd, s.testCommands[k]? = some cmd ∧ MadeFrom env j cmd) ↔
      ∀ j < fiveGTotal env, ∃! k : Nat, (allServed env)[k]? = some (.fiveG, j) := by
  apply forall₂_congr
  intro j _
  apply existsUnique_congr
  intro k
  exact and_iff_left_of_imp emitted.madeFrom

theorem served_once_iff (env : Env) :
    (∀ j < fiveGTotal env, ∃! k : Nat, (allServed env)[k]? = some (.fiveG, j)) ↔
      fiveGTotal env = 0 ∨
        ∃ entry ∈ visited env, ¬ Skipped env entry.1 ∧ fiveGCount entry.2 = fiveGTotal env := by
  rw [← exists_fiveGServed_iff, ← countP_lt_eq_one_iff (sum_fiveGServed_le env)]
  simp only [existsUnique_getElem?_iff, count_allServed]

/-- With as many entries as 5G VMs are asked for, a run returns and uses every entry for exactly one
    VM, all under different names, exactly when the host has what the requests need and a single
    socket asks for the 5G VMs, with names that are new. -/
theorem entriesOnce_iff {env : Env} (listed : env.workloadPerVm.length = fiveGTotal env) :
    (∃ s', generateCommands env = .ok () s' ∧ EntriesOnce env s') ↔
      Provided env ∧ SoleRequester env := by
  have given : (givenNames env).length = fiveGTotal env := by rw [← listed, givenNames, List.length_map]
  constructor
  · intro ⟨s', run, once, names⟩
    have emitted := emitted_of_run run
    have served := (once_iff emitted).mp once
    obtain ⟨nodup, apart⟩ := (emitted.names_nodup_iff (given ▸ served)).mp names
    exact ⟨generateCommands_returns_iff.mp ⟨s', run⟩, (served_once_iff env).mp served, nodup, apart⟩
  · intro ⟨provided, socket, nodup, apart⟩
    obtain ⟨s', run⟩ := generateCommands_returns_iff.mpr provided
    have emitted := emitted_of_run run
    have served := (served_once_iff env).mpr socket
    have names := (emitted.names_nodup_iff (given ▸ served)).mpr ⟨nodup, apart⟩
    exact ⟨s', run, (once_iff emitted).mpr served, names⟩

/-- A host with entries for two 5G VMs, both on socket 0. -/
def pairOnOne : Env :=
  { Env.oneSocket 4 (fiveGTiles 2) with
    cpusPerVm := [1, 1]
    workloadPerVm := ["memcache".toList, "mlc".toList]
    vmMemory := [8, 8] }

/-- The same entries with one VM on each of two sockets. -/
def pairOnTwo : Env :=
  { pairOnOne with
    tileMap := [(0, fiveGTiles 1), (1, fiveGTiles 1)]
    distinctSockets := List.nodup_range (n := 2)
    numSockets := 2
    numactl := fun socket => some (List.range' (4 * socket) 4) }

theorem pairOnOne_returns : ∃ s', generateCommands pairOnOne = .ok () s' :=
  exists_ok_of_isSome (by decide +kernel)

theorem pairOnOne_soleRequester : SoleRequester pairOnOne where
  socket := .inr ⟨(0, fiveGTiles 2), by simp [visited, Env.sortedSockets, pairOnOne, Env.oneSocket],
    by decide +kernel, by decide +kernel⟩
  names := by decide +kernel
  apart := by
    intro name _ tile other n bound
    have none : tileCount tile (allServed pairOnOne) = 0 := by
      cases tile with
      | fiveG => exact absurd rfl other
      | _ => decide +kernel
    omega

theorem entriesOnce_pairOnOne : ∃ s', generateCommands pairOnOne = .ok () s' ∧ EntriesOnce pairOnOne s' :=
  (entriesOnce_iff rfl).mpr
    ⟨generateCommands_returns_iff.mp pairOnOne_returns, pairOnOne_soleRequester⟩

/-- Both VMs are made from entry 0 and called `memcache`. -/
theorem pairOnTwo_not_entriesOnce :
    pairOnTwo.cpusPerVm.length = fiveGTotal pairOnTwo ∧
      pairOnTwo.workloadPerVm.length = fiveGTotal pairOnTwo ∧
      pairOnTwo.vmMemory.length = fiveGTotal pairOnTwo ∧ pairOnTwo.workloadPerVm.Nodup ∧
      ∃ s', generateCommands pairOnTwo = .ok () s' ∧ ¬ EntriesOnce pairOnTwo s' := by
  refine ⟨by decide +kernel, by decide +kernel, by decide +kernel, by decide +kernel, ?_⟩
  have names : (finalState (generateCommands pairOnTwo)).map
      (fun s => s.testCommands.map VirtInstall.name) =
        some ["memcache".toList, "memcache".toList] := by decide +kernel
  obtain ⟨s', run, names⟩ := exists_ok_of_view names
  refine ⟨s', run, ?_⟩
  intro ⟨_, nodup⟩
  rw [names] at nodup
  simp at nodup

end KvmWorkload.VmCloudInit
