import KvmWorkload.VmCloudInit.Runs

/-! # Runs that stop

An exception ends the run where it is raised, and the images made so far stay.
Only two places of the loop body write what a run leaves behind: the call of
`create_iso_centos` and the end of the body.  So a VM that stops leaves nothing,
or its image.
-/

namespace KvmWorkload.VmCloudInit

/-- The state without the lists that VMs take from. -/
def St.output (s : St) : St := { s with pools := fun _ => [], storagePt := [], gpuPt := none, cpupool := [] }

theorem created_of_output {s t : St} (same : t.output = s.output) : t.created = s.created := by
  have created : t.output.created = s.output.created := congrArg St.created same
  exact created

section Keeps

variable {α : Type}

theorem pop_keeps (pool : Pool) : Keeps St.output (pop pool) := by
  intro s
  simp only [stateAfter, pop]
  cases (s.pools pool).getLast? <;> rfl

theorem tryPop_keeps (pool : Pool) : Keeps St.output (tryPop pool) := by
  intro s
  simp only [stateAfter, tryPop, pop]
  cases (s.pools pool).getLast? <;> rfl

theorem popCpu_keeps : Keeps St.output popCpu := by
  intro s
  simp only [stateAfter, popCpu]
  cases s.cpupool.getLast? <;> rfl

theorem popCpus_keeps (n : Nat) : Keeps St.output (popCpus n) := by
  induction n with
  | zero => exact .pure _
  | succ n ih => exact popCpu_keeps.bind fun _ => ih.bind fun _ => .pure _

theorem popTileCpus_keeps : Keeps St.output popTileCpus := (popCpus_keeps _).map

theorem index_keeps (list : List α) (i : Nat) : Keeps St.output (index list i) := by
  rw [index]
  cases list[i]? with
  | none => exact .throw _
  | some x => exact .pure _

theorem attachNvme_keeps (n : Nat) : Keeps St.output (attachNvme n) := by
  induction n with
  | zero => exact .pure _
  | succ n ih => exact (pop_keeps _).bind fun _ => Keeps.bind (.modify fun _ => rfl) fun _ => ih

theorem fiveGCpus_keeps (env : Env) (count : Nat) : Keeps St.output (fiveGCpus env count) := by
  refine popCpu_keeps.bind fun _ => (index_keeps _ _).bind fun _ => ?_
  split
  · exact (popCpus_keeps _).map
  · exact .pure _

theorem popQat_keeps (env : Env) (socket : Nat) : Keeps St.output (popQat env socket) := by
  intro s
  simp only [stateAfter, popQat]
  cases env.qatVfSocket socket with
  | none => rfl
  | some vfs =>
      by_cases empty : s.pools (.qat socket) = []
      · simp [empty]
      · simpa [stateAfter, empty] using pop_keeps (.qat socket) s

theorem readGpuPt_keeps : Keeps St.output readGpuPt := by
  intro s
  simp only [stateAfter, readGpuPt]
  cases s.gpuPt <;> rfl

theorem tileCommands_keeps (env : Env) (socket : Nat) (tile : Tile) (count tileNo : Nat)
    (network : List NetOption) : Keeps St.output (tileCommands env socket tile count tileNo network) := by
  cases tile with
  | qat => exact (popQat_keeps _ _).bind fun _ => popTileCpus_keeps.bind fun _ => .pure _
  | cpuInference => exact popTileCpus_keeps.bind fun _ => .pure _
  | fiveG =>
      exact (fiveGCpus_keeps _ _).bind fun _ => (index_keeps _ _).bind fun _ =>
        (index_keeps _ _).bind fun _ => Keeps.bind (.modify fun _ => rfl) fun _ =>
        Keeps.get.bind fun _ => (attachNvme_keeps _).bind fun _ => Keeps.get.bind fun _ => .pure _
  | gpuInference =>
      exact (tryPop_keeps _).bind fun _ => Keeps.bind (.modify fun _ => rfl) fun _ =>
        popTileCpus_keeps.bind fun _ => readGpuPt_keeps.bind fun _ => .pure _
  | fio =>
      exact Keeps.get.bind fun _ => (attachNvme_keeps _).bind fun _ => popTileCpus_keeps.bind fun _ =>
        Keeps.get.bind fun _ => .pure _
  | iperf | mlc | redis | sgx | spdk | spec => exact popTileCpus_keeps.bind fun _ => .pure _

theorem networkCmd_keeps (env : Env) (socket : Nat) : Keeps St.output (networkCmd env socket) := by
  have nic : Keeps St.output (takeNic env) := by
    rw [takeNic]
    split
    · exact tryPop_keeps _
    · exact .pure _
  have port : Keeps St.output (takePort env socket) := by
    rw [takePort]
    split_ifs
    · exact .throw _
    · exact (pop_keeps _).map
    · exact .pure _
  exact nic.bind fun _ => port.bind fun _ => .pure _

end Keeps

/-- The image of the next VM of a tile. -/
def St.withImage (env : Env) (tile : Tile) (s : St) : St :=
  createIsoCentos env (isoName tile (s.execTasks tile)) s

theorem createVm_stopped {env : Env} {socket : Nat} {tile : Tile} {count : Nat} {e : PyError} {s t : St}
    (run : createVm env socket tile count s = .error e t) :
    ¬ NetReady env socket s ∧ t.output = s.output ∨
      NetReady env socket s ∧ t.output = (s.withImage env tile).output := by
  let commands := fun network => tileCommands env socket tile count (s.execTasks tile) network >>=
    fun cmds => modify (record tile (s.execTasks tile) cmds)
  change (networkCmd env socket >>= fun network =>
    modify (createIsoCentos env (isoName tile (s.execTasks tile))) >>= fun _ => commands network) s =
      .error e t at run
  cases network : networkCmd env socket s with
  | error e' t' =>
      rw [bind_of_error network] at run
      cases run
      refine .inl ⟨?_, (networkCmd_keeps env socket).error network⟩
      intro ready
      have returns := networkCmd_ok.mpr (⟨ready, rfl, rfl⟩ : NetReady env socket s ∧ _ ∧ _)
      rw [returns] at network
      cases network
  | ok options t' =>
      obtain ⟨ready, -, rfl⟩ := networkCmd_ok.mp network
      rw [bind_of_ok network] at run
      change commands options (createIsoCentos env _ (netPops env socket s)) = _ at run
      cases branch : tileCommands env socket tile count (s.execTasks tile) options
          (createIsoCentos env (isoName tile (s.execTasks tile)) (netPops env socket s)) with
      | ok cmds t'' =>
          have returns : commands options _ = .ok _ (record tile (s.execTasks tile) cmds t'') :=
            bind_of_ok branch
          rw [returns] at run
          cases run
      | error e' t'' =>
          have stops : commands options _ = .error e' t'' := bind_of_error branch
          rw [stops] at run
          cases run
          have keeps := tileCommands_keeps env socket tile count (s.execTasks tile) options
          refine .inr ⟨ready, (keeps.error branch).trans ?_⟩
          rw [netPops_eq]
          rfl

/-- What a run leaves, whichever way it ends. -/
def endState (env : Env) : St := stateAfter (socketLoop env env.sortedSockets) (start env)

theorem endState_of_ok {env : Env} {s : St} (run : generateCommands env = .ok () s) : endState env = s := by
  rw [generateCommands] at run
  rw [endState, stateAfter, run]

/-- `Inv` holds between two VMs, and `E` when the run ends or stops: between two VMs, or behind the
    image of the next one. -/
structure StopInvariant (env : Env) (Inv E : St → Prop) : Prop where
  enter : ∀ {socket pool s}, Inv s → getCpuPool env socket = .ok pool → Inv (enter env socket pool s)
  step : ∀ {socket tile count s s'}, Inv s → createVm env socket tile count s = .ok () s' → Inv s'
  stop : ∀ {s t}, Inv s → t.output = s.output → E t
  stopImage : ∀ {tile s t}, Inv s → t.output = (s.withImage env tile).output → E t

theorem StopInvariant.createVm {env : Env} {Inv E : St → Prop} (invariant : StopInvariant env Inv E)
    (socket : Nat) (tile : Tile) (count : Nat) :
    Triple Inv (VmCloudInit.createVm env socket tile count) (fun _ => Inv) E := by
  intro s start
  cases run : VmCloudInit.createVm env socket tile count s with
  | ok u s' => exact invariant.step start run
  | error e t =>
      rcases createVm_stopped run with ⟨-, same⟩ | ⟨-, same⟩
      · exact invariant.stop start same
      · exact invariant.stopImage start same

theorem StopInvariant.visit {env : Env} {Inv E : St → Prop} (invariant : StopInvariant env Inv E)
    (socket : Nat) (tiles : Tiles) :
    Triple Inv (VmCloudInit.visit env socket tiles) (fun _ => Inv) E := by
  intro s start
  rw [visit_eq]
  cases pool : getCpuPool env socket with
  | error e => exact invariant.stop start rfl
  | ok cpus =>
      have serves : Triple Inv (serve env socket (served env socket tiles)) (fun _ => Inv) E := by
        unfold serve
        apply Triple.forM
        intro vm
        exact invariant.createVm socket vm.1 vm.2
      exact serves _ (invariant.enter start pool)

theorem StopInvariant.endState {env : Env} {Inv E : St → Prop} (invariant : StopInvariant env Inv E)
    (start : Inv (start env)) : E (endState env) := by
  have loop : Triple Inv (socketLoop env env.sortedSockets) (fun _ => Inv) E := by
    rw [socketLoop_eq]
    apply Triple.forM
    intro entry
    exact invariant.visit entry.1 entry.2
  have ends : ∀ s, Inv s → E s := fun s holds => invariant.stop holds rfl
  exact (loop.consequence (fun _ => id) (fun _ => ends) (fun _ => id)).stateAfter start

end KvmWorkload.VmCloudInit
