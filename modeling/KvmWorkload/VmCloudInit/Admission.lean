import KvmWorkload.Lib.Lists
import KvmWorkload.VmCloudInit.Needs
import KvmWorkload.VmCloudInit.Stops

/-! # Admission and completion

`is_vm_available` counts VMs.  A run makes a VM's image before it asks for most
of what the VM needs.  This module says exactly which requests are served in
full, which are refused before the first image, and which leave images behind.
-/

namespace KvmWorkload.VmCloudInit

def images (s : St) : Nat := s.created.length

theorem images_createIsoCentos (env : Env) (iso : Text) (s : St) :
    images (createIsoCentos env iso s) = images s + 1 := List.length_append

theorem images_output {s t : St} (same : t.output = s.output) : images t = images s :=
  congrArg List.length (created_of_output same)

theorem createVm_images {env : Env} {socket : Nat} {s : St} (net : NetReady env socket s)
    (tile : Tile) (count : Nat) :
    images (stateAfter (createVm env socket tile count) s) = images s + 1 := by
  rw [stateAfter]
  cases run : createVm env socket tile count s with
  | ok u t =>
      obtain ⟨cmd, -, created, -⟩ := createVm_testCommand run
      exact (congrArg List.length created).trans (images_createIsoCentos ..)
  | error e t =>
      rcases createVm_stopped run with ⟨refused, -⟩ | ⟨-, same⟩
      · exact absurd net refused
      · exact (images_output same).trans (images_createIsoCentos ..)

theorem createVm_refused {env : Env} {socket : Nat} {s : St} (refused : ¬ NetReady env socket s)
    (tile : Tile) (count : Nat) :
    ∃ e s', createVm env socket tile count s = .error e s' ∧ s'.created = s.created := by
  cases run : createVm env socket tile count s with
  | ok u t => exact absurd (createVm_ok run).1 refused
  | error e t =>
      rcases createVm_stopped run with ⟨-, same⟩ | ⟨ready, -⟩
      · exact ⟨e, t, rfl, created_of_output same⟩
      · exact absurd ready refused

theorem createVm_grows (env : Env) (socket : Nat) (tile : Tile) (count : Nat) :
    Grows images (createVm env socket tile count) := by
  intro s
  by_cases net : NetReady env socket s
  · rw [createVm_images net]
    exact Nat.le_succ _
  · obtain ⟨e, t, run, same⟩ := createVm_refused net tile count
    rw [stateAfter, run, images, images, same]

theorem serve_grows (env : Env) (socket : Nat) (vms : List (Tile × Nat)) :
    Grows images (serve env socket vms) :=
  .forM (fun _ => createVm_grows _ _ _ _) vms

theorem visit_grows (env : Env) (socket : Nat) (tiles : Tiles) : Grows images (visit env socket tiles) := by
  intro s
  have step := serve_grows env socket (served env socket tiles)
  rw [stateAfter, visit_eq]
  cases getCpuPool env socket with
  | error e => exact Nat.le_refl _
  | ok pool =>
      have entered : images s = images (enter env socket pool s) := by
        rw [enter_eq]
        rfl
      rw [entered]
      exact step _

/-- The networking part stops at a socket's first VM. -/
def NetRefuses (env : Env) (socket : Nat) : Prop :=
  env.networking.srIov = 1 ∧ (env.networking.pt = 1 ∨ env.pools (.vf socket) = [])

/-- The run stops before it makes an image: at a socket whose CPUs cannot be listed, or at the
    networking of the first VM. -/
inductive Refused (env : Env) : List (Nat × Tiles) → Prop where
  | unreadable {entry rest} : ¬ Readable env entry.1 → Refused env (entry :: rest)
  | network {entry rest} : served env entry.1 entry.2 ≠ [] → NetRefuses env entry.1 →
      Refused env (entry :: rest)
  | idle {entry rest} : Readable env entry.1 → served env entry.1 entry.2 = [] → Refused env rest →
      Refused env (entry :: rest)

theorem netReady_enter_iff {env : Env} {socket : Nat} {s : St}
    (ports : (s.pools (.vf socket)).Perm (env.pools (.vf socket))) (cpus : List Nat) :
    NetReady env socket (enter env socket cpus s) ↔ ¬ NetRefuses env socket := by
  have same := (enter_pools_perm env socket cpus s (.vf socket)).trans ports
  have empty : (enter env socket cpus s).pools (.vf socket) = [] ↔ env.pools (.vf socket) = [] := by
    rw [← List.length_eq_zero_iff, same.length_eq, List.length_eq_zero_iff]
  rw [NetReady, NetRefuses, ne_eq, ne_eq, empty]
  tauto

section Refusal

variable {env : Env} {entry : Nat × Tiles} {s : St}

theorem visit_unreadable (unreadable : ¬ Readable env entry.1) :
    visit env entry.1 entry.2 s = .error .indexError s := by
  rw [visit_eq, getCpuPool_of_not_readable unreadable]

theorem visit_first {vm : Tile × Nat} {vms : List (Tile × Nat)} (readable : Readable env entry.1)
    (some_vm : served env entry.1 entry.2 = vm :: vms) (none : s.created = [])
    (ports : (s.pools (.vf entry.1)).Perm (env.pools (.vf entry.1))) :
    (NetRefuses env entry.1 →
      ∃ e s', visit env entry.1 entry.2 s = .error e s' ∧ s'.created = []) ∧
      (¬ NetRefuses env entry.1 → 0 < images (stateAfter (visit env entry.1 entry.2) s)) := by
  obtain ⟨pool, listing, -⟩ := getCpuPool_of_readable readable
  have started : visit env entry.1 entry.2 s =
      serve env entry.1 (vm :: vms) (enter env entry.1 pool s) := by
    rw [visit_eq, listing, some_vm]
  have ready := netReady_enter_iff ports pool
  constructor
  · intro refuses
    obtain ⟨e, s', stops, same⟩ :=
      createVm_refused (fun net => ready.mp net refuses) vm.1 vm.2
    refine ⟨e, s', started.trans (bind_of_error stops), ?_⟩
    rw [same, enter_eq]
    exact none
  · intro accepts
    have made := createVm_images (ready.mpr accepts) vm.1 vm.2
    rw [stateAfter, started]
    refine Nat.lt_of_lt_of_le ?_ (Grows.after_bind (fun _ => serve_grows env entry.1 vms) _)
    rw [made]
    exact Nat.succ_pos _

end Refusal

theorem sockets_refused_iff {env : Env} {sockets : List (Nat × Tiles)} {s : St}
    (none : s.created = []) (ports : ∀ socket, (s.pools (.vf socket)).Perm (env.pools (.vf socket))) :
    (∃ e s', sockets.forM (fun entry => visit env entry.1 entry.2) s = .error e s' ∧ s'.created = []) ↔
      Refused env sockets := by
  induction sockets generalizing s with
  | nil => exact iff_of_false (by rintro ⟨e, s', stops, -⟩; cases stops) nofun
  | cons entry sockets ih =>
      by_cases readable : Readable env entry.1
      · cases vms : served env entry.1 entry.2 with
        | nil =>
            obtain ⟨cpus, run⟩ := visit_idle readable vms s
            have later := ih (s := enter env entry.1 cpus s) (by rw [enter_eq]; exact none)
              fun socket => (enter_pools_perm ..).trans (ports socket)
            have skips : (entry :: sockets).forM (fun entry => visit env entry.1 entry.2) s =
                sockets.forM (fun entry => visit env entry.1 entry.2) (enter env entry.1 cpus s) :=
              bind_of_ok run
            rw [skips, later]
            refine ⟨.idle readable vms, fun refused => ?_⟩
            cases refused with
            | unreadable unreadable => exact absurd readable unreadable
            | network some_vm _ => exact absurd vms some_vm
            | idle _ _ rest => exact rest
        | cons vm more =>
            obtain ⟨refused, served⟩ := visit_first readable vms none (ports entry.1)
            by_cases refuses : NetRefuses env entry.1
            · obtain ⟨e, s', stops, empty⟩ := refused refuses
              exact iff_of_true ⟨e, s', bind_of_error stops, empty⟩ (.network (by simp [vms]) refuses)
            · refine iff_of_false ?_ ?_
              · rintro ⟨e, s', stops, empty⟩
                have kept : 0 < images (stateAfter
                    ((entry :: sockets).forM fun entry => visit env entry.1 entry.2) s) :=
                  Nat.lt_of_lt_of_le (served refuses) (Grows.after_bind
                    (fun _ => .forM (fun _ => visit_grows _ _ _) sockets) _)
                rw [stateAfter, stops, images, empty] at kept
                exact Nat.lt_irrefl 0 kept
              · intro refused
                cases refused with
                | unreadable unreadable => exact unreadable readable
                | network _ net => exact refuses net
                | idle _ nothing _ => simp [vms] at nothing
      · exact iff_of_true ⟨_, _, bind_of_error (visit_unreadable readable), none⟩ (.unreadable readable)

/-- The VMs requested on sockets that exist. -/
def requestedVms (env : Env) : Nat :=
  ((env.tileMap.filter fun entry => entry.1 < env.numSockets).map fun entry =>
    (requests entry.2).length).sum

/-- The run returns a test command for every VM requested on a socket that exists. -/
def Completes (env : Env) : Prop :=
  ∃ s', generateCommands env = .ok () s' ∧ s'.testCommands.length = requestedVms env

/-- The run fails before the first image is made. -/
def FailsClean (env : Env) : Prop :=
  ∃ e s', generateCommands env = .error e s' ∧ s'.created = []

/-- No socket with requests is passed over: none stands behind one that does not exist, and none is
    without virtual ports under SR-IOV. -/
def Covered (env : Env) : Prop :=
  ∀ entry ∈ env.tileMap, entry.1 < env.numSockets → requests entry.2 ≠ [] →
    entry ∈ visited env ∧ ¬ Skipped env entry.1

/-- The sockets that exist but stand behind one that does not. -/
def cutOff (env : Env) : List (Nat × Tiles) :=
  (env.sortedSockets.dropWhile fun entry => entry.1 < env.numSockets).filter fun entry =>
    entry.1 < env.numSockets

theorem visited_append_cutOff_perm (env : Env) :
    (visited env ++ cutOff env).Perm (env.tileMap.filter fun entry => entry.1 < env.numSockets) := by
  have split : env.sortedSockets.filter (fun entry => entry.1 < env.numSockets) =
      visited env ++ cutOff env := by
    conv_lhs => rw [← List.takeWhile_append_dropWhile
      (p := fun entry : Nat × Tiles => decide (entry.1 < env.numSockets)) (l := env.sortedSockets)]
    rw [List.filter_append, List.filter_eq_self.mpr (List.all_eq_true.mp List.all_takeWhile)]
    rfl
  rw [← split]
  exact (List.perm_insertionSort _ env.tileMap).filter _

theorem length_allServed_eq_iff_forall (env : Env) :
    (allServed env).length = requestedVms env ↔
      (∀ entry ∈ visited env, (served env entry.1 entry.2).length = (requests entry.2).length) ∧
        ∀ entry ∈ cutOff env, 0 = (requests entry.2).length := by
  have total : requestedVms env = ((visited env).map fun entry => (requests entry.2).length).sum +
      ((cutOff env).map fun entry => (requests entry.2).length).sum := by
    rw [requestedVms, ← ((visited_append_cutOff_perm env).map _).sum_eq, List.map_append, List.sum_append]
  have below : ∀ entry ∈ visited env,
      (served env entry.1 entry.2).length ≤ (requests entry.2).length := by
    intro entry _
    rw [served]
    split_ifs <;> simp
  obtain ⟨le, eq⟩ := sum_map_eq_iff below
  obtain ⟨-, none⟩ := sum_map_eq_iff fun entry (_ : entry ∈ cutOff env) =>
    Nat.zero_le (requests entry.2).length
  have zero : ((cutOff env).map fun _ => 0).sum = 0 := by simp
  rw [allServed, List.length_flatMap, total, ← eq, ← none, zero]
  omega

theorem length_allServed_eq_iff (env : Env) :
    (allServed env).length = requestedVms env ↔ Covered env := by
  have perm := visited_append_cutOff_perm env
  have distinct : ((visited env ++ cutOff env).map Prod.fst).Nodup :=
    (perm.map Prod.fst).nodup_iff.mpr (env.distinctSockets.sublist (List.filter_sublist.map _))
  rw [length_allServed_eq_iff_forall]
  constructor
  · rintro ⟨full, nothing⟩ entry member inRange some_vm
    have found : entry ∈ visited env ++ cutOff env :=
      perm.mem_iff.mpr (List.mem_filter.mpr ⟨member, by simpa using inRange⟩)
    rcases List.mem_append.mp found with inside | late
    · refine ⟨inside, fun skipped => some_vm ?_⟩
      have none := full entry inside
      rw [served, if_pos skipped] at none
      exact List.length_eq_zero_iff.mp none.symm
    · exact absurd (List.length_eq_zero_iff.mp (nothing entry late).symm) some_vm
  · intro covered
    have reached : ∀ entry ∈ visited env ++ cutOff env, requests entry.2 ≠ [] →
        entry ∈ visited env ∧ ¬ Skipped env entry.1 := by
      intro entry member some_vm
      obtain ⟨inMap, inRange⟩ := List.mem_filter.mp (perm.mem_iff.mp member)
      exact covered entry inMap (by simpa using inRange) some_vm
    constructor
    · intro entry inside
      rw [served]
      split_ifs with skipped
      · by_contra some_vm
        exact (reached entry (List.mem_append_left _ inside) fun none => some_vm (by simp [none])).2 skipped
      · rfl
    · intro entry late
      by_contra some_vm
      have inside := (reached entry (List.mem_append_right _ late) fun none => some_vm (by simp [none])).1
      rw [List.map_append] at distinct
      exact List.disjoint_of_nodup_append distinct (List.mem_map_of_mem inside) (List.mem_map_of_mem late)

/-- For a request that is admitted, all VMs get their commands or no image is made, exactly when the
    host has what the VMs need and no socket is passed over, or the run is refused at once. -/
theorem admitted_completes_or_failsClean_iff (env : Env) :
    (isVmAvailable env = true → Completes env ∨ FailsClean env) ↔
      (isVmAvailable env = true → (Provided env ∧ Covered env) ∨ Refused env (visited env)) := by
  have completes : Completes env ↔ Provided env ∧ Covered env := by
    rw [← generateCommands_returns_iff, ← length_allServed_eq_iff]
    constructor
    · rintro ⟨s', run, all⟩
      exact ⟨⟨s', run⟩, (length_testCommands run).symm.trans all⟩
    · rintro ⟨⟨s', run⟩, all⟩
      exact ⟨s', run, (length_testCommands run).trans all⟩
  have failsClean : FailsClean env ↔ Refused env (visited env) := by
    rw [FailsClean, generateCommands_eq]
    exact sockets_refused_iff rfl fun _ => .refl _
  rw [completes, failsClean]

/-- A host with four CPUs that is asked for three REDIS VMs. -/
def threeRedisHost : Env := Env.oneSocket 4 fun tile => if tile = .redis then some 3 else some 0

/-- The third VM is admitted and gets an image, but finds no CPU. -/
theorem threeRedis_leaves_images :
    isVmAvailable threeRedisHost = true ∧ ¬ (Completes threeRedisHost ∨ FailsClean threeRedisHost) := by
  have stops : (finalState (generateCommands threeRedisHost)).isNone = true := by decide +kernel
  have left : images (stateAfter (socketLoop threeRedisHost threeRedisHost.sortedSockets)
      (start threeRedisHost)) = 3 := by decide +kernel
  refine ⟨by decide +kernel, ?_⟩
  rintro (⟨s', run, -⟩ | ⟨e, s', run, empty⟩)
  · rw [run] at stops
    cases stops
  · rw [generateCommands] at run
    rw [stateAfter, run, images, empty] at left
    cases left

end KvmWorkload.VmCloudInit
