import KvmWorkload.VmCloudInit.Discovery
import KvmWorkload.VmCloudInit.Passthrough

/-! # What a VM is given is on its socket

A VM is made while its socket is visited.  Its CPUs are popped from the pool of
that socket, and its virtual functions from the lists that the scans have made
for it.  Only the devices of the configuration file are given without regard to
the socket, and so is the range of an unpinned VM, which is always of node 0.
-/

namespace KvmWorkload.VmCloudInit

/-- The strings and lists of a run hold devices of the lists that it started with. -/
structure Drawn (env : Env) (s : St) : Prop where
  pools : ∀ pool, s.pools pool ⊆ env.pools pool
  storage : s.storagePt ⊆ env.ptNvme
  gpu : ∀ dev ∈ s.gpuPt, dev ∈ env.ptGpu

theorem drawn_start (env : Env) : Drawn env (start env) := ⟨fun _ => List.Subset.refl _, nofun, nofun⟩

/-- What the command of a VM on a socket names. -/
structure Sited (env : Env) (socket : Nat) (cmd : VirtInstall) : Prop where
  cpus : cmd.cpuset = none ∨ cmd.cpuset = some (.range env.node0Range) ∨
    ∃ cpus, cmd.cpuset = some (.ids cpus) ∧ cpus ⊆ (env.numactl socket).getD []
  devices : ∀ dev ∈ cmd.hostDevices, ∃ pool, (∀ n, pool = .vf n ∨ pool = .qat n → n = socket) ∧ dev ∈ env.pools pool

theorem Drawn.tileDevices {env : Env} {s : St} (drawn : Drawn env s) {socket : Nat} {tile : Tile} {dev : Text}
    (given : dev ∈ tileDevices socket tile s) :
    ∃ pool, (∀ n, pool = .vf n ∨ pool = .qat n → n = socket) ∧ dev ∈ env.pools pool := by
  cases tile with
  | qat =>
      have last := List.mem_of_getLast? (Option.mem_toList.mp given)
      exact ⟨.qat socket, by simp, drawn.pools _ last⟩
  | fiveG => exact ⟨.nvme, by simp, drawn.pools _ (List.mem_reverse.mp given)⟩
  | fio =>
      refine ⟨.nvme, by simp, ?_⟩
      rcases List.mem_append.mp given with kept | fresh
      · exact drawn.storage kept
      · exact drawn.pools _ (List.mem_reverse.mp fresh)
  | gpuInference =>
      refine ⟨.gpu, by simp, ?_⟩
      rcases Option.or_eq_some_iff.mp (Option.mem_toList.mp given) with last | ⟨-, kept⟩
      · exact drawn.pools _ (List.mem_of_getLast? last)
      · exact drawn.gpu dev kept
  | _ => cases given

theorem Drawn.netPops {env : Env} {s : St} (drawn : Drawn env s) (socket : Nat) :
    Drawn env (netPops env socket s) where
  pools pool := by
    rw [netPops_pools env socket .spec]
    cases pool with
    | nic | vf => exact List.Subset.trans (poolAfter_isPrefix ..).subset (drawn.pools _)
    | gpu | nvme | qat => exact drawn.pools _
  storage := by
    rw [netPops_storagePt]
    exact drawn.storage
  gpu := by
    rw [netPops_gpuPt]
    exact drawn.gpu

theorem Drawn.enter {env : Env} {s : St} (drawn : Drawn env s) (socket : Nat) (cpus : List Nat) :
    Drawn env (enter env socket cpus s) := by
  have perm := enter_pools_perm env socket cpus s
  rw [enter_eq]
  exact ⟨fun pool => List.Subset.trans (perm pool).subset (drawn.pools pool), drawn.storage, drawn.gpu⟩

theorem Drawn.vmPops {env : Env} {s : St} (drawn : Drawn env s) (socket : Nat) (tile : Tile) (count : Nat) :
    Drawn env (vmPops env socket tile count s) where
  pools pool := by
    rw [vmPops_pools]
    exact List.Subset.trans (poolAfter_isPrefix ..).subset (drawn.pools pool)
  storage := by
    rw [vmPops_storagePt]
    split_ifs with drains
    · have nvme := (drawn.netPops socket).pools .nvme
      rcases drains with rfl | rfl
      · exact fun dev given => nvme (List.mem_reverse.mp given)
      · exact List.append_subset.mpr ⟨(drawn.netPops socket).storage, fun dev given => nvme (List.mem_reverse.mp given)⟩
    · exact drawn.storage
  gpu := by
    intro dev kept
    rw [vmPops_gpuPt] at kept
    split_ifs at kept
    · rcases Option.or_eq_some_iff.mp kept with last | ⟨-, kept⟩
      · exact drawn.pools .gpu (List.mem_of_getLast? last)
      · exact drawn.gpu dev kept
    · exact drawn.gpu dev kept

theorem tileCommands_cpuset {env : Env} {socket : Nat} {tile : Tile} {count tileNo : Nat}
    {network : List NetOption} {cmds : VirtInstall × VirtInstall} {s s' : St}
    (run : tileCommands env socket tile count tileNo network s = .ok cmds s') :
    cmds.1.cpuset = none ∨ cmds.1.cpuset = some (.range env.node0Range) ∨
      ∃ n, cmds.1.cpuset = some (.ids (s.nextCpus n)) := by
  cases tile with
  | qat =>
      obtain ⟨_, -, -, -, rfl, -⟩ := qatCommands_ok.mp run
      exact .inr (.inr ⟨2, rfl⟩)
  | cpuInference =>
      obtain ⟨-, rfl, -⟩ := cpuInferenceCommands_ok.mp run
      exact .inr (.inr ⟨2, rfl⟩)
  | fiveG =>
      obtain ⟨nVcpus, _, _, -, -, -, -, rfl, -⟩ := fiveGCommands_ok.mp run
      cases pinned : env.cpuAffinity with
      | false => exact .inr (.inl (by simp [fiveGCpuset, pinned]))
      | true =>
          refine .inr (.inr ⟨1 + (nVcpus - 1).toNat, ?_⟩)
          simp only [fiveGCpuset, pinned, if_true]
  | gpuInference =>
      obtain ⟨_, -, -, rfl, -⟩ := gpuInferenceCommands_ok.mp run
      exact .inr (.inr ⟨2, rfl⟩)
  | fio =>
      obtain ⟨-, rfl, -⟩ := fioCommands_ok.mp run
      exact .inr (.inr ⟨2, rfl⟩)
  | iperf | mlc | redis | sgx | spdk | spec =>
      obtain ⟨-, rfl, -⟩ := otherCommands_ok.mp run
      exact .inl rfl

theorem createVm_sited {env : Env} {socket : Nat} {tile : Tile} {count : Nat} {s s' : St} (drawn : Drawn env s)
    (own : s.cpupool ⊆ (env.numactl socket).getD []) (run : createVm env socket tile count s = .ok () s') :
    Drawn env s' ∧ s'.cpupool ⊆ (env.numactl socket).getD [] ∧
      ∃ cmd, s'.testCommands = s.testCommands ++ [cmd] ∧ Sited env socket cmd := by
  obtain ⟨-, cmds, t, branch, rfl⟩ := createVm_ok_iff.mp run
  have cpuset := tileCommands_cpuset branch
  obtain ⟨-, network, devices, rfl⟩ := tileCommands_ok branch
  have after := drawn.vmPops socket tile count
  have pool : (createIsoCentos env (isoName tile (s.execTasks tile)) (netPops env socket s)).cpupool = s.cpupool :=
    netPops_cpupool env socket s
  have made : Drawn env (createIsoCentos env (isoName tile (s.execTasks tile)) (netPops env socket s)) :=
    ⟨(drawn.netPops socket).pools, (drawn.netPops socket).storage, (drawn.netPops socket).gpu⟩
  refine ⟨⟨after.pools, after.storage, after.gpu⟩, ?_, cmds.1, ?_, ?_, ?_⟩
  · change (vmPops env socket tile count s).cpupool ⊆ _
    rw [vmPops_cpupool]
    exact List.Subset.trans (List.take_subset _ _) own
  · exact congrArg (· ++ [cmds.1]) (vmPops_testCommands env socket tile count s)
  · refine cpuset.imp_right (Or.imp_right ?_)
    rintro ⟨n, cpuset⟩
    refine ⟨_, cpuset, fun cpu member => own ?_⟩
    rw [St.nextCpus, pool] at member
    exact List.mem_reverse.mp (List.mem_of_mem_take member)
  · intro dev given
    rw [VirtInstall.hostDevices, network, devices, List.mem_append] at given
    rcases given with net | tile
    · rcases mem_netDevices.mp net with ⟨-, last⟩ | ⟨-, last⟩
      · exact ⟨.vf socket, by simp, drawn.pools _ (List.mem_of_getLast? last)⟩
      · exact ⟨.nic, by simp, drawn.pools _ (List.mem_of_getLast? last)⟩
    · exact made.tileDevices tile

/-- The VMs of a run, each behind its socket. -/
def placed (env : Env) (sockets : List (Nat × Tiles)) : List (Nat × Tile × Nat) :=
  sockets.flatMap fun entry => (served env entry.1 entry.2).map (Prod.mk entry.1)

theorem getCpuPool_subset {env : Env} {socket : Nat} {pool : List Nat} (read : getCpuPool env socket = .ok pool) :
    pool ⊆ (env.numactl socket).getD [] := by
  rw [getCpuPool] at read
  cases line : env.numactl socket with
  | none => rw [line] at read; cases read
  | some listing =>
      rw [line] at read
      cases threads : env.ht with
      | false =>
          simp only [threads, Bool.false_eq_true, if_false] at read
          cases read
          exact List.Subset.refl _
      | true =>
          simp only [threads, if_true] at read
          rcases Nat.mod_two_eq_zero_or_one listing.length with even | odd
          · obtain ⟨cores, rfl⟩ := exists_cores even
            rw [htLoop_cores] at read
            cases read
            exact (flatMap_cores_perm cores).subset
          · rw [htLoop_odd odd] at read
            cases read

/-- A VM on each of the sockets, with the command it was given. -/
def AllSited (env : Env) (vms : List (Nat × Tile × Nat)) (cmds : List VirtInstall) : Prop :=
  List.Forall₂ (fun vm cmd => Sited env vm.1 cmd) vms cmds

theorem visit_sited {env : Env} {socket : Nat} {tiles : Tiles} {s s' : St} {vms : List (Nat × Tile × Nat)}
    (drawn : Drawn env s) (before : AllSited env vms s.testCommands) (run : visit env socket tiles s = .ok () s') :
    Drawn env s' ∧ AllSited env (vms ++ (served env socket tiles).map (Prod.mk socket)) s'.testCommands := by
  rw [visit_eq] at run
  cases read : getCpuPool env socket with
  | error e => simp [read] at run
  | ok pool =>
      simp only [read] at run
      let R := fun (done : List (Tile × Nat)) (s : St) => (Drawn env s ∧ s.cpupool ⊆ (env.numactl socket).getD []) ∧
        AllSited env (vms ++ done.map (Prod.mk socket)) s.testCommands
      have first : R [] (enter env socket pool s) := by
        refine ⟨⟨drawn.enter socket pool, ?_⟩, ?_⟩
        · rw [enter_eq]
          exact getCpuPool_subset read
        · rw [enter_eq, List.map_nil, List.append_nil]
          exact before
      have step : ∀ {done vm s s'}, R done s → createVm env socket vm.1 vm.2 s = .ok () s' → R (done ++ [vm]) s' := by
        rintro done vm s s' ⟨⟨drawn, own⟩, sited⟩ run
        obtain ⟨drawn', own', cmd, added, here⟩ := createVm_sited drawn own run
        refine ⟨⟨drawn', own'⟩, ?_⟩
        rw [added, List.map_append, ← List.append_assoc]
        exact List.rel_append sited (.cons here .nil)
      have last := forM_ok_history step first run
      exact ⟨last.1.1, last.2⟩

theorem generateCommands_sited {env : Env} {s' : St} (run : generateCommands env = .ok () s') :
    AllSited env (placed env (visited env)) s'.testCommands := by
  rw [generateCommands_eq] at run
  let R := fun (done : List (Nat × Tiles)) (s : St) => Drawn env s ∧ AllSited env (placed env done) s.testCommands
  have first : R [] (start env) := ⟨drawn_start env, .nil⟩
  have step : ∀ {done entry s s'}, R done s → visit env entry.1 entry.2 s = .ok () s' → R (done ++ [entry]) s' := by
    rintro done entry s s' ⟨drawn, sited⟩ run
    have next := visit_sited drawn sited run
    simpa only [R, placed, List.flatMap_append, List.flatMap_singleton] using next
  exact (forM_ok_history step first run).2

open Discovery

/-- What the drivers of a host show. -/
structure Host where
  cards : Text → Option EthCard
  /-- Whether `adf_ctl` is installed. -/
  driver : Bool
  headers : List Text
  qat : List QatDevice
  plain : ∀ line ∈ headers, contains "qat_dev".toList line = false
  distinct : (qat.map QatDevice.number).Nodup

namespace Host

variable (host : Host) (pPorts : List Text)

def sysfs (name : Text) : Option EthDevice := (host.cards name).map EthCard.sysfs

def adfCtl : Option (List Text) := if host.driver then some (listing host.headers host.qat) else none

def discover (env : Env) : Except ScanError Env := Discovery.discover host.sysfs host.adfCtl pPorts env

/-- The virtual functions of the named cards that are on a socket. -/
def vfs (socket : Nat) : List Text :=
  ((functionsOf host.cards pPorts).filter fun found => found.1 = (socket : Int)).map fun found => pciName found.2.text

/-- Those of QAT. -/
def qatVfs (socket : Nat) : List Text :=
  (host.qat.filter fun dev => dev.isVf && dev.nodeId = (socket : Int)).map fun dev => pciName dev.bsf.text

/-- What a QAT VM needs of the host. -/
structure OffersQat : Prop where
  driver : host.driver = true
  placed : ∀ dev ∈ host.qat, 0 ≤ dev.nodeId
  some_vf : ∃ dev ∈ host.qat, dev.isVf = true

end Host

theorem discover_ok {net : Text → Option EthDevice} {adfCtl : Option (List Text)} {pPorts : List Text} {env env' : Env} :
    Discovery.discover net adfCtl pPorts env = .ok env' ↔ ∃ vPort, scanPorts net pPorts env = .ok vPort ∧
      ∃ qatVfSocket, scanQat adfCtl env = .ok qatVfSocket ∧
      { env with
        vPort := fun socket => vPort.get? (socketName socket)
        qatVfSocket := fun socket => qatVfSocket.get? (socketName socket) } = env' := by
  simp only [Discovery.discover, except_bind_ok, pure, Except.pure, Except.ok.injEq]

namespace Host

variable (host : Host)

theorem scanPorts_ok {pPorts : List Text} {env : Env} {vPort : Dict Text (List Text)} :
    scanPorts host.sysfs pPorts env = .ok vPort ↔
      if env.networking.srIov = 1 then (∀ name ∈ pPorts, (host.cards name).isSome = true) ∧
        (functionsOf host.cards pPorts).foldl (fun found function =>
          found.append ("SOCKET".toList ++ intText function.1) (pciName function.2.text)) .empty = vPort
      else .empty = vPort := by
  rw [scanPorts]
  by_cases srIov : env.networking.srIov = 1
  · rw [if_pos srIov, if_pos srIov]
    exact (getVports_sysfs host.cards pPorts ▸ except_ite_ok :)
  · rw [if_neg srIov, if_neg srIov]
    exact ⟨Except.ok.inj, congrArg _⟩

theorem scanQat_ok {env : Env} {qatVfSocket : Dict Text (List Text)} :
    scanQat host.adfCtl env = .ok qatVfSocket ↔
      if qatRequested env then host.OffersQat ∧ (host.qat.filter QatDevice.isVf).foldl (fun found dev =>
        found.append (socketName dev.nodeId.natAbs) (pciName dev.bsf.text)) .empty = qatVfSocket
      else .empty = qatVfSocket := by
  rw [scanQat, adfCtl]
  by_cases requested : qatRequested env = true
  · rw [if_pos requested, if_pos requested, except_bind_ok]
    cases driver : host.driver with
    | false => exact iff_of_false nofun fun offers => absurd offers.1.driver (by rw [driver]; decide)
    | true =>
        have listed : (host.qat.filter QatDevice.isVf).isEmpty = false ↔ ∃ dev ∈ host.qat, dev.isVf = true := by
          rw [List.isEmpty_eq_false_iff, ne_eq, List.filter_eq_nil_iff]
          push Not
          rfl
        rw [if_pos rfl, Option.elim_some, getQatVf_listing host.plain host.distinct]
        simp only [except_ite_ok, except_guard_ok]
        constructor
        · rintro ⟨_, ⟨placed, rfl⟩, some_vf, rfl⟩
          rw [Dict.isEmpty_foldl_append, listed] at some_vf
          exact ⟨⟨driver, placed, some_vf⟩, rfl⟩
        · rintro ⟨offers, rfl⟩
          refine ⟨_, ⟨offers.placed, rfl⟩, ?_, rfl⟩
          rw [Dict.isEmpty_foldl_append, listed]
          exact offers.some_vf
  · rw [if_neg requested, if_neg requested]
    exact ⟨Except.ok.inj, congrArg _⟩

theorem get?_of_scanPorts {pPorts : List Text} {env : Env} {vPort : Dict Text (List Text)}
    (scanned : scanPorts host.sysfs pPorts env = .ok vPort) (socket : Nat) :
    (vPort.get? (socketName socket)).getD [] = if env.networking.srIov = 1 then host.vfs pPorts socket else [] := by
  have found := host.scanPorts_ok.mp scanned
  split_ifs at found ⊢ with srIov
  · obtain ⟨-, rfl⟩ := found
    rw [Dict.get?_foldl_append_empty, Dict.getD_group, vfs]
    simp only [socketName_intText]
  · subst found
    rfl

theorem get?_of_scanQat {env : Env} {qatVfSocket : Dict Text (List Text)}
    (scanned : scanQat host.adfCtl env = .ok qatVfSocket) (socket : Nat) :
    (qatVfSocket.get? (socketName socket)).getD [] = if qatRequested env then host.qatVfs socket else [] := by
  have found := host.scanQat_ok.mp scanned
  split_ifs at found ⊢ with requested
  · obtain ⟨offers, rfl⟩ := found
    rw [Dict.get?_foldl_append_empty, Dict.getD_group, qatVfs, List.filter_filter]
    refine congrArg _ (List.filter_congr fun dev member => ?_)
    simp only [socketName_natAbs (offers.placed dev member), Bool.and_comm]
  · subst found
    rfl

/-- The scans succeed on a host that has what is asked for, and find the virtual functions of each
    socket. -/
theorem discover_finds (pPorts : List Text) (env : Env) :
    ((∃ env', host.discover pPorts env = .ok env') ↔
      (env.networking.srIov = 1 → ∀ name ∈ pPorts, (host.cards name).isSome = true) ∧
        (qatRequested env = true → host.OffersQat)) ∧
      ∀ env', host.discover pPorts env = .ok env' → ∀ socket,
        env'.pools (.vf socket) = (if env.networking.srIov = 1 then host.vfs pPorts socket else []) ∧
          env'.pools (.qat socket) = if qatRequested env then host.qatVfs socket else [] := by
  simp only [discover, discover_ok]
  constructor
  · have ports : (∃ vPort, scanPorts host.sysfs pPorts env = .ok vPort) ↔
        (env.networking.srIov = 1 → ∀ name ∈ pPorts, (host.cards name).isSome = true) := by
      simp only [host.scanPorts_ok]
      split_ifs with srIov <;> simp [srIov]
    have qat : (∃ qatVfSocket, scanQat host.adfCtl env = .ok qatVfSocket) ↔
        (qatRequested env = true → host.OffersQat) := by
      simp only [host.scanQat_ok]
      split_ifs with requested <;> simp [requested]
    rw [← ports, ← qat]
    constructor
    · rintro ⟨_, vPort, ports, qatVfSocket, qat, -⟩
      exact ⟨⟨vPort, ports⟩, qatVfSocket, qat⟩
    · rintro ⟨⟨vPort, ports⟩, qatVfSocket, qat⟩
      exact ⟨_, vPort, ports, qatVfSocket, qat, rfl⟩
  · rintro env' ⟨vPort, ports, qatVfSocket, qat, rfl⟩ socket
    exact ⟨host.get?_of_scanPorts ports socket, host.get?_of_scanQat qat socket⟩

/-- The devices that a host and the configuration file have for each list. -/
def offers (pPorts : List Text) (env : Env) : Pool → List Text
  | .gpu => env.ptGpu
  | .nic => env.ptNic
  | .nvme => env.ptNvme
  | .vf socket => host.vfs pPorts socket
  | .qat socket => host.qatVfs socket

variable {host}

theorem pools_sublist {pPorts : List Text} {env env' : Env} (found : host.discover pPorts env = .ok env')
    (pool : Pool) : (env'.pools pool).Sublist (host.offers pPorts env pool) := by
  obtain ⟨vPort, ports, qatVfSocket, qat, rfl⟩ := discover_ok.mp found
  cases pool with
  | gpu | nic | nvme => exact List.Sublist.refl _
  | vf socket =>
      change ((vPort.get? (socketName socket)).getD []).Sublist _
      rw [host.get?_of_scanPorts ports]
      split_ifs
      · exact List.Sublist.refl _
      · exact List.nil_sublist _
  | qat socket =>
      change ((qatVfSocket.get? (socketName socket)).getD []).Sublist _
      rw [host.get?_of_scanQat qat]
      split_ifs
      · exact List.Sublist.refl _
      · exact List.nil_sublist _

end Host

/-- What a VM on a socket is given by the host. -/
structure Local (host : Host) (pPorts : List Text) (env : Env) (socket : Nat) (cmd : VirtInstall) : Prop where
  cpus : cmd.cpuset = none ∨ cmd.cpuset = some (.range env.node0Range) ∨
    ∃ cpus, cmd.cpuset = some (.ids cpus) ∧ cpus ⊆ (env.numactl socket).getD []
  devices : ∀ dev ∈ cmd.hostDevices, dev ∈ host.vfs pPorts socket ∨ dev ∈ host.qatVfs socket ∨
    dev ∈ env.ptGpu ++ env.ptNic ++ env.ptNvme

theorem commands_local {host : Host} {pPorts : List Text} {env env' : Env} {s' : St}
    (found : host.discover pPorts env = .ok env') (run : generateCommands env' = .ok () s') :
    List.Forall₂ (fun vm cmd => Local host pPorts env vm.1 cmd) (placed env' (visited env')) s'.testCommands := by
  have given : ∀ {pool dev}, dev ∈ env'.pools pool → dev ∈ host.offers pPorts env pool := fun inside =>
    (Host.pools_sublist found _).subset inside
  obtain ⟨vPort, _, qatVfSocket, _, rfl⟩ := discover_ok.mp found
  refine (generateCommands_sited run).imp fun vm cmd sited => ⟨sited.cpus, fun dev named => ?_⟩
  obtain ⟨pool, own, inside⟩ := sited.devices dev named
  cases pool with
  | vf n =>
      obtain rfl := own n (.inl rfl)
      exact .inl (given inside)
  | qat n =>
      obtain rfl := own n (.inr rfl)
      exact .inr (.inl (given inside))
  | gpu => exact .inr (.inr (List.mem_append_left _ (List.mem_append_left _ inside)))
  | nic => exact .inr (.inr (List.mem_append_left _ (List.mem_append_right _ inside)))
  | nvme => exact .inr (.inr (List.mem_append_right _ inside))

namespace Host

variable (host : Host) (pPorts : List Text)

/-- The addresses of all functions. -/
def addresses : List PciAddress := (functionsOf host.cards pPorts).map Prod.snd ++ host.qat.map QatDevice.bsf

def configured (env : Env) : List Text := env.ptGpu ++ env.ptNic ++ env.ptNvme

/-- No two functions of the host have one address, and the devices of the configuration file are
    different from each other and from them. -/
structure Distinct (env : Env) : Prop where
  addresses : ((host.addresses pPorts).map PciAddress.text).Nodup
  configured : (configured env).Nodup
  foreign : ∀ address ∈ host.addresses pPorts, pciName address.text ∉ Host.configured env

/-- All devices, with the list that they are for. -/
def filed (env : Env) : List (Pool × Text) :=
  (functionsOf host.cards pPorts).map (fun found => (.vf found.1.natAbs, pciName found.2.text)) ++
    host.qat.map (fun dev => (.qat dev.nodeId.natAbs, pciName dev.bsf.text)) ++
    (env.ptGpu.map (Prod.mk .gpu) ++ env.ptNic.map (Prod.mk .nic) ++ env.ptNvme.map (Prod.mk .nvme))

variable {host pPorts}

theorem Distinct.names {env : Env} (distinct : host.Distinct pPorts env) :
    ((host.addresses pPorts).map fun address => pciName address.text).Nodup := by
  refine List.pairwise_map.mpr ((List.pairwise_map.mp distinct.addresses).imp ?_)
  exact fun apart same => apart (pciName_injective same)

theorem Distinct.filed {env : Env} (distinct : host.Distinct pPorts env) :
    ((host.filed pPorts env).map Prod.snd).Nodup := by
  have all : (host.filed pPorts env).map Prod.snd =
      (host.addresses pPorts).map (fun address => pciName address.text) ++ Host.configured env := by
    simp [Host.filed, Host.addresses, Host.configured, Function.comp_def]
  rw [all, List.nodup_append']
  refine ⟨distinct.names, distinct.configured, fun dev named inside => ?_⟩
  obtain ⟨address, member, rfl⟩ := List.mem_map.mp named
  exact distinct.foreign address member inside

theorem mem_filed {env : Env} {pool : Pool} {dev : Text} (offered : dev ∈ host.offers pPorts env pool) :
    (pool, dev) ∈ host.filed pPorts env := by
  cases pool with
  | vf socket =>
      obtain ⟨found, member, rfl⟩ := List.mem_map.mp offered
      obtain ⟨inside, node⟩ := List.mem_filter.mp member
      refine List.mem_append_left _ (List.mem_append_left _ (List.mem_map.mpr ⟨found, inside, ?_⟩))
      rw [of_decide_eq_true node, Int.natAbs_natCast]
  | qat socket =>
      obtain ⟨dev, member, rfl⟩ := List.mem_map.mp offered
      obtain ⟨inside, kept⟩ := List.mem_filter.mp member
      rw [Bool.and_eq_true, decide_eq_true_eq] at kept
      refine List.mem_append_left _ (List.mem_append_right _ (List.mem_map.mpr ⟨dev, inside, ?_⟩))
      rw [kept.2, Int.natAbs_natCast]
  | gpu | nic | nvme => simpa [Host.filed, Host.offers] using offered

theorem Distinct.offers {env : Env} (distinct : host.Distinct pPorts env) (pool : Pool) :
    (host.offers pPorts env pool).Nodup := by
  have names := distinct.names
  rw [Host.addresses, List.map_append, List.nodup_append', List.map_map, List.map_map] at names
  have configured := distinct.configured
  rw [Host.configured, List.nodup_append', List.nodup_append'] at configured
  cases pool with
  | vf socket => exact names.1.sublist (List.filter_sublist.map _)
  | qat socket => exact names.2.1.sublist (List.filter_sublist.map _)
  | gpu => exact configured.1.1
  | nic => exact configured.1.2.1
  | nvme => exact configured.2.1

theorem Distinct.distinctIds {env env' : Env} (distinct : host.Distinct pPorts env)
    (found : host.discover pPorts env = .ok env') : DistinctIds env' where
  nodup pool := (distinct.offers pool).sublist (pools_sublist found pool)
  disjoint := by
    intro pool other apart dev here there
    have one := mem_filed ((pools_sublist found pool).subset here)
    have two := mem_filed ((pools_sublist found other).subset there)
    exact apart (congrArg Prod.fst (List.inj_on_of_nodup_map distinct.filed one two rfl))

end Host

/-- Two commands have only devices in common that are read from a string. -/
def SharesStale (env : Env) (a b : VirtInstall) : Prop :=
  ∀ dev ∈ a.hostDevices, dev ∈ b.hostDevices → dev ∈ env.ptGpu ∨ dev ∈ env.ptNvme

theorem Drawn.stale {env : Env} {s : St} (drawn : Drawn env s) {tile : Tile} {dev : Text} (left : dev ∈ stale tile s) :
    dev ∈ env.ptGpu ∨ dev ∈ env.ptNvme := by
  cases tile with
  | fio => exact .inr (drawn.storage left)
  | gpuInference =>
      rw [VmCloudInit.stale] at left
      split_ifs at left
      · exact .inl (drawn.gpu dev (Option.mem_toList.mp left))
      · cases left
  | _ => cases left

theorem sharesStale_invariant {env : Env} (distinct : DistinctIds env) :
    RunInvariant env fun _ s => Held env s ∧ Drawn env s ∧ s.testCommands.Pairwise (SharesStale env) where
  enter := by
    rintro done socket cpus s ⟨held, drawn, shares⟩ -
    exact ⟨held.enter socket cpus, drawn.enter socket cpus, by rw [enter_eq]; exact shares⟩
  step := by
    rintro done socket tile count s s' ⟨held, drawn, shares⟩ run
    obtain ⟨net, ready, cmds, rfl, network, devices⟩ := createVm_ok run
    have adds : Adds env socket tile count s cmds.1 := ⟨net, ready, network, devices⟩
    have after := drawn.vmPops socket tile count
    refine ⟨held.step distinct adds, ⟨after.pools, after.storage, after.gpu⟩, ?_⟩
    simp only [record, vmPops_testCommands, List.pairwise_append, List.pairwise_singleton, List.mem_singleton,
      forall_eq, true_and]
    refine ⟨shares, fun old member dev given again => ?_⟩
    rcases adds.stale_or_fresh held.nodup again with left | ⟨pool, inside, -⟩
    · exact drawn.stale left
    · exact absurd inside (held.gone old member dev given pool)

/-- On a host whose functions have different addresses, no virtual function and no NIC is given to
    two VMs. -/
theorem discovered_sharesStale {host : Host} {pPorts : List Text} {env env' : Env} {s' : St}
    (distinct : host.Distinct pPorts env) (found : host.discover pPorts env = .ok env')
    (run : generateCommands env' = .ok () s') : s'.testCommands.Pairwise (SharesStale env) := by
  have ids := distinct.distinctIds found
  have last := ((sharesStale_invariant ids).generateCommands ⟨held_start ids, drawn_start env', .nil⟩ run).2.2
  obtain ⟨vPort, _, qatVfSocket, _, rfl⟩ := discover_ok.mp found
  exact last

theorem fields_hex {bus : Text} (hex : bus.all isHex = true) (n : Nat) :
    ∀ field ∈ ["0000".toList, bus, "01".toList, decimal n], field.all isHex = true := by
  have digits : (decimal n).all isHex = true := List.all_eq_true.mpr fun c member => by
    rw [isHex, isDigit_of_mem_decimal member, Bool.true_or]
  simp only [List.forall_mem_cons, hex, digits, List.not_mem_nil, false_implies, implies_true, and_true, true_and]
  decide

def functionAt (bus : Text) (hex : bus.all isHex = true) (n : Nat) : PciAddress := ⟨_, _, _, _, fields_hex hex n⟩

theorem cardBus_hex : "38".toList.all isHex = true := by decide

theorem qatBus_hex : "6b".toList.all isHex = true := by decide

theorem qatKind_plain : "4xxxvf".toList.all Char.isAlphanum = true := by decide

def qatFunction : QatDevice where
  number := 4
  kind := "4xxxvf".toList
  instId := 0
  nodeId := 0
  bsf := functionAt _ qatBus_hex 1
  accel := 1
  engines := 1
  up := true
  plain := qatKind_plain

theorem nodup_soleFunction : ([qatFunction].map QatDevice.number).Nodup := List.nodup_singleton _

/-- A host with a card and a QAT device on node 0. -/
def qatHost : Host where
  cards := fun name =>
    if name = "ens1f0".toList then some ⟨0, [functionAt _ cardBus_hex 0, functionAt _ cardBus_hex 1]⟩ else none
  driver := true
  headers := []
  qat := [qatFunction]
  plain := List.forall_mem_nil _
  distinct := nodup_soleFunction

/-- A QAT VM and a redis VM. -/
def oneQat : Env :=
  { Env.oneSocket 8 (fun tile => if tile = .qat ∨ tile = .redis then some 1 else none) with
    networking := ⟨1, 0, 0, 0⟩ }

theorem qatHost_runs :
    ∃ env' s', qatHost.discover ["ens1f0".toList] oneQat = .ok env' ∧ generateCommands env' = .ok () s' := by
  have ends : (qatHost.discover ["ens1f0".toList] oneQat).toOption.any
      (fun env' => (finalState (generateCommands env')).isSome) = true := by decide +kernel
  cases found : qatHost.discover ["ens1f0".toList] oneQat with
  | error e => rw [found] at ends; cases ends
  | ok env' =>
      rw [found] at ends
      obtain ⟨s', run⟩ := exists_ok_of_isSome ends
      exact ⟨env', s', rfl, run⟩

theorem qatHost_local :
    ∃ env' s', qatHost.discover ["ens1f0".toList] oneQat = .ok env' ∧ generateCommands env' = .ok () s' ∧
      List.Forall₂ (fun vm cmd => Local qatHost ["ens1f0".toList] oneQat vm.1 cmd) (placed env' (visited env'))
        s'.testCommands := by
  obtain ⟨env', s', found, run⟩ := qatHost_runs
  exact ⟨env', s', found, run, commands_local found run⟩

theorem qatHost_distinct : qatHost.Distinct ["ens1f0".toList] oneQat where
  addresses := by decide +kernel
  configured := List.nodup_nil
  foreign := fun _ _ => List.not_mem_nil

theorem qatHost_sharesStale :
    ∃ env' s', qatHost.discover ["ens1f0".toList] oneQat = .ok env' ∧ generateCommands env' = .ok () s' ∧
      s'.testCommands.Pairwise (SharesStale oneQat) := by
  obtain ⟨env', s', found, run⟩ := qatHost_runs
  exact ⟨env', s', found, run, discovered_sharesStale qatHost_distinct found run⟩

end KvmWorkload.VmCloudInit
