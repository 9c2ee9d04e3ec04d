import KvmWorkload.MemcRedis.GenerateReport
import KvmWorkload.MemcRedis.PortBalance
import Mathlib.Data.List.Nodup

/-! # Launchers and the report

The report knows a process only by its command line: it takes the port, the
server and the core from fixed places of it and opens the log under the name
that these give.  The three launchers write the command line and the name of
the log separately.
-/

namespace KvmWorkload.MemcRedis

/-- A started process: the client, its command line, and the file behind its standard output. -/
structure Launched where
  client : Client
  args : Text
  outfile : Text

def Memtier.popen (memtier : Memtier) (client : Client) : Launched where
  client := client
  args := memtier.cmd client
  outfile := logName memtier.hostIp client

def Strategy.launch (strategy : Strategy) (memtier : Memtier) (clientcores : List Nat)
    (startport endport : Nat) : Except PyError (List Launched) := do
  let clients ← strategy.clients clientcores startport endport
  pure (clients.map memtier.popen)

/-- No two processes write to one file, and the report finds the file, the server and the port of
    each process in its command line. -/
structure ReportAgrees (memtier : Memtier) (processes : List Launched) : Prop where
  distinct : (processes.map Launched.outfile).Nodup
  recovered : ∀ process ∈ processes, ∃ target, Target.ofArgs process.args = .ok target ∧
    target.logfile = process.outfile ∧ target.server = memtier.hostIp ∧
    target.port = decimal process.client.port

theorem logName_injective (hostIp : Text) : Function.Injective (logName hostIp) := by
  intro client client' same
  have core := core_eq_of_logName_eq same
  unfold logName at same
  rw [core] at same
  have ports := List.append_cancel_right (List.append_cancel_right (List.append_cancel_right same))
  have port := decimal_injective (List.append_cancel_left ports)
  cases client
  cases client'
  cases port
  cases core
  rfl

theorem map_port_zipWith {ports cores : List Nat} (enough : ports.length ≤ cores.length) :
    (List.zipWith Client.mk ports cores).map Client.port = ports := by
  apply List.ext_getElem
  · simp [enough]
  · intro j left right
    simp

theorem nodup_single {clientcores : List Nat} {startport endport : Nat} {clients : List Client}
    (run : singleclientperserver clientcores startport endport = .ok clients) : clients.Nodup := by
  obtain ⟨enough, rfl⟩ := singleLoop_ok_iff.mp run
  apply List.Nodup.of_map Client.port
  rw [map_port_zipWith enough]
  exact List.nodup_range'

theorem map_core_exhaustLoop {portlist cores : List Nat} {portidx : Nat} {clients : List Client}
    (run : exhaustLoop portlist cores portidx = .ok clients) : clients.map Client.core = cores := by
  induction cores generalizing portidx clients with
  | nil =>
      cases run
      rfl
  | cons core rest ih =>
      rw [exhaustLoop] at run
      cases found : portlist[portidx % portlist.length]? with
      | none =>
          rw [found] at run
          cases run
      | some port =>
          rw [found] at run
          obtain ⟨later, others, here⟩ := except_bind_ok.mp run
          cases here
          rw [List.map_cons, ih others]

theorem nodup_exhaust {clientcores : List Nat} (distinct : clientcores.Nodup) {startport endport : Nat}
    {clients : List Client} (run : exhaustclientcores clientcores startport endport = .ok clients) :
    clients.Nodup := by
  apply List.Nodup.of_map Client.core
  rw [map_core_exhaustLoop run]
  exact List.nodup_reverse.mpr distinct

theorem nodup_multi {clientcores : List Nat} (distinct : clientcores.Nodup) (startport endport : Nat) :
    (multiclentperserver clientcores startport endport).Nodup := by
  unfold multiclentperserver
  rw [List.nodup_flatMap]
  constructor
  · intro port _
    apply (List.nodup_reverse.mpr distinct).map
    intro core core' same
    exact congrArg Client.core same
  · have ports : (List.range' startport (endport - startport)).Nodup := List.nodup_range'
    apply ports.imp
    intro port port' differ client left right
    obtain ⟨core, -, rfl⟩ := List.mem_map.mp left
    obtain ⟨core', -, same⟩ := List.mem_map.mp right
    exact differ (congrArg Client.port same).symm

theorem Strategy.nodup_clients {strategy : Strategy} {clientcores : List Nat}
    (distinct : clientcores.Nodup) {startport endport : Nat} {clients : List Client}
    (run : strategy.clients clientcores startport endport = .ok clients) : clients.Nodup := by
  cases strategy with
  | singleclientperserver => exact nodup_single run
  | exhaustclientcores => exact nodup_exhaust distinct run
  | multiclentperserver =>
      cases run
      exact nodup_multi distinct startport endport

/-- A client for every port needs a core for every port; dealing ports out needs a port. -/
def Strategy.Supplied (strategy : Strategy) (clientcores : List Nat) (startport endport : Nat) : Prop :=
  match strategy with
  | .singleclientperserver => endport - startport ≤ clientcores.length
  | .exhaustclientcores => startport < endport ∨ clientcores = []
  | .multiclentperserver => True

theorem Strategy.exists_launch_iff {strategy : Strategy} {memtier : Memtier} {clientcores : List Nat}
    {startport endport : Nat} :
    (∃ processes, strategy.launch memtier clientcores startport endport = .ok processes) ↔
      ∃ clients, strategy.clients clientcores startport endport = .ok clients := by
  constructor
  · rintro ⟨processes, run⟩
    obtain ⟨clients, paired, -⟩ := except_bind_ok.mp run
    exact ⟨clients, paired⟩
  · rintro ⟨clients, paired⟩
    exact ⟨_, except_bind_ok.mpr ⟨clients, paired, rfl⟩⟩

theorem exhaustclientcores_no_ports {clientcores : List Nat} {startport endport : Nat}
    (none : endport ≤ startport) {clients : List Client}
    (run : exhaustclientcores clientcores startport endport = .ok clients) : clientcores = [] := by
  unfold exhaustclientcores at run
  rw [Nat.sub_eq_zero_of_le none] at run
  cases cores : clientcores.reverse with
  | nil => simpa using cores
  | cons core rest =>
      rw [cores] at run
      cases run

theorem exhaustclientcores_returns_iff {clientcores : List Nat} {startport endport : Nat} :
    (∃ clients, exhaustclientcores clientcores startport endport = .ok clients) ↔
      startport < endport ∨ clientcores = [] := by
  constructor
  · rintro ⟨clients, run⟩
    cases Nat.lt_or_ge startport endport with
    | inl ports => exact .inl ports
    | inr none => exact .inr (exhaustclientcores_no_ports none run)
  · intro supplied
    cases supplied with
    | inl ports =>
        obtain ⟨n, rfl⟩ := Nat.exists_eq_add_of_lt ports
        exact ⟨_, exhaustclientcores_eq clientcores startport n.succ_pos⟩
    | inr empty =>
        subst empty
        exact ⟨[], rfl⟩

theorem Strategy.launch_returns_iff {strategy : Strategy} {memtier : Memtier} {clientcores : List Nat}
    {startport endport : Nat} :
    (∃ processes, strategy.launch memtier clientcores startport endport = .ok processes) ↔
      strategy.Supplied clientcores startport endport := by
  rw [exists_launch_iff]
  unfold clients Supplied
  cases strategy with
  | singleclientperserver =>
      unfold MemcRedis.singleclientperserver
      simp [singleLoop_ok_iff]
  | exhaustclientcores => exact exhaustclientcores_returns_iff
  | multiclentperserver => simp

/-- Whichever launcher started the processes, the report takes each one for what it is. -/
theorem launch_reportAgrees {strategy : Strategy} {memtier : Memtier} (clean : ' ' ∉ memtier.hostIp)
    {clientcores : List Nat} (distinct : clientcores.Nodup) {startport endport : Nat}
    {processes : List Launched}
    (run : strategy.launch memtier clientcores startport endport = .ok processes) :
    ReportAgrees memtier processes := by
  obtain ⟨clients, paired, here⟩ := except_bind_ok.mp run
  cases here
  constructor
  · rw [List.map_map]
    exact (strategy.nodup_clients distinct paired).map (logName_injective memtier.hostIp)
  · intro process member
    obtain ⟨client, -, rfl⟩ := List.mem_map.mp member
    exact ⟨_, memtier.ofArgs_cmd client clean, rfl, rfl, rfl⟩

/-- Two cores and three ports under `multiclentperserver`: six processes. -/
theorem launch_reportAgrees_six :
    ' ' ∉ sampleMemtier.hostIp ∧ [24, 25].Nodup ∧
      ∃ processes, Strategy.launch .multiclentperserver sampleMemtier [24, 25] 9001 9004 = .ok processes ∧
        processes.length = 6 ∧ ReportAgrees sampleMemtier processes := by
  have clean : ' ' ∉ sampleMemtier.hostIp := by decide
  have distinct : [24, 25].Nodup := by decide
  have run : Strategy.launch .multiclentperserver sampleMemtier [24, 25] 9001 9004 =
      .ok ((multiclentperserver [24, 25] 9001 9004).map sampleMemtier.popen) := rfl
  exact ⟨clean, distinct, _, run, rfl, launch_reportAgrees clean distinct run⟩

end KvmWorkload.MemcRedis
