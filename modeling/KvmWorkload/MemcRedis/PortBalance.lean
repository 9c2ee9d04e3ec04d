import KvmWorkload.Lib.Exec
import KvmWorkload.MemcRedis.Clients
import Mathlib.Data.Int.CardIntervalMod

/-! # Clients on all client cores

`exhaustclientcores` starts a client on every client core and deals the server
ports out in turn.  The port index is brought back into the list before it is
used and moved on behind the use, so between two rounds it can stand one behind
the end of the list.
-/

namespace KvmWorkload.MemcRedis

/-- The variables of the loop. -/
structure Dealing where
  tmpCcore : List Nat
  portidx : Nat
  benchmarkProcess : List Client

/-- The body of `while len(tmp_ccore)`. -/
def Dealing.round (portlist : List Nat) : EStateM PyError Dealing Unit := fun s =>
  match s.tmpCcore.getLast? with
  | none => .error .indexError s
  | some core =>
      let popped := { s with tmpCcore := s.tmpCcore.dropLast }
      if portlist.length = 0 then .error .zeroDivisionError popped
      else
        let portidx := s.portidx % portlist.length
        match portlist[portidx]? with
        | none => .error .indexError { popped with portidx }
        | some port =>
            .ok () { popped with
              portidx := portidx + 1
              benchmarkProcess := s.benchmarkProcess ++ [⟨port, core⟩] }

/-- `exhaustclientcores`, up to `n` rounds of its loop. -/
def exhaustRounds (clientcores : List Nat) (startport endport n : Nat) :
    EStateM.Result PyError Dealing Unit :=
  whileFor (fun s => !s.tmpCcore.isEmpty)
    (Dealing.round (List.range' startport (endport - startport))) n
    { tmpCcore := clientcores, portidx := 0, benchmarkProcess := [] }

/-- What has been started and what is still to be started make up `clients`. -/
def Dealt (portlist : List Nat) (clients : List Client) (s : Dealing) : Prop :=
  ∃ later, exhaustLoop portlist s.tmpCcore.reverse s.portidx = .ok later ∧
    s.benchmarkProcess ++ later = clients

theorem Dealt.round {portlist : List Nat} {clients : List Client} {s : Dealing}
    (dealt : Dealt portlist clients s) (more : (!s.tmpCcore.isEmpty) = true) :
    ∃ t, Dealing.round portlist s = .ok () t ∧ Dealt portlist clients t ∧
      t.tmpCcore.length < s.tmpCcore.length := by
  obtain ⟨tmpCcore, portidx, benchmarkProcess⟩ := s
  obtain ⟨later, run, all⟩ := dealt
  cases tmpCcore using List.reverseRec with
  | nil => simp at more
  | append_singleton cores core =>
      rw [List.reverse_append, List.reverse_singleton, List.singleton_append, exhaustLoop] at run
      cases found : portlist[portidx % portlist.length]? with
      | none =>
          rw [found] at run
          cases run
      | some port =>
          rw [found] at run
          obtain ⟨rest, others, here⟩ := except_bind_ok.mp run
          cases here
          have ports : portlist.length ≠ 0 := by
            intro none
            rw [List.length_eq_zero_iff.mp none] at found
            cases found
          refine ⟨{ tmpCcore := cores, portidx := portidx % portlist.length + 1,
                    benchmarkProcess := benchmarkProcess ++ [⟨port, core⟩] }, ?_, ⟨rest, others, ?_⟩, ?_⟩
          · simp [Dealing.round, ports, found]
          · rw [List.append_assoc, List.singleton_append]
            exact all
          · simp

theorem exhaustRounds_ends {clientcores : List Nat} {startport endport : Nat} {clients : List Client}
    (run : exhaustclientcores clientcores startport endport = .ok clients) {n : Nat}
    (enough : clientcores.length < n) :
    ∃ s, exhaustRounds clientcores startport endport n = .ok () s ∧ s.tmpCcore = [] ∧
      s.benchmarkProcess = clients := by
  have start : Dealt (List.range' startport (endport - startport)) clients
      { tmpCcore := clientcores, portidx := 0, benchmarkProcess := [] } := ⟨clients, run, rfl⟩
  obtain ⟨s, ends, ⟨later, rest, all⟩, done⟩ := whileFor_ends (fun s => s.tmpCcore.length)
    (fun s dealt more => dealt.round more) start enough.le
  have empty : s.tmpCcore = [] := by simpa using done
  rw [empty] at rest
  cases rest
  exact ⟨s, ends, empty, by rw [← all, List.append_nil]⟩

def clientsOn (clients : List Client) (port : Nat) : Nat := (clients.map Client.port).count port

/-- One client for each core on a port of the range, and ports that differ by at most one client. -/
structure Balanced (clientcores : List Nat) (startport endport : Nat) (clients : List Client) : Prop where
  perCore : (clients.map Client.core).Perm clientcores
  inRange : ∀ client ∈ clients, startport ≤ client.port ∧ client.port < endport
  even : ∀ port port', startport ≤ port → port < endport → startport ≤ port' → port' < endport →
    clientsOn clients port ≤ clientsOn clients port' + 1
  covered : (∀ port, startport ≤ port → port < endport → ∃ client ∈ clients, client.port = port) ↔
    endport - startport ≤ clientcores.length

/-- The clients when `n` ports are dealt out over `cores`. -/
def dealt (startport n : Nat) (cores : List Nat) : List Client :=
  cores.mapIdx fun j core => ⟨startport + j % n, core⟩

theorem cores_dealt (startport n : Nat) (cores : List Nat) :
    (dealt startport n cores).map Client.core = cores := by
  apply List.ext_getElem
  · simp [dealt]
  · intro j left right
    simp [dealt]

theorem ports_dealt (startport n : Nat) (cores : List Nat) :
    (dealt startport n cores).map Client.port =
      (List.range cores.length).map fun j => startport + j % n := by
  apply List.ext_getElem
  · simp [dealt]
  · intro j left right
    simp [dealt]

/-- The number of clients on the port at place `r`: the whole turns, and one more if the last turn
    reached it. -/
theorem clientsOn_dealt (startport : Nat) {n : Nat} (some : 0 < n) (cores : List Nat) {r : Nat}
    (inside : r < n) :
    clientsOn (dealt startport n cores) (startport + r) =
      cores.length / n + if r < cores.length % n then 1 else 0 := by
  have turns := Nat.count_modEq_card cores.length some r
  rw [Nat.mod_eq_of_lt inside] at turns
  rw [← turns, clientsOn, ports_dealt, List.count, List.countP_map, Nat.count]
  apply List.countP_congr
  intro j _
  simp [Nat.ModEq, Nat.mod_eq_of_lt inside]

theorem exists_client_iff {clients : List Client} {port : Nat} :
    (∃ client ∈ clients, client.port = port) ↔ 0 < clientsOn clients port := by
  rw [clientsOn, List.count_pos_iff, List.mem_map]

theorem balanced_dealt (clientcores : List Nat) (startport : Nat) {n : Nat} (some : 0 < n) :
    Balanced clientcores startport (startport + n) (dealt startport n clientcores.reverse) := by
  have count : ∀ port, startport ≤ port → port < startport + n →
      clientsOn (dealt startport n clientcores.reverse) port =
        clientcores.length / n + if port - startport < clientcores.length % n then 1 else 0 := by
    intro port low high
    obtain ⟨r, rfl⟩ := Nat.exists_eq_add_of_le low
    rw [clientsOn_dealt startport some _ (by omega), List.length_reverse, Nat.add_sub_cancel_left]
  constructor
  · rw [cores_dealt]
    exact List.reverse_perm clientcores
  · intro client member
    obtain ⟨j, _, rfl⟩ := List.mem_mapIdx.mp member
    have turn : j % n < n := Nat.mod_lt j some
    dsimp only
    omega
  · intro port port' low high low' high'
    rw [count port low high, count port' low' high']
    split_ifs <;> omega
  · rw [Nat.add_sub_cancel_left]
    constructor
    · intro covered
      -- the last port of the range is the first one to go without a client
      have last := exists_client_iff.mp (covered (startport + (n - 1)) (by omega) (by omega))
      rw [count _ (by omega) (by omega)] at last
      have part : clientcores.length % n < n := Nat.mod_lt _ some
      rw [if_neg (by omega), Nat.add_zero] at last
      exact (Nat.div_pos_iff.mp last).2
    · intro enough port low high
      apply exists_client_iff.mpr
      rw [count port low high]
      exact Nat.add_pos_left (Nat.div_pos enough some) _

/-- `exhaustclientcores` comes to its end, starts one client on every client core, and spreads them
    evenly over the ports. -/
theorem exhaustclientcores_balanced (clientcores : List Nat) {startport endport : Nat}
    (ports : startport < endport) :
    ∃ clients, exhaustclientcores clientcores startport endport = .ok clients ∧
      (∀ n, clientcores.length < n → ∃ s, exhaustRounds clientcores startport endport n = .ok () s ∧
        s.tmpCcore = [] ∧ s.benchmarkProcess = clients) ∧
      Balanced clientcores startport endport clients := by
  obtain ⟨n, rfl⟩ := Nat.exists_eq_add_of_le (Nat.le_of_lt ports)
  have some : 0 < n := by omega
  have run : exhaustclientcores clientcores startport (startport + n) =
      .ok (dealt startport n clientcores.reverse) := exhaustclientcores_eq clientcores startport some
  refine ⟨_, run, ?_, balanced_dealt clientcores startport some⟩
  intro rounds enough
  exact exhaustRounds_ends run enough

/-- Five cores for three ports. -/
theorem exhaustclientcores_balanced_five :
    9001 < 9004 ∧ ∃ clients, exhaustclientcores [8, 9, 10, 11, 12] 9001 9004 = .ok clients ∧
      Balanced [8, 9, 10, 11, 12] 9001 9004 clients := by
  have ports : 9001 < 9004 := by decide
  obtain ⟨clients, run, -, balanced⟩ := exhaustclientcores_balanced [8, 9, 10, 11, 12] ports
  exact ⟨ports, clients, run, balanced⟩

example : exhaustclientcores [8, 9, 10, 11, 12] 9001 9004 =
    .ok [⟨9001, 12⟩, ⟨9002, 11⟩, ⟨9003, 10⟩, ⟨9001, 9⟩, ⟨9002, 8⟩] := by decide

end KvmWorkload.MemcRedis
