import KvmWorkload.VmCloudInit.CreatedFiles
import KvmWorkload.VmCloudInit.Needs
import KvmWorkload.VmCloudInit.Stops

/-! # Addresses of the VMs

`create_iso` and `create_iso_centos` count addresses from 192.168.123.1 on in
two global counters, and the VM's network is a /23.  The last octet goes up to
255 before it starts again, and 192.168.123.255 is the broadcast address of
192.168.122.0/23: the third octet 123 is odd.
-/

namespace KvmWorkload.VmCloudInit

structure Ipv4 where
  a : Nat
  b : Nat
  c : Nat
  d : Nat
  deriving DecidableEq

namespace Ipv4

/-- Four decimal numbers with dots between them. -/
def read (text : Text) : Option Ipv4 :=
  match text.splitOn '.' with
  | [a, b, c, d] =>
      if [a, b, c, d].all (fun field => !field.isEmpty && field.all Char.isDigit) then
        some ⟨readDecimal a, readDecimal b, readDecimal c, readDecimal d⟩
      else none
  | _ => none

def Valid (ip : Ipv4) : Prop := ip.a < 256 ∧ ip.b < 256 ∧ ip.c < 256 ∧ ip.d < 256

/-- The address as one number. -/
def value (ip : Ipv4) : Nat := ((ip.a * 256 + ip.b) * 256 + ip.c) * 256 + ip.d

/-- The bits behind the first 23. -/
def hostPart (ip : Ipv4) : Nat := ip.value % 2 ^ (32 - 23)

def IsNetwork (ip : Ipv4) : Prop := ip.hostPart = 0

def IsBroadcast (ip : Ipv4) : Prop := ip.hostPart = 2 ^ (32 - 23) - 1

end Ipv4

/-- Distinct addresses, each of which a VM can have in its /23 network. -/
structure Usable (ips : List Text) : Prop where
  distinct : ips.Nodup
  valid : ∀ text ∈ ips, ∃ ip, Ipv4.read text = some ip ∧ ip.Valid ∧ ¬ ip.IsNetwork ∧ ¬ ip.IsBroadcast

/-- `create_iso`, which puts the ISO under the root. -/
def createIso (env : Env) (iso : Text) (s : St) : St :=
  let ipSub := if s.ipCount > 254 then s.ipSub + 1 else s.ipSub
  let ipCount := (if s.ipCount > 254 then 0 else s.ipCount) + 1
  let image : Image :=
    { isoName := iso
      ip := "192.168.".toList ++ decimal ipSub ++ '.' :: decimal ipCount
      iso := storedAtRoot env iso "iso".toList
      golden :=
        if contains "qat".toList iso then "qat-golden-images.qcow2".toList
        else if contains "spec".toList iso then "spec-golden-image.qcow2".toList
        else "golden_vmimage.qcow2".toList
      qcow2 := storedAt env iso "qcow2".toList }
  { s with ipCount, ipSub, created := s.created ++ [image] }

inductive Maker where
  | createIso
  | createIsoCentos

def Maker.make (env : Env) (maker : Maker) (iso : Text) (s : St) : St :=
  match maker with
  | .createIso => VmCloudInit.createIso env iso s
  | .createIsoCentos => VmCloudInit.createIsoCentos env iso s

/-- The addresses that a sequence of calls assigns. -/
def assigned (env : Env) (calls : List (Maker × Text)) : List Text :=
  (calls.foldl (fun s call => call.1.make env call.2 s) (start env)).created.map Image.ip

/-- Third and fourth octet of the address number `k`, counted from 0. -/
def octets (k : Nat) : Nat × Nat := (123 + k / 255, k % 255 + 1)

def ipText (octets : Nat × Nat) : Text :=
  "192.168.".toList ++ decimal octets.1 ++ '.' :: decimal octets.2

/-- `ip_sub` and `ip_count` behind `k` calls. -/
def countersAfter : Nat → Nat × Nat
  | 0 => (123, 0)
  | k + 1 => octets k

/-- The test and the increment in front of every address. -/
def nextCounters (counters : Nat × Nat) : Nat × Nat :=
  (if counters.2 > 254 then counters.1 + 1 else counters.1,
    (if counters.2 > 254 then 0 else counters.2) + 1)

theorem nextCounters_after (k : Nat) : nextCounters (countersAfter k) = octets k := by
  cases k with
  | zero => rfl
  | succ k =>
      -- `ip_count` is `k % 255 + 1`, so the test holds behind every 255th address
      have turn : k % 255 < 255 := Nat.mod_lt k (by decide)
      unfold nextCounters countersAfter octets
      dsimp only
      apply Prod.ext
      · dsimp only
        split_ifs <;> omega
      · dsimp only
        split_ifs <;> omega

/-- The images so far have the first addresses, and the counters stand behind them. -/
structure Counted (s : St) : Prop where
  ips : s.created.map Image.ip = (List.range s.created.length).map fun k => ipText (octets k)
  counters : (s.ipSub, s.ipCount) = countersAfter s.created.length

/-- The image takes the next address. -/
structure TakesAddress (s t : St) : Prop where
  created : ∃ image, t.created = s.created ++ [image] ∧
    image.ip = ipText (nextCounters (s.ipSub, s.ipCount))
  counters : (t.ipSub, t.ipCount) = nextCounters (s.ipSub, s.ipCount)

theorem Maker.takesAddress (maker : Maker) (env : Env) (iso : Text) (s : St) :
    TakesAddress s (maker.make env iso s) := by
  cases maker with
  | createIso => exact ⟨⟨_, rfl, rfl⟩, rfl⟩
  | createIsoCentos => exact ⟨⟨_, rfl, rfl⟩, rfl⟩

theorem TakesAddress.counted {s t : St} (takes : TakesAddress s t) (counted : Counted s) : Counted t := by
  obtain ⟨⟨image, created, ip⟩, counters⟩ := takes
  rw [counted.counters, nextCounters_after] at ip counters
  have number : t.created.length = s.created.length + 1 := by simp [created]
  constructor
  · rw [number, List.range_succ, List.map_append, ← counted.ips, created, List.map_append,
      List.map_singleton, List.map_singleton, ip]
  · rw [number]
    exact counters

theorem St.withImage_takesAddress (env : Env) (tile : Tile) (s : St) : TakesAddress s (s.withImage env tile) :=
  Maker.createIsoCentos.takesAddress env _ s

theorem Counted.of_output {s t : St} (counted : Counted s) (same : t.output = s.output) : Counted t := by
  have created := created_of_output same
  have ipSub : t.output.ipSub = s.output.ipSub := congrArg St.ipSub same
  have ipCount : t.output.ipCount = s.output.ipCount := congrArg St.ipCount same
  constructor
  · rw [created]
    exact counted.ips
  · rw [created, ← counted.counters]
    exact congrArg₂ Prod.mk ipSub ipCount

theorem counted_start (env : Env) : Counted (start env) := ⟨rfl, rfl⟩

theorem assigned_eq (env : Env) (calls : List (Maker × Text)) :
    assigned env calls = (List.range calls.length).map fun k => ipText (octets k) := by
  have run : ∀ s, Counted s →
      Counted (calls.foldl (fun s call => call.1.make env call.2 s) s) ∧
      (calls.foldl (fun s call => call.1.make env call.2 s) s).created.length =
        s.created.length + calls.length := by
    induction calls with
    | nil => exact fun s counted => ⟨counted, rfl⟩
    | cons call calls ih =>
        intro s counted
        have takes := call.1.takesAddress env call.2 s
        obtain ⟨later, number⟩ := ih (call.1.make env call.2 s) (takes.counted counted)
        obtain ⟨⟨image, created, -⟩, -⟩ := takes
        refine ⟨later, ?_⟩
        rw [List.foldl_cons, number, created]
        simp
        omega
  obtain ⟨counted, number⟩ := run (start env) (counted_start env)
  have none : (start env).created.length = 0 := rfl
  rw [assigned, counted.ips, number, none, Nat.zero_add]

theorem read_dotted (a b c d : Nat) :
    Ipv4.read (['.'].intercalate ([a, b, c, d].map decimal)) = some ⟨a, b, c, d⟩ := by
  have split : (['.'].intercalate ([a, b, c, d].map decimal)).splitOn '.' = [a, b, c, d].map decimal := by
    apply List.splitOn_intercalate
    · intro field member
      obtain ⟨n, -, rfl⟩ := List.mem_map.mp member
      exact not_mem_decimal (by decide)
    · exact List.cons_ne_nil _ _
  have digits : ∀ n, (!(decimal n).isEmpty && (decimal n).all Char.isDigit) = true := by
    intro n
    simp [all_isDigit_decimal, decimal_ne_nil]
  unfold Ipv4.read
  rw [split]
  simp only [List.map_cons, List.map_nil, List.all_cons, List.all_nil, digits, Bool.and_self, if_true,
    readDecimal_decimal]

theorem read_ipText (octets : Nat × Nat) : Ipv4.read (ipText octets) = some ⟨192, 168, octets.1, octets.2⟩ := by
  have front : "192.168.".toList = decimal 192 ++ '.' :: decimal 168 ++ ['.'] := by decide
  have dotted : ipText octets = ['.'].intercalate ([192, 168, octets.1, octets.2].map decimal) := by
    unfold ipText
    rw [front]
    simp only [List.map_cons, List.map_nil, List.intercalate, List.intersperse, List.flatten_cons,
      List.flatten_nil, List.append_nil, List.append_assoc, List.cons_append, List.nil_append]
  rw [dotted, read_dotted]

/-- The addresses in front of the first turn of the third octet. -/
theorem read_first {k : Nat} (below : k < 255) :
    Ipv4.read (ipText (octets k)) = some ⟨192, 168, 123, k + 1⟩ := by
  rw [read_ipText]
  unfold octets
  rw [Nat.div_eq_of_lt below, Nat.mod_eq_of_lt below]

theorem isBroadcast_last : Ipv4.IsBroadcast ⟨192, 168, 123, 255⟩ := by
  -- 123 is odd, so all nine host bits are set
  unfold Ipv4.IsBroadcast
  rfl

theorem host_of_lt {k : Nat} (below : k < 254) :
    Ipv4.Valid ⟨192, 168, 123, k + 1⟩ ∧ ¬ Ipv4.IsNetwork ⟨192, 168, 123, k + 1⟩ ∧
      ¬ Ipv4.IsBroadcast ⟨192, 168, 123, k + 1⟩ := by
  unfold Ipv4.Valid Ipv4.IsNetwork Ipv4.IsBroadcast Ipv4.hostPart Ipv4.value
  dsimp only
  omega

theorem ipText_octets_inj {k k' : Nat} (below : k < 255) (below' : k' < 255)
    (same : ipText (octets k) = ipText (octets k')) : k = k' := by
  have read := congrArg Ipv4.read same
  rw [read_first below, read_first below'] at read
  cases read
  rfl

theorem usable_range_iff (n : Nat) :
    Usable ((List.range n).map fun k => ipText (octets k)) ↔ n ≤ 254 := by
  constructor
  · intro usable
    by_contra more
    have member : ipText (octets 254) ∈ (List.range n).map fun k => ipText (octets k) :=
      List.mem_map_of_mem (List.mem_range.mpr (by omega))
    obtain ⟨ip, read, -, -, host⟩ := usable.valid _ member
    rw [read_first (by decide)] at read
    cases read
    exact host isBroadcast_last
  · intro few
    constructor
    · rw [List.nodup_map_iff_inj_on List.nodup_range]
      intro k below k' below' same
      rw [List.mem_range] at below below'
      exact ipText_octets_inj (by omega) (by omega) same
    · intro text member
      obtain ⟨k, below, rfl⟩ := List.mem_map.mp member
      rw [List.mem_range] at below
      exact ⟨_, read_first (by omega), host_of_lt (by omega)⟩

theorem createVm_takesAddress {env : Env} {socket : Nat} {tile : Tile} {count : Nat} {u : Unit} {s s' : St}
    (run : createVm env socket tile count s = .ok u s') : TakesAddress s s' := by
  obtain ⟨-, -, cmds, rfl, -⟩ := createVm_ok run
  have counters : (vmPops env socket tile count s).ipSub = (s.withImage env tile).ipSub ∧
      (vmPops env socket tile count s).ipCount = (s.withImage env tile).ipCount := by
    have net := netPops_eq env socket s
    cases tile <;> (unfold vmPops; rw [net]; exact ⟨rfl, rfl⟩)
  have takes := s.withImage_takesAddress env tile
  constructor
  · change ∃ image, (vmPops env socket tile count s).created = _ ∧ _
    rw [vmPops_created]
    exact takes.created
  · rw [← takes.counters]
    exact congrArg₂ Prod.mk counters.1 counters.2

theorem counted_invariant (env : Env) : StopInvariant env Counted Counted where
  enter := by
    intro socket pool s counted _
    rw [enter_eq]
    exact ⟨counted.ips, counted.counters⟩
  step := fun counted run => (createVm_takesAddress run).counted counted
  stop := Counted.of_output
  stopImage := by
    intro tile s t counted same
    exact ((s.withImage_takesAddress env tile).counted counted).of_output same

theorem usable_endState_iff (env : Env) :
    Usable ((endState env).created.map Image.ip) ↔ (endState env).created.length ≤ 254 := by
  rw [((counted_invariant env).endState (counted_start env)).ips, usable_range_iff]

/-- As many calls as `is_vm_available` admits VMs, in any mix, assign usable addresses. -/
def AddressesUsable (env : Env) : Prop :=
  ∀ calls : List (Maker × Text), (calls.length : Int) ≤ env.maxVms → Usable (assigned env calls)

theorem not_addressesUsable {env : Env} (more : 254 < env.maxVms) : ¬ AddressesUsable env := by
  intro usable
  have number : (List.replicate 255 (Maker.createIsoCentos, ([] : Text))).length = 255 :=
    List.length_replicate
  have short := usable (List.replicate 255 (.createIsoCentos, [])) (by rw [number]; omega)
  rw [assigned_eq, number, usable_range_iff] at short
  omega

/-- Nothing keeps the number of VMs below the first broadcast address but the number of CPUs. -/
theorem addressesUsable_iff (env : Env) : AddressesUsable env ↔ env.maxVms ≤ 254 := by
  constructor
  · intro usable
    by_contra more
    exact not_addressesUsable (by omega) usable
  · intro few calls admitted
    rw [assigned_eq, usable_range_iff]
    omega

/-- 255 VMs with two CPUs each. -/
def manyRedisHost : Env := Env.oneSocket 512 fun tile => if tile = .redis then some 255 else some 0

theorem manyRedis_provided : Provided manyRedisHost := by
  have sockets : visited manyRedisHost = manyRedisHost.tileMap := by
    simp [visited, Env.sortedSockets, manyRedisHost, Env.oneSocket]
  constructor
  · intro entry member
    rw [sockets] at member
    obtain rfl := List.mem_singleton.mp member
    have others : ∀ vm ∈ served manyRedisHost 0 (fun tile => if tile = .redis then some 255 else some 0),
        vm.1 ≠ .fiveG := by decide +kernel
    constructor
    · exact ⟨List.range 512, rfl, nofun⟩
    · intro vm member fiveG
      exact absurd fiveG (others vm member)
    · decide +kernel
    · exact nofun
    · decide +kernel
  · intro gpus
    exact absurd (by decide +kernel) gpus

/-- The run returns, and the last VM has the broadcast address. -/
theorem manyRedis_broadcast :
    isVmAvailable manyRedisHost = true ∧ ¬ AddressesUsable manyRedisHost ∧
      ∃ s', generateCommands manyRedisHost = .ok () s' ∧ ¬ Usable (s'.created.map Image.ip) := by
  have many : 254 < manyRedisHost.maxVms := by decide
  refine ⟨by decide +kernel, not_addressesUsable many, ?_⟩
  obtain ⟨s', run⟩ := generateCommands_returns_iff.mpr manyRedis_provided
  refine ⟨s', run, ?_⟩
  have vms : (allServed manyRedisHost).length = 255 := by decide +kernel
  have number : s'.created.length = 255 :=
    (inStep_of_run run).lengths.trans ((length_testCommands run).trans vms)
  have ends := usable_endState_iff manyRedisHost
  rw [endState_of_ok run] at ends
  intro usable
  have few : s'.created.length ≤ 254 := ends.mp usable
  omega

end KvmWorkload.VmCloudInit
