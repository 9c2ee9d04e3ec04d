import KvmWorkload.Lib.Exec
import KvmWorkload.MemcRedis.Launchers
import Mathlib.Data.Finset.Card

/-! # Half of the ports

With `half_top` and `half_bottom` the end of the port range, or its start, is
computed with `/`.  The range is right as a number, but in Python 3 it is a
float, and `range` takes ints only.
-/

namespace KvmWorkload.MemcRedis

section Division

variable (divide : Nat → Nat → Number)

/-- Both halves are launched, and they split the ports of `n` servers evenly. -/
def HalfPortSplit (options : Options) (n : Nat) : Prop :=
  ∃ top bottom, runMemtierWith divide { options with percentport := .halfTop } = .ok top ∧
    runMemtierWith divide { options with percentport := .halfBottom } = .ok bottom ∧
    (top.map Client.port).Disjoint (bottom.map Client.port) ∧
    (∀ port, port ∈ top.map Client.port ∨ port ∈ bottom.map Client.port ↔
      options.serverport ≤ port ∧ port < options.serverport + n) ∧
    (top.map Client.port).toFinset.card ≤ (bottom.map Client.port).toFinset.card + 1 ∧
    (bottom.map Client.port).toFinset.card ≤ (top.map Client.port).toFinset.card + 1

end Division

theorem rangeArgument_halfTop (servport corenum : Nat) :
    rangeArgument (portBounds trueDivision .halfTop servport corenum).2 = .error .typeError := by
  unfold portBounds
  split_ifs
  · rfl
  · rfl

theorem rangeArgument_halfBottom (servport corenum : Nat) :
    rangeArgument (portBounds trueDivision .halfBottom servport corenum).1 = .error .typeError := by
  unfold portBounds
  split_ifs
  · rfl
  · rfl

theorem runMemtierWith_half {options : Options} {servercores clientcores : List Nat}
    (servers : getCoreList options.servercores = .ok servercores)
    (cores : getCoreList options.clientcores = .ok clientcores)
    (half : options.percentport = .halfTop ∨ options.percentport = .halfBottom) :
    runMemtierWith trueDivision options = .error .typeError := by
  unfold runMemtierWith
  rw [servers, cores]
  cases half with
  | inl top =>
      have stop := rangeArgument_halfTop options.serverport servercores.length
      have start : rangeArgument
          (portBounds trueDivision .halfTop options.serverport servercores.length).1 =
            .ok options.serverport := by
        unfold portBounds
        split_ifs
        · rfl
        · rfl
      simp only [top, bind, Except.bind, start, stop]
  | inr bottom =>
      have start := rangeArgument_halfBottom options.serverport servercores.length
      simp only [bottom, bind, Except.bind, start]

/-- In Python 3 neither half is ever launched, whatever the ports and however many cores there are. -/
theorem not_halfPortSplit (options : Options) (n : Nat) : ¬ HalfPortSplit trueDivision options n := by
  rintro ⟨top, -, run, -⟩
  obtain ⟨servercores, -, run⟩ := except_bind_ok.mp run
  obtain ⟨clientcores, -, run⟩ := except_bind_ok.mp run
  obtain ⟨startport, -, run⟩ := except_bind_ok.mp run
  obtain ⟨endport, argument, -⟩ := except_bind_ok.mp run
  rw [rangeArgument_halfTop] at argument
  cases argument

/-- Four redis servers from port 9001 on. -/
def fourServers : Options where
  serverport := 9001
  servercores := "0-3".toList
  clientcores := "8-11".toList
  percentport := .halfTop
  ratio := "1:4".toList

/-- Two client cores would be enough for each half, and there are four. -/
theorem fourServers_not_split :
    runMemtierWith trueDivision fourServers = .error .typeError ∧
      runMemtierWith trueDivision { fourServers with percentport := .halfBottom } = .error .typeError ∧
      ¬ HalfPortSplit trueDivision fourServers 4 := by
  have servers : getCoreList fourServers.servercores = .ok [0, 1, 2, 3] := by decide
  have cores : getCoreList fourServers.clientcores = .ok [8, 9, 10, 11] := by decide
  have top : runMemtierWith trueDivision fourServers = .error .typeError :=
    runMemtierWith_half servers cores (.inl rfl)
  refine ⟨top, runMemtierWith_half servers cores (.inr rfl), ?_⟩
  rintro ⟨clients, -, run, -⟩
  have raised := top.symm.trans run
  cases raised

/-- The first port of the bottom half. -/
def middlePort (servport corenum : Nat) : Nat := servport + (corenum + 1) / 2

theorem portBounds_floor_top {corenum : Nat} (some : 1 ≤ corenum) (servport : Nat) :
    portBounds floorDivision .halfTop servport corenum =
      (.int servport, .int (middlePort servport corenum)) := by
  unfold portBounds floorDivision Number.add middlePort
  split_ifs with even
  · have half : corenum / 2 = (corenum + 1) / 2 := by omega
    rw [half]
  · have half : (corenum - 1) / 2 + 1 = (corenum + 1) / 2 := by omega
    rw [← half]
    rfl

theorem portBounds_floor_bottom {corenum : Nat} (some : 1 ≤ corenum) (servport : Nat) :
    portBounds floorDivision .halfBottom servport corenum =
      (.int (middlePort servport corenum), .int (servport + corenum)) := by
  unfold portBounds floorDivision Number.add middlePort
  split_ifs with even
  · have half : corenum / 2 = (corenum + 1) / 2 := by omega
    rw [half]
  · have half : (corenum - 1) / 2 + 1 = (corenum + 1) / 2 := by omega
    rw [← half]
    rfl

theorem ports_single (clientcores : List Nat) (startport endport : Nat)
    (enough : endport - startport ≤ clientcores.length) :
    ∃ clients, singleclientperserver clientcores startport endport = .ok clients ∧
      clients.map Client.port = List.range' startport (endport - startport) := by
  have cores : (List.range' startport (endport - startport)).length ≤ clientcores.reverse.length := by
    simpa using enough
  exact ⟨_, singleLoop_ok_iff.mpr ⟨cores, rfl⟩, map_port_zipWith cores⟩

/-- The arithmetic is right: with integer division the same bounds split the ports, given a client
    core for every port of the larger half. -/
theorem halfPortSplit_floorDivision {options : Options} {servercores clientcores : List Nat}
    (servers : getCoreList options.servercores = .ok servercores)
    (cores : getCoreList options.clientcores = .ok clientcores) (some : 1 ≤ servercores.length)
    (enough : (servercores.length + 1) / 2 ≤ clientcores.length) :
    HalfPortSplit floorDivision options servercores.length := by
  have middle : middlePort options.serverport servercores.length =
      options.serverport + (servercores.length + 1) / 2 := rfl
  obtain ⟨top, runTop, portsTop⟩ := ports_single clientcores options.serverport
    (middlePort options.serverport servercores.length) (by omega)
  obtain ⟨bottom, runBottom, portsBottom⟩ := ports_single clientcores
    (middlePort options.serverport servercores.length) (options.serverport + servercores.length) (by omega)
  have cardTop : (top.map Client.port).toFinset.card = (servercores.length + 1) / 2 := by
    rw [portsTop, List.toFinset_card_of_nodup List.nodup_range', List.length_range']
    omega
  have cardBottom : (bottom.map Client.port).toFinset.card = servercores.length / 2 := by
    rw [portsBottom, List.toFinset_card_of_nodup List.nodup_range', List.length_range']
    omega
  refine ⟨top, bottom, ?_, ?_, ?_, ?_, ?_, ?_⟩
  · unfold runMemtierWith
    simp only [servers, cores, portBounds_floor_top some, rangeArgument, bind, Except.bind]
    exact runTop
  · unfold runMemtierWith
    simp only [servers, cores, portBounds_floor_bottom some, rangeArgument, bind, Except.bind]
    exact runBottom
  · rw [portsTop, portsBottom]
    intro port left right
    rw [List.mem_range'_1] at left right
    omega
  · intro port
    rw [portsTop, portsBottom, List.mem_range'_1, List.mem_range'_1]
    omega
  · omega
  · omega

end KvmWorkload.MemcRedis
