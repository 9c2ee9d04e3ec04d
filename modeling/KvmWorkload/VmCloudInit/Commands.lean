import KvmWorkload.Lib.Exec
import KvmWorkload.VmCloudInit.CpuPool
import Mathlib.Algebra.Ring.Int.Defs
import Mathlib.Logic.Function.Basic

/-! # `generate_commands`

The run is a loop over sockets, tiles and VM numbers.  Every VM takes devices
and CPUs from lists that shrink, gets an image and an ISO, and adds one command
to each of the two lists.  An exception leaves the images made so far behind,
so the state at the exception is part of the result.
-/

namespace KvmWorkload.VmCloudInit

/-- The files and the address that `create_iso_centos` makes for a VM. -/
structure Image where
  isoName : Text
  ip : Text
  iso : Text
  golden : Text
  qcow2 : Text
  deriving DecidableEq

/-- An option of `network_cmd`. -/
inductive NetOption where
  | hostDevice (dev : Text)
  | bridge
  | ovsBridge
  deriving DecidableEq

/-- The argument of `--cpuset`: CPUs popped from the pool, or the range that `lscpu` prints. -/
inductive CpuSet where
  | ids (cpus : List Nat)
  | range (text : Text)
  deriving DecidableEq

/-- A `virt-install` command. -/
structure VirtInstall where
  name : Text
  memory : Int
  vcpus : Int
  osType : Bool
  qcow2 : Text
  iso : Option Text
  network : List NetOption
  /-- The `--host-device` options behind the network options. -/
  devices : List Text
  cpuset : Option CpuSet
  hostPassthrough : Bool
  nographics : Bool
  deriving DecidableEq

def NetOption.device : NetOption → Option Text
  | .hostDevice dev => some dev
  | .bridge => none
  | .ovsBridge => none

/-- All devices that the command passes through. -/
def VirtInstall.hostDevices (cmd : VirtInstall) : List Text :=
  cmd.network.filterMap NetOption.device ++ cmd.devices

/-- The variables of a run.  `V_PORT`, `QAT_VF_SOCKET` and `PT_Device` are popped in place;
    `storage_pt` and `gpu_pt` live on from VM to VM, and `gpu_pt` starts unbound. -/
structure St where
  execTasks : Tile → Nat
  ipCount : Nat
  ipSub : Nat
  pools : Pool → List Text
  storagePt : List Text
  gpuPt : Option Text
  cpupool : List Nat
  created : List Image
  testCommands : List VirtInstall
  testCommandsRemoveCd : List VirtInstall

abbrev Py := EStateM PyError St

def start (env : Env) : St where
  execTasks := fun _ => 1
  ipCount := 0
  ipSub := 123
  pools := env.pools
  storagePt := []
  gpuPt := none
  cpupool := []
  created := []
  testCommands := []
  testCommandsRemoveCd := []

def St.setPool (s : St) (pool : Pool) (devs : List Text) : St :=
  { s with pools := Function.update s.pools pool devs }

/-- `devices.pop()`. -/
def pop (pool : Pool) : Py Text := fun s =>
  match (s.pools pool).getLast? with
  | none => .error .indexError s
  | some dev => .ok dev (s.setPool pool (s.pools pool).dropLast)

/-- `devices.pop()` under `except IndexError`. -/
def tryPop (pool : Pool) : Py (Option Text) := fun s =>
  match pop pool s with
  | .error _ s' => .ok none s'
  | .ok dev s' => .ok (some dev) s'

/-- `cpupool.pop()`. -/
def popCpu : Py Nat := fun s =>
  match s.cpupool.getLast? with
  | none => .error .indexError s
  | some cpu => .ok cpu { s with cpupool := s.cpupool.dropLast }

def popCpus : Nat → Py (List Nat)
  | 0 => pure []
  | n + 1 => do
      let cpu ← popCpu
      let cpus ← popCpus n
      pure (cpu :: cpus)

/-- `list[i]`. -/
def index {α : Type} (list : List α) (i : Nat) : Py α :=
  match list[i]? with
  | none => throw .indexError
  | some x => pure x

/-- Appends `n` devices of `PT_Device["NVME"]` to `storage_pt`. -/
def attachNvme : Nat → Py Unit
  | 0 => pure ()
  | n + 1 => do
      let nvme ← pop .nvme
      modify fun s => { s with storagePt := s.storagePt ++ [nvme] }
      attachNvme n

/-- `"%02d"`. -/
def twoDigits (n : Nat) : Text := if n < 10 then '0' :: decimal n else decimal n

def isoName (tile : Tile) (tileNo : Nat) : Text := tile.lower ++ '-' :: twoDigits tileNo

theorem mem_twoDigits {n : Nat} {c : Char} (member : c ∈ twoDigits n) : c.isDigit := by
  unfold twoDigits at member
  split_ifs at member
  · cases member with
    | head => rfl
    | tail _ later => exact isDigit_of_mem_decimal later
  · exact isDigit_of_mem_decimal member

theorem not_mem_isoName {c : Char} (dash : c ≠ '-') (digit : c.isDigit = false) {tile : Tile}
    (absent : c ∉ tile.lower) (tileNo : Nat) : c ∉ isoName tile tileNo := by
  intro member
  rcases List.mem_append.mp member with inTile | inNumber
  · exact absent inTile
  · cases inNumber with
    | head => exact dash rfl
    | tail _ later => simp [mem_twoDigits later] at digit

theorem readDecimal_twoDigits (n : Nat) : readDecimal (twoDigits n) = n := by
  unfold twoDigits
  split_ifs
  · exact readDecimal_decimal n
  · exact readDecimal_decimal n

theorem isoName_injective {tile other : Tile} {tileNo number : Nat}
    (same : isoName tile tileNo = isoName other number) : tile = other ∧ tileNo = number := by
  have noDash : ∀ n, '-' ∉ twoDigits n := by
    intro n member
    exact absurd (mem_twoDigits member) (by decide)
  have digits := suffix_eq_of_sep (noDash tileNo) (noDash number) same
  constructor
  · have lower : tile.lower = other.lower := by
      unfold isoName at same
      rw [digits] at same
      exact List.append_cancel_right same
    exact Tile.lower_injective lower
  · rw [← readDecimal_twoDigits tileNo, digits, readDecimal_twoDigits]

/-- `"%s/%s/%s.<ext>" % (path_prefix, vm_storage, iso_name)`. -/
def storedAt (env : Env) (iso ext : Text) : Text :=
  env.pathPrefix ++ '/' :: env.vmStorage ++ '/' :: iso ++ '.' :: ext

/-- `"/%s/%s.<ext>" % (vm_storage, iso_name)`. -/
def storedAtRoot (env : Env) (iso ext : Text) : Text :=
  '/' :: env.vmStorage ++ '/' :: iso ++ '.' :: ext

/-- The image that is copied, chosen by what the ISO name contains. -/
def goldenImage (iso : Text) : Text :=
  if contains "qat".toList iso then "qat-golden-images.qcow2".toList
  else if contains "cpu_inference".toList iso then "cpu_inference_golden_vmimage.qcow2".toList
  else if contains "gpu_inference".toList iso then "cpu_inference_golden_vmimage.qcow2".toList
  else if contains "spec".toList iso then "spec-golden-image.qcow2".toList
  else if contains "5g".toList iso then "spr-emr-golden-image.qcow2".toList
  else "golden_vmimage.qcow2".toList

def createIsoCentos (env : Env) (iso : Text) (s : St) : St :=
  let ipSub := if s.ipCount > 254 then s.ipSub + 1 else s.ipSub
  let ipCount := (if s.ipCount > 254 then 0 else s.ipCount) + 1
  let image : Image :=
    { isoName := iso
      ip := "192.168.".toList ++ decimal ipSub ++ '.' :: decimal ipCount
      iso := storedAt env iso "iso".toList
      golden := goldenImage iso
      qcow2 :=
        if contains "qat".toList iso then storedAtRoot env iso "qcow2".toList
        else storedAt env iso "qcow2".toList }
  { s with ipCount, ipSub, created := s.created ++ [image] }

/-- `nic_dev`; an empty list of NICs is passed over. -/
def takeNic (env : Env) : Py (Option Text) :=
  if env.networking.pt = 1 then tryPop .nic else pure none

/-- `port_to_use`; SR-IOV together with PT is answered with `exit`. -/
def takePort (env : Env) (socket : Nat) : Py (Option Text) :=
  if env.networking.srIov = 1 then
    if env.networking.pt = 1 then throw .systemExit else some <$> pop (.vf socket)
  else pure none

/-- The networking part of the loop body: `network_cmd` for one VM. -/
def networkCmd (env : Env) (socket : Nat) : Py (List NetOption) := do
  let nicDev ← takeNic env
  let portToUse ← takePort env socket
  pure (portToUse.toList.map .hostDevice ++
    (if env.networking.bridge = 1 then [.bridge] else []) ++
    (if env.networking.ovsBridge = 1 then [.ovsBridge] else []) ++
    nicDev.toList.map .hostDevice)

/-- What the two commands of a branch share, unless the branch says otherwise. -/
def baseCommand (env : Env) (tile : Tile) (tileNo : Nat) (network : List NetOption) :
    VirtInstall where
  name := isoName tile tileNo
  memory := (tileResource tile).memory * 1024
  vcpus := (tileResource tile).vcpu
  osType := true
  qcow2 := storedAt env (isoName tile tileNo) "qcow2".toList
  iso := some (storedAt env (isoName tile tileNo) "iso".toList)
  network := network
  devices := []
  cpuset := none
  hostPassthrough := false
  nographics := true

def VirtInstall.removeCd (cmd : VirtInstall) : VirtInstall :=
  { cmd with iso := none, nographics := false }

/-- `cpu_set` of the tiles other than 5G. -/
def popTileCpus : Py CpuSet := .ids <$> popCpus (tileResource .qat).vcpu

/-- `len` of a missing list raises; an empty list is answered with `sys.exit`. -/
def popQat (env : Env) (socket : Nat) : Py Text := fun s =>
  match env.qatVfSocket socket with
  | none => .error .typeError s
  | some _ => if s.pools (.qat socket) = [] then .error .systemExit s else pop (.qat socket) s

def qatCommands (env : Env) (socket : Nat) (base : VirtInstall) :
    Py (VirtInstall × VirtInstall) := do
  let qatDeviceToUse ← popQat env socket
  let cpuset ← popTileCpus
  pure ({ base with devices := [qatDeviceToUse], cpuset := some cpuset },
    { base.removeCd with devices := [qatDeviceToUse] })

def cpuInferenceCommands (env : Env) (tileNo : Nat) (base : VirtInstall) :
    Py (VirtInstall × VirtInstall) := do
  let cpuset ← popTileCpus
  pure ({ base with
      osType := false
      iso := some (storedAtRoot env (isoName .cpuInference tileNo) "iso".toList)
      cpuset := some cpuset
      hostPassthrough := true },
    { base.removeCd with hostPassthrough := true })

/-- `n_vcpus` and the `--cpuset` of a 5G VM.  The first CPU is popped before the affinity is asked
    for. -/
def fiveGCpus (env : Env) (count : Nat) : Py (Int × CpuSet) := do
  let first ← popCpu
  let nVcpus ← index env.cpusPerVm count
  if env.cpuAffinity then
    (fun others => (nVcpus, .ids (first :: others))) <$> popCpus (nVcpus - 1).toNat
  else pure (nVcpus, .range env.node0Range)

def fiveGCommands (env : Env) (count : Nat) (base : VirtInstall) :
    Py (VirtInstall × VirtInstall) := do
  let (nVcpus, cpuset) ← fiveGCpus env count
  let vMemory ← index env.vmMemory count
  let vmName ← index env.workloadPerVm count
  modify fun s => { s with storagePt := [] }
  attachNvme ((← get).pools .nvme).length
  let storagePt := (← get).storagePt
  pure ({ base with
      name := env.lower vmName
      memory := vMemory * 1024
      vcpus := nVcpus
      osType := false
      devices := storagePt
      cpuset := some cpuset
      hostPassthrough := true },
    { base.removeCd with
      name := Tile.lower .fiveG
      memory := vMemory * 1024
      vcpus := nVcpus
      hostPassthrough := true })

/-- A use of `gpu_pt`. -/
def readGpuPt : Py Text := fun s =>
  match s.gpuPt with
  | none => .error .unboundLocalError s
  | some gpuPt => .ok gpuPt s

def gpuInferenceCommands (base : VirtInstall) : Py (VirtInstall × VirtInstall) := do
  let popped ← tryPop .gpu
  -- A failed pop leaves `gpu_pt` as the last VM set it.
  modify fun s => { s with gpuPt := popped.or s.gpuPt }
  let cpuset ← popTileCpus
  let gpuPt ← readGpuPt
  pure ({ base with devices := [gpuPt], cpuset := some cpuset, hostPassthrough := true },
    { base.removeCd with devices := [gpuPt], hostPassthrough := true })

def fioCommands (base : VirtInstall) : Py (VirtInstall × VirtInstall) := do
  -- `storage_pt` is appended to, not reset.
  attachNvme ((← get).pools .nvme).length
  let cpuset ← popTileCpus
  let storagePt := (← get).storagePt
  pure ({ base with devices := storagePt, cpuset := some cpuset, hostPassthrough := true },
    { base.removeCd with devices := storagePt, hostPassthrough := true })

def otherCommands (base : VirtInstall) : Py (VirtInstall × VirtInstall) := do
  let cpuset ← popTileCpus
  pure (base, { base.removeCd with cpuset := some cpuset })

def tileCommands (env : Env) (socket : Nat) (tile : Tile) (count tileNo : Nat)
    (network : List NetOption) : Py (VirtInstall × VirtInstall) :=
  let base := baseCommand env tile tileNo network
  match tile with
  | .qat => qatCommands env socket base
  | .cpuInference => cpuInferenceCommands env tileNo base
  | .fiveG => fiveGCommands env count base
  | .gpuInference => gpuInferenceCommands base
  | .fio => fioCommands base
  | .iperf => otherCommands base
  | .mlc => otherCommands base
  | .redis => otherCommands base
  | .sgx => otherCommands base
  | .spdk => otherCommands base
  | .spec => otherCommands base

/-- The end of the loop body. -/
def record (tile : Tile) (tileNo : Nat) (cmds : VirtInstall × VirtInstall) (s : St) : St :=
  { s with
    execTasks := Function.update s.execTasks tile (tileNo + 1)
    testCommands := s.testCommands ++ [cmds.1]
    testCommandsRemoveCd := s.testCommandsRemoveCd ++ [cmds.2] }

/-- The body of the innermost loop. -/
def createVm (env : Env) (socket : Nat) (tile : Tile) (count : Nat) : Py Unit := do
  let tileNo := (← get).execTasks tile
  let network ← networkCmd env socket
  modify (createIsoCentos env (isoName tile tileNo))
  let cmds ← tileCommands env socket tile count tileNo network
  modify (record tile tileNo cmds)

def tileLoop (env : Env) (socket : Nat) (tiles : Tiles) : Py Unit :=
  Tile.sorted.forM fun tile =>
    (List.range ((tiles tile).getD 0).toNat).forM fun count => createVm env socket tile count

def ofExcept {α : Type} (result : Except PyError α) : Py α := fun s =>
  match result with
  | .error e => .error e s
  | .ok a => .ok a s

/-- The body of the loop over the sockets, behind the test that the socket exists. -/
def visit (env : Env) (socket : Nat) (tiles : Tiles) : Py Unit := do
  let cpupool ← ofExcept (getCpuPool env socket)
  modify fun s => { s with cpupool }
  if env.networking.srIov = 1 then
    match env.vPort socket with
    | none => pure ()
    | some _ => do
        if env.assignRandom then
          modify fun s => s.setPool (.vf socket) (env.shuffle (s.pools (.vf socket)))
        tileLoop env socket tiles
  else tileLoop env socket tiles

/-- The loop over the sockets ends at the first one that does not exist. -/
def socketLoop (env : Env) : List (Nat × Tiles) → Py Unit
  | [] => pure ()
  | (socket, tiles) :: rest =>
      if socket < env.numSockets then do
        visit env socket tiles
        socketLoop env rest
      else pure ()

def generateCommands (env : Env) : EStateM.Result PyError St Unit :=
  socketLoop env env.sortedSockets (start env)

/-- `is_vm_available`. -/
def isVmAvailable (env : Env) : Bool :=
  let total := (env.tileMap.map fun entry =>
    (Tile.sorted.map fun tile => (entry.2 tile).getD 0).sum).sum
  decide (total ≤ env.maxVms)

end KvmWorkload.VmCloudInit
