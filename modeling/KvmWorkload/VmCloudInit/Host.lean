import KvmWorkload.Lib.Fields

/-! # What vm_cloud-init.py is given

The tiles and their resources, the devices that can be passed through, and the
host that the script finds: sockets, CPU listings and the configuration file.
Golden images are taken to be in place, so nothing is downloaded.
-/

namespace KvmWorkload.VmCloudInit

/-- The kinds of VM. -/
inductive Tile where
  | fiveG
  | cpuInference
  | fio
  | gpuInference
  | iperf
  | mlc
  | qat
  | redis
  | sgx
  | spdk
  | spec
  deriving DecidableEq

namespace Tile

def name : Tile → Text
  | .fiveG => "5G".toList
  | .cpuInference => "CPU_INFERENCE".toList
  | .fio => "FIO".toList
  | .gpuInference => "GPU_INFERENCE".toList
  | .iperf => "IPERF".toList
  | .mlc => "MLC".toList
  | .qat => "QAT".toList
  | .redis => "REDIS".toList
  | .sgx => "SGX".toList
  | .spdk => "SPDK".toList
  | .spec => "SPEC".toList

/-- `tile.lower()`. -/
def lower (tile : Tile) : Text := tile.name.map Char.toLower

/-- `sorted(tiles.keys())`, when every tile is a key. -/
def sorted : List Tile :=
  [.fiveG, .cpuInference, .fio, .gpuInference, .iperf, .mlc, .qat, .redis, .sgx, .spdk, .spec]

theorem mem_sorted (tile : Tile) : tile ∈ sorted := by cases tile <;> decide

theorem lower_injective {tile other : Tile} (same : tile.lower = other.lower) : tile = other := by
  have distinct : (sorted.map lower).Nodup := by decide
  exact List.inj_on_of_nodup_map distinct (mem_sorted tile) (mem_sorted other) same

end Tile

/-- An entry of `Tile_Resource`. -/
structure Resource where
  vcpu : Nat
  memory : Nat

/-- `Tile_Resource`. -/
def tileResource : Tile → Resource
  | .redis => ⟨2, 4⟩
  | .qat => ⟨2, 4⟩
  | .sgx => ⟨56, 250⟩
  | .mlc => ⟨56, 250⟩
  | .fio => ⟨4, 8⟩
  | .iperf => ⟨6, 16⟩
  | .cpuInference => ⟨112, 12⟩
  | .gpuInference => ⟨8, 20⟩
  | .spdk => ⟨8, 12⟩
  | .spec => ⟨4, 4⟩
  | .fiveG => ⟨20, 8⟩

/-- An entry of `Tile_Map`: how many VMs of each tile, `none` where the tile is not a key. -/
abbrev Tiles := Tile → Option Int

/-- The tiles of a socket that has 5G VMs only. -/
def fiveGTiles (fiveG : Int) : Tiles := fun tile => some (if tile = .fiveG then fiveG else 0)

/-- A key of `Tile_Map`, `V_PORT` and `QAT_VF_SOCKET`. -/
def socketName (socket : Nat) : Text := "SOCKET".toList ++ decimal socket

/-- The lists that devices are popped from. -/
inductive Pool where
  | gpu
  | nic
  | nvme
  | vf (socket : Nat)
  | qat (socket : Nat)
  deriving DecidableEq

/-- `Networking`; a mode is used when its number is 1. -/
structure Networking where
  srIov : Int
  bridge : Int
  ovsBridge : Int
  pt : Int

/-- Everything that `generate_commands` reads. -/
structure Env where
  tileMap : List (Nat × Tiles)
  /-- `Tile_Map` is a dictionary. -/
  distinctSockets : (tileMap.map Prod.fst).Nodup
  numSockets : Nat
  maxVms : Int
  ht : Bool
  /-- The CPU ids in the line `node <socket> cpus:` of `numactl -H`, if there is such a line. -/
  numactl : Nat → Option (List Nat)
  networking : Networking
  ptGpu : List Text
  ptNic : List Text
  ptNvme : List Text
  vPort : Nat → Option (List Text)
  qatVfSocket : Nat → Option (List Text)
  cpusPerVm : List Int
  workloadPerVm : List Text
  /-- `str.lower`. -/
  lower : Text → Text
  vmMemory : List Int
  cpuAffinity : Bool
  /-- What `lscpu | grep node0 | cut -d: -f2 | cut -d, -f1` prints. -/
  node0Range : Text
  vmStorage : Text
  pathPrefix : Text
  assignRandom : Bool
  shuffle : List Text → List Text
  shuffle_perm : ∀ ports, (shuffle ports).Perm ports

namespace Env

theorem nodup_soleSocket : ([0] : List Nat).Nodup := List.nodup_singleton 0

/-- A host with the CPUs `0`, ..., `cpus - 1` on one socket, a bridge and no devices. -/
def oneSocket (cpus : Nat) (tiles : Tiles) : Env where
  tileMap := [(0, tiles)]
  distinctSockets := nodup_soleSocket
  numSockets := 1
  maxVms := cpus
  ht := false
  numactl := fun socket => if socket = 0 then some (List.range cpus) else none
  networking := ⟨0, 1, 0, 0⟩
  ptGpu := []
  ptNic := []
  ptNvme := []
  vPort := fun _ => none
  qatVfSocket := fun _ => none
  cpusPerVm := []
  workloadPerVm := []
  lower := List.map Char.toLower
  vmMemory := []
  cpuAffinity := true
  node0Range := rangeText 0 (cpus - 1)
  vmStorage := "vmimages2".toList
  pathPrefix := "/home".toList
  assignRandom := false
  shuffle := id
  shuffle_perm := List.Perm.refl

/-- The lists of devices as the run finds them. -/
def pools (env : Env) : Pool → List Text
  | .gpu => env.ptGpu
  | .nic => env.ptNic
  | .nvme => env.ptNvme
  | .vf socket => (env.vPort socket).getD []
  | .qat socket => (env.qatVfSocket socket).getD []

/-- `sorted(Tile_Map.keys())`: sockets in the order of their names, so 10 comes before 2. -/
def sortedSockets (env : Env) : List (Nat × Tiles) :=
  env.tileMap.insertionSort fun a b => ¬ socketName b.1 < socketName a.1

end Env

/-- The exceptions that end a run. -/
inductive PyError where
  | indexError
  | typeError
  | unboundLocalError
  | systemExit
  deriving DecidableEq

end KvmWorkload.VmCloudInit
