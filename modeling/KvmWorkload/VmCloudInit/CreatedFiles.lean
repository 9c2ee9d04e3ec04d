import KvmWorkload.Lib.Lists
import KvmWorkload.Lib.Paths
import KvmWorkload.VmCloudInit.Runs

/-! # The files that a command refers to

`create_iso_centos` and the branches of `generate_commands` write the paths of
the image and of the ISO independently.  Both put them under `path_prefix`,
with one exception each: the image of a QAT VM is copied to `/vm_storage`, and
the command of a CPU_INFERENCE VM looks for its ISO there.
-/

namespace KvmWorkload.VmCloudInit

theorem contains_qat_isoName (tile : Tile) (tileNo : Nat) :
    contains "qat".toList (isoName tile tileNo) = decide (tile = .qat) := by
  by_cases isQat : tile = .qat
  · subst isQat
    have start : "qat".toList <:+: isoName .qat tileNo := (List.prefix_append _ _).isInfix
    simpa [contains] using start
  · have absent : 'q' ∉ tile.lower := by
      cases tile with
      | qat => exact absurd rfl isQat
      | _ => decide
    have outside := not_mem_isoName (by decide) (by decide) absent tileNo
    have never : ¬ "qat".toList <:+: isoName tile tileNo :=
      not_infix_of_not_mem (by decide) outside
    simpa [contains, isQat] using never

section Locate

variable {Dir : Type} (fs : FileSystem Dir) (env : Env)

/-- `path_prefix/vm_storage`. -/
def storage : Text := env.pathPrefix ++ '/' :: env.vmStorage

/-- `/vm_storage`. -/
def rootStorage : Text := '/' :: env.vmStorage

/-- The directory under `path_prefix` is the one under the root. -/
def SameStorage : Prop := fs.directory (storage env) = fs.directory (rootStorage env)

theorem not_mem_fileName (tile : Tile) (tileNo : Nat) {ext : Text} (clean : '/' ∉ ext) :
    '/' ∉ isoName tile tileNo ++ '.' :: ext := by
  have absent : '/' ∉ tile.lower := by cases tile <;> decide
  have outside := not_mem_isoName (by decide) (by decide) absent tileNo
  simp [outside, clean]

theorem locate_fileName {dir : Text} (some_dir : dir ≠ []) (tile : Tile) (tileNo : Nat) {ext : Text}
    (clean : '/' ∉ ext) :
    fs.locate (dir ++ '/' :: (isoName tile tileNo ++ '.' :: ext)) =
      (fs.directory dir, some (isoName tile tileNo ++ '.' :: ext)) :=
  fs.locate_join some_dir (not_mem_fileName tile tileNo clean) (by simp)

theorem locate_storedAt (tile : Tile) (tileNo : Nat) {ext : Text} (clean : '/' ∉ ext) :
    fs.locate (storedAt env (isoName tile tileNo) ext) =
      (fs.directory (storage env), some (isoName tile tileNo ++ '.' :: ext)) := by
  rw [← locate_fileName fs (by simp [storage]) tile tileNo clean]
  simp [storedAt, storage]

theorem locate_storedAtRoot (tile : Tile) (tileNo : Nat) {ext : Text} (clean : '/' ∉ ext) :
    fs.locate (storedAtRoot env (isoName tile tileNo) ext) =
      (fs.directory (rootStorage env), some (isoName tile tileNo ++ '.' :: ext)) := by
  rw [← locate_fileName fs (by simp [rootStorage]) tile tileNo clean]
  simp [storedAtRoot, rootStorage]

end Locate

/-- The paths of a VM, in the image that is made for it and in its test command. -/
structure FilesOf (env : Env) (tile : Tile) (tileNo : Nat) (image : Image) (cmd : VirtInstall) :
    Prop where
  imageIso : image.iso = storedAt env (isoName tile tileNo) "iso".toList
  imageQcow2 : image.qcow2 =
    if tile = .qat then storedAtRoot env (isoName tile tileNo) "qcow2".toList
    else storedAt env (isoName tile tileNo) "qcow2".toList
  cmdQcow2 : cmd.qcow2 = storedAt env (isoName tile tileNo) "qcow2".toList
  cmdIso : cmd.iso = some
    (if tile = .cpuInference then storedAtRoot env (isoName tile tileNo) "iso".toList
     else storedAt env (isoName tile tileNo) "iso".toList)

theorem createIsoCentos_created (env : Env) (tile : Tile) (tileNo : Nat) (s : St) :
    ∃ image : Image, (createIsoCentos env (isoName tile tileNo) s).created = s.created ++ [image] ∧
      image.iso = storedAt env (isoName tile tileNo) "iso".toList ∧
      image.qcow2 =
        if tile = .qat then storedAtRoot env (isoName tile tileNo) "qcow2".toList
        else storedAt env (isoName tile tileNo) "qcow2".toList := by
  refine ⟨_, rfl, rfl, ?_⟩
  simp only [contains_qat_isoName, decide_eq_true_eq]

theorem createVm_files {env : Env} {socket : Nat} {tile : Tile} {count : Nat} {u : Unit} {s s' : St}
    (run : createVm env socket tile count s = .ok u s') :
    ∃ image cmd, s'.created = s.created ++ [image] ∧ s'.testCommands = s.testCommands ++ [cmd] ∧
      FilesOf env tile (s.execTasks tile) image cmd := by
  obtain ⟨cmd, commands, created, -, command⟩ := createVm_testCommand run
  obtain ⟨image, made, iso, qcow2⟩ := createIsoCentos_created env tile (s.execTasks tile) s
  exact ⟨image, cmd, created.trans made, commands, iso, qcow2, command.qcow2, command.iso⟩

/-- The command names the files that were created. -/
def Refers {Dir : Type} (fs : FileSystem Dir) (image : Image) (cmd : VirtInstall) : Prop :=
  fs.locate cmd.qcow2 = fs.locate image.qcow2 ∧ cmd.iso.map fs.locate = some (fs.locate image.iso)

instance {Dir : Type} [DecidableEq Dir] (fs : FileSystem Dir) (image : Image) (cmd : VirtInstall) :
    Decidable (Refers fs image cmd) :=
  inferInstanceAs (Decidable (_ ∧ _))

theorem FilesOf.refers_iff {Dir : Type} (fs : FileSystem Dir) {env : Env} {tile : Tile} {tileNo : Nat}
    {image : Image} {cmd : VirtInstall} (files : FilesOf env tile tileNo image cmd) :
    Refers fs image cmd ↔ SameStorage fs env ∨ tile ≠ .qat ∧ tile ≠ .cpuInference := by
  unfold Refers SameStorage
  rw [files.imageIso, files.imageQcow2, files.cmdQcow2, files.cmdIso]
  by_cases isQat : tile = .qat
  · subst isQat
    simp [locate_storedAt, locate_storedAtRoot]
  · by_cases isInference : tile = .cpuInference
    · subst isInference
      simp [locate_storedAt, locate_storedAtRoot, eq_comm]
    · simp [isQat, isInference]

/-- Images and test commands are made in step, one of each for every VM. -/
structure InStep (env : Env) (vms : List (Tile × Nat)) (s : St) : Prop where
  lengths : s.created.length = s.testCommands.length
  files : List.Forall₂ (fun vm made => ∃ tileNo, FilesOf env vm.1 tileNo made.1 made.2) vms
    (s.created.zip s.testCommands)

theorem inStep_invariant (env : Env) : RunInvariant env (InStep env) where
  enter := by
    intro done socket pool s before _
    rw [enter_eq]
    exact ⟨before.lengths, before.files⟩
  step := by
    intro done socket tile count s s' before run
    obtain ⟨image, cmd, created, commands, files⟩ := createVm_files run
    constructor
    · simp [created, commands, before.lengths]
    · rw [created, commands]
      exact forall₂_zip_concat before.lengths before.files ⟨_, files⟩

theorem inStep_of_run {env : Env} {s' : St} (run : generateCommands env = .ok () s') :
    InStep env (allServed env) s' :=
  (inStep_invariant env).generateCommands ⟨rfl, .nil⟩ run

/-- The commands of a run refer to the files that were created for their VMs exactly when the two
    storage directories are one, or no VM is of a tile whose paths are written differently. -/
theorem commands_refer_iff {Dir : Type} (fs : FileSystem Dir) {env : Env} {s' : St}
    (run : generateCommands env = .ok () s') :
    List.Forall₂ (Refers fs) s'.created s'.testCommands ↔
      SameStorage fs env ∨ ∀ vm ∈ allServed env, vm.1 ≠ .qat ∧ vm.1 ≠ .cpuInference := by
  have inStep := inStep_of_run run
  have each : List.Forall₂
      (fun vm made => (SameStorage fs env ∨ vm.1 ≠ .qat ∧ vm.1 ≠ .cpuInference) ↔
        Refers fs made.1 made.2) (allServed env) (s'.created.zip s'.testCommands) :=
    inStep.files.imp fun vm made ⟨tileNo, files⟩ => (files.refers_iff fs).symm
  have paired : List.Forall₂ (Refers fs) s'.created s'.testCommands ↔
      ∀ made ∈ s'.created.zip s'.testCommands, Refers fs made.1 made.2 := by
    rw [List.forall₂_iff_zip, and_iff_right inStep.lengths, Prod.forall]
  rw [paired, ← forall_mem_iff_of_forall₂ each]
  by_cases same : SameStorage fs env
  · simp [same]
  · simp [same]

/-- A host that is asked for one VM, with `path_prefix` `/home`. -/
def soleVm (tile : Tile) : Env := Env.oneSocket 4 fun other => if other = tile then some 1 else some 0

theorem soleVm_redis_refers : ∃ s', generateCommands (soleVm .redis) = .ok () s' ∧
    List.Forall₂ (Refers .plain) s'.created s'.testCommands := by
  obtain ⟨s', run⟩ : ∃ s', generateCommands (soleVm .redis) = .ok () s' :=
    exists_ok_of_isSome (by decide +kernel)
  have others : ∀ vm ∈ allServed (soleVm .redis), vm.1 ≠ .qat ∧ vm.1 ≠ .cpuInference := by
    decide +kernel
  exact ⟨s', run, (commands_refer_iff .plain run).mpr (.inr others)⟩

/-- The command looks for `/vmimages2/cpu_inference-01.iso`, which is made under `/home`. -/
theorem soleVm_inference_not_refers : ∃ s', generateCommands (soleVm .cpuInference) = .ok () s' ∧
    ¬ List.Forall₂ (Refers .plain) s'.created s'.testCommands := by
  have missed : (finalState (generateCommands (soleVm .cpuInference))).map (fun s =>
      (s.created.zip s.testCommands).map fun made => decide (Refers .plain made.1 made.2)) =
      some [false] := by decide +kernel
  obtain ⟨s', run, missed⟩ := exists_ok_of_view missed
  refine ⟨s', run, ?_⟩
  intro refer
  obtain ⟨made, zipped, wrong⟩ := List.map_eq_singleton_iff.mp missed
  have member : (made.1, made.2) ∈ s'.created.zip s'.testCommands := by simp [zipped]
  exact of_decide_eq_false wrong ((List.forall₂_iff_zip.mp refer).2 member)

end KvmWorkload.VmCloudInit
