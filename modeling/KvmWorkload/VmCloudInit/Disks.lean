import KvmWorkload.VmCloudInit.CreatedFiles
import KvmWorkload.VmCloudInit.Stops

/-! # One disk for each VM

The files of a VM are called after its tile and its number in `EXEC_TASKS`,
which counts the VMs of a tile over all sockets.  So no VM's files are written
over by a later VM, in runs that return and in runs that stop.
-/

namespace KvmWorkload.VmCloudInit

/-- What is made for VM number `tileNo` of a tile. -/
structure ImageOf (env : Env) (tile : Tile) (tileNo : Nat) (image : Image) : Prop where
  name : image.isoName = isoName tile tileNo
  iso : image.iso = storedAt env (isoName tile tileNo) "iso".toList
  qcow2 : image.qcow2 =
    if tile = .qat then storedAtRoot env (isoName tile tileNo) "qcow2".toList
    else storedAt env (isoName tile tileNo) "qcow2".toList

theorem created_withImage (env : Env) (tile : Tile) (s : St) :
    ∃ image, (s.withImage env tile).created = s.created ++ [image] ∧
      ImageOf env tile (s.execTasks tile) image := by
  refine ⟨_, rfl, rfl, rfl, ?_⟩
  simp only [contains_qat_isoName, decide_eq_true_eq]

section Locate

variable {Dir : Type} (fs : FileSystem Dir) {env : Env} {tile : Tile} {tileNo : Nat} {image : Image}

theorem ImageOf.locate_iso (made : ImageOf env tile tileNo image) :
    (fs.locate image.iso).2 = some (isoName tile tileNo ++ ".iso".toList) := by
  rw [made.iso, locate_storedAt fs env tile tileNo (by decide)]
  rfl

theorem ImageOf.locate_qcow2 (made : ImageOf env tile tileNo image) :
    (fs.locate image.qcow2).2 = some (isoName tile tileNo ++ ".qcow2".toList) := by
  rw [made.qcow2]
  split_ifs
  · rw [locate_storedAtRoot fs env tile tileNo (by decide)]
    rfl
  · rw [locate_storedAt fs env tile tileNo (by decide)]
    rfl

end Locate

/-- The width changes at 100. -/
example : isoName .redis 9 = "redis-09".toList ∧ isoName .redis 99 = "redis-99".toList ∧
    isoName .redis 100 = "redis-100".toList := by decide

/-- Names are distinct, and every name has a number that its tile has passed. -/
structure Numbered (env : Env) (s : St) : Prop where
  distinct : (s.created.map Image.isoName).Nodup
  passed : ∀ image ∈ s.created, ∃ tile tileNo, tileNo < s.execTasks tile ∧ ImageOf env tile tileNo image

/-- Names are distinct, and every image has one. -/
structure Named (env : Env) (images : List Image) : Prop where
  distinct : (images.map Image.isoName).Nodup
  named : ∀ image ∈ images, ∃ tile tileNo, ImageOf env tile tileNo image

theorem Numbered.named {env : Env} {s : St} (numbered : Numbered env s) : Named env s.created where
  distinct := numbered.distinct
  named := by
    intro image member
    obtain ⟨tile, tileNo, -, made⟩ := numbered.passed image member
    exact ⟨tile, tileNo, made⟩

/-- The next number of a tile gives a fresh name. -/
theorem Numbered.withImage {env : Env} {s : St} (numbered : Numbered env s) (tile : Tile) :
    Named env (s.withImage env tile).created := by
  obtain ⟨image, created, made⟩ := created_withImage env tile s
  rw [created]
  constructor
  · rw [List.map_append, List.map_singleton]
    apply numbered.distinct.append (List.nodup_singleton _)
    rw [List.disjoint_singleton]
    intro taken
    obtain ⟨other, member, same⟩ := List.mem_map.mp taken
    obtain ⟨tile', tileNo, earlier, made'⟩ := numbered.passed other member
    rw [made.name, made'.name] at same
    obtain ⟨rfl, rfl⟩ := isoName_injective same
    exact Nat.lt_irrefl _ earlier
  · intro other member
    rcases List.mem_append.mp member with before | last
    · exact numbered.named.named other before
    · rw [List.mem_singleton.mp last]
      exact ⟨tile, _, made⟩

theorem Numbered.step {env : Env} {socket : Nat} {tile : Tile} {count : Nat} {u : Unit} {s s' : St}
    (numbered : Numbered env s) (run : createVm env socket tile count s = .ok u s') : Numbered env s' := by
  obtain ⟨cmd, -, created, tasks, -⟩ := createVm_testCommand run
  have named := numbered.withImage tile
  obtain ⟨image, added, made⟩ := created_withImage env tile s
  have all : s'.created = s.created ++ [image] := created.trans added
  constructor
  · rw [created]
    exact named.distinct
  · intro other member
    rw [all] at member
    rw [tasks]
    rcases List.mem_append.mp member with before | last
    · obtain ⟨tile', tileNo, earlier, made'⟩ := numbered.passed other before
      refine ⟨tile', tileNo, Nat.lt_of_lt_of_le earlier ?_, made'⟩
      by_cases same : tile' = tile
      · subst same
        rw [Function.update_self]
        exact Nat.le_succ _
      · rw [Function.update_of_ne same]
    · rw [List.mem_singleton.mp last]
      refine ⟨tile, _, ?_, made⟩
      rw [Function.update_self]
      exact Nat.lt_succ_self _

theorem numbered_invariant (env : Env) :
    StopInvariant env (Numbered env) fun s => Named env s.created where
  enter := by
    intro socket pool s before _
    rw [enter_eq]
    exact ⟨before.distinct, before.passed⟩
  step := Numbered.step
  stop := by
    intro s t numbered same
    rw [created_of_output same]
    exact numbered.named
  stopImage := by
    intro tile s t numbered same
    rw [created_of_output same]
    exact numbered.withImage tile

theorem named_endState (env : Env) : Named env (endState env).created := by
  apply (numbered_invariant env).endState
  exact ⟨List.nodup_nil, List.forall_mem_nil _⟩

/-- The names are distinct, and so are the files, wherever the directories of the paths are. -/
structure DistinctDisks (images : List Image) : Prop where
  names : (images.map Image.isoName).Nodup
  isos : ∀ {Dir : Type} (fs : FileSystem Dir), (images.map fun image => fs.locate image.iso).Nodup
  qcow2s : ∀ {Dir : Type} (fs : FileSystem Dir), (images.map fun image => fs.locate image.qcow2).Nodup
  apart : ∀ {Dir : Type} (fs : FileSystem Dir), ∀ image ∈ images, ∀ other ∈ images,
    fs.locate image.iso ≠ fs.locate other.qcow2

theorem Named.nodup_map {env : Env} {images : List Image} (named : Named env images) {β : Type}
    {file : Image → β}
    (tells : ∀ {tile tile' tileNo tileNo' image image'}, ImageOf env tile tileNo image →
      ImageOf env tile' tileNo' image' → file image = file image' →
        isoName tile tileNo = isoName tile' tileNo') :
    (images.map file).Nodup := by
  have images_nodup : images.Nodup := List.Nodup.of_map _ named.distinct
  rw [List.nodup_map_iff_inj_on images_nodup]
  intro image member image' member' same
  obtain ⟨tile, tileNo, made⟩ := named.named image member
  obtain ⟨tile', tileNo', made'⟩ := named.named image' member'
  apply List.inj_on_of_nodup_map named.distinct member member'
  rw [made.name, made'.name]
  exact tells made made' same

/-- However many VMs are asked for and wherever the run ends, every VM has files of its own. -/
theorem endState_distinctDisks (env : Env) : DistinctDisks (endState env).created := by
  have named := named_endState env
  constructor
  · exact named.distinct
  · intro Dir fs
    apply named.nodup_map
    intro tile tile' tileNo tileNo' image image' made made' same
    have files := congrArg Prod.snd same
    rw [made.locate_iso fs, made'.locate_iso fs] at files
    exact List.append_cancel_right (Option.some.inj files)
  · intro Dir fs
    apply named.nodup_map
    intro tile tile' tileNo tileNo' image image' made made' same
    have files := congrArg Prod.snd same
    rw [made.locate_qcow2 fs, made'.locate_qcow2 fs] at files
    exact List.append_cancel_right (Option.some.inj files)
  · intro Dir fs image member other member' same
    obtain ⟨tile, tileNo, made⟩ := named.named image member
    obtain ⟨tile', tileNo', made'⟩ := named.named other member'
    have files := congrArg Prod.snd same
    rw [made.locate_iso fs, made'.locate_qcow2 fs] at files
    have last := congrArg List.getLast? (Option.some.inj files)
    simp at last

end KvmWorkload.VmCloudInit
