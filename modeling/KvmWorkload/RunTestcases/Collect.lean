import KvmWorkload.Lib.Dict
import KvmWorkload.Lib.Lists
import KvmWorkload.RunTestcases.VmNames

/-! # Collecting the results of the VMs

`run_exp_vm` starts one workload in each VM in the background and notes under the
name of the result file in which VM it will be.  When all jobs are done, in
whatever order, `copy_result_from_vms` fetches every file that was noted.  Two VMs
whose result files have the same name share one note, and not every script writes
the file whose name it is given.
-/

namespace KvmWorkload.RunTestcases.Collect

/-- A running VM. -/
structure Guest where
  wl : Workload
  range : CoreRange
  ip : Text

/-- The scripts that write the file whose name they get.  run_stressapp.sh never uses the name, and where no
    arm of the `case` matches there is no script to call. -/
def writing : List Text :=
  ["run_mlc.sh".toList, "run_rn50.sh".toList, "run_redis.sh".toList, "run_memcache.sh".toList,
   "run_ffmpeg_baremetal.sh".toList, "run_rnnt.sh".toList, "run_speccpu.sh".toList, "run_3dunet.sh".toList,
   "run_spdk_fio.sh".toList, "run_nginx.sh".toList, "run_spdk-rdma.sh".toList]

namespace Guest

def name (guest : Guest) : Text := vmName guest.wl guest.range

/-- The result file that is noted for the VM, if a workload is started. -/
def resultFile (fileSuffix : Text) (guest : Guest) : Option Text :=
  (runExpVm fileSuffix guest.name).map Decoded.resultFile

/-- The result file that the workload writes. -/
def written (fileSuffix : Text) (guest : Guest) : Option Text :=
  ((runExpVm fileSuffix guest.name).filter fun run => writing.contains run.script).map Decoded.resultFile

end Guest

/-- `result_file_ip`. -/
def resultFileIp (fileSuffix : Text) (guests : List Guest) : Dict Text Text :=
  guests.foldl (fun dict guest => (guest.resultFile fileSuffix).elim dict fun file => dict.set file guest.ip) .empty

/-- The background jobs: where each writes, and whose result it writes there. -/
def jobs (fileSuffix : Text) (guests : List Guest) : List ((Text × Text) × Guest) :=
  guests.filterMap fun guest => (guest.written fileSuffix).map fun file => ((guest.ip, file), guest)

/-- The disks of the VMs when all jobs are done. -/
def disksAfter (finished : List ((Text × Text) × Guest)) (disks : Text × Text → Option Guest) :
    Text × Text → Option Guest :=
  applySettings (finished.map fun job => (job.1, some job.2)) disks

/-- One turn of `copy_result_from_vms`; a file that is not there leaves the directory as it is. -/
def copyResult (resultFileIp : Dict Text Text) (disks : Text × Text → Option Guest) (resDir : Text → Option Guest)
    (resultFile : Text) : Text → Option Guest :=
  match (resultFileIp.get? resultFile).bind fun vmIp => disks (vmIp, resultFile) with
  | some result => Function.update resDir resultFile (some result)
  | none => resDir

/-- `copy_result_from_vms`; the shell lists the keys in an order of its own. -/
def copyResultFromVms (resultFileIp : Dict Text Text) (disks : Text × Text → Option Guest) (keys : List Text)
    (resDir : Text → Option Guest) : Text → Option Guest :=
  keys.foldl (copyResult resultFileIp disks) resDir

/-- The specifications for which `run_exp_vm` notes a result file under the workload's own name. -/
def Startable : Workload → Prop
  | .plain w => ¬ "speccpu".toList <:+: w.text
  | .speccpu benchmark iterations asm => ReachesSpeccpu (.speccpu benchmark iterations asm)

/-- The VMs of a configuration. -/
structure Fleet where
  guests : List Guest
  ips : (guests.map Guest.ip).Nodup
  ranges : (guests.map Guest.range).Nodup
  startable : ∀ guest ∈ guests, Startable guest.wl

/-- Both run one benchmark, without an assembly variant. -/
def SameBenchmark : Workload → Workload → Prop
  | .speccpu benchmark _ none, .speccpu benchmark' _ none => benchmark.text = benchmark'.text
  | _, _ => False

/-- Where a `speccpu` specification has no assembly variant, the range is looked for in vain. -/
def fileOf (fileSuffix : Text) (guest : Guest) : Text :=
  match guest.wl with
  | .plain w => w.text ++ '_' :: guest.range.text ++ '_' :: fileSuffix ++ "_rep_1".toList
  | .speccpu benchmark _ none => benchmark.text ++ '_' :: ['-'] ++ '_' :: fileSuffix ++ "_1".toList
  | .speccpu benchmark _ (some _) => benchmark.text ++ '_' :: guest.range.text ++ '_' :: fileSuffix ++ "_1".toList

theorem resultStem_range (name : Text) (range : CoreRange) (fileSuffix : Text) :
    resultStem name (cut '-' 1 range.text) (cut '-' 2 range.text) fileSuffix =
      name ++ '_' :: range.text ++ '_' :: fileSuffix := by
  rw [range.cut_lo, range.cut_hi]
  rfl

theorem resultFile_eq (fileSuffix : Text) {guest : Guest} (startable : Startable guest.wl) :
    guest.resultFile fileSuffix = some (fileOf fileSuffix guest) := by
  obtain ⟨wl, range, ip⟩ := guest
  rw [Guest.resultFile, Guest.name, fileOf]
  dsimp only at startable ⊢
  cases wl with
  | plain w =>
      have absent : contains "speccpu".toList (vmName (.plain w) range) = false := by
        rw [← Bool.not_eq_true, contains_speccpu, Workload.text_plain]
        exact startable
      have first : cut ':' 1 (vmName (.plain w) range) = w.text := cut_vmName (.plain w) range 1
      have second : cut ':' 2 (vmName (.plain w) range) = range.text := cut_vmName (.plain w) range 2
      cases arm : caseArm (vmName (.plain w) range) with
      | speccpu => exact absurd ((contains_of_caseArm arm).symm.trans absent) Bool.true_eq_false.mp
      | script name =>
          rw [runExpVm, arm]
          dsimp only
          rw [absent, if_neg Bool.false_ne_true, first, second, resultStem_range, Option.map_some]
  | speccpu benchmark iterations asm =>
      have arm := (caseArm_speccpu_iff _ range (speccpu_mem_text benchmark iterations asm)).mpr startable
      have second : cut ':' 2 (vmName (.speccpu benchmark iterations asm) range) = benchmark.text := by
        rw [cut_vmName]
        cases asm <;> rfl
      rw [runExpVm, arm]
      dsimp only
      rw [second, cut_vmName _ _ 5]
      cases asm with
      | none => rfl
      | some asm =>
          exact congrArg (fun stem => some (stem ++ "_1".toList)) (resultStem_range benchmark.text range fileSuffix)

theorem written_eq (fileSuffix : Text) {guest : Guest} (startable : Startable guest.wl) {file : Text}
    (written : guest.written fileSuffix = some file) : file = fileOf fileSuffix guest := by
  have noted := resultFile_eq fileSuffix startable
  obtain ⟨run, kept, rfl⟩ := Option.map_eq_some_iff.mp written
  rw [Guest.resultFile, (Option.filter_eq_some_iff.mp kept).1] at noted
  exact Option.some.inj noted

theorem written_speccpu (fileSuffix : Text) {guest : Guest} {benchmark : Word} {iterations : Nat} {asm : Option Word}
    (speccpu : guest.wl = .speccpu benchmark iterations asm) (startable : Startable guest.wl) :
    guest.written fileSuffix = some (fileOf fileSuffix guest) := by
  have noted := resultFile_eq fileSuffix startable
  obtain ⟨run, started, file⟩ := Option.map_eq_some_iff.mp noted
  have script : run.script = "run_speccpu.sh".toList := by
    rw [speccpu] at startable
    have arm := (caseArm_speccpu_iff _ guest.range (speccpu_mem_text benchmark iterations asm)).mpr startable
    rw [Guest.name, speccpu, runExpVm, arm] at started
    cases started
    rfl
  have writes : writing.contains run.script = true := by
    rw [script]
    decide
  rw [Guest.written, started, Option.filter_some, if_pos writes, Option.map_some, file]

/-- The endings `_1` and `_rep_1` are not mistaken for each other behind a range or a dash. -/
theorem rep_ne {place : Text} (clean : 'p' ∉ place) (x y fileSuffix : Text) :
    x ++ '_' :: place ++ '_' :: fileSuffix ++ "_1".toList ≠ y ++ '_' :: fileSuffix ++ "_rep_1".toList := by
  intro same
  have last : (x ++ '_' :: place).reverse.head? ≠ some 'p' := by
    rw [List.head?_reverse, List.getLast?_append_of_ne_nil _ (List.cons_ne_nil _ _)]
    intro last
    have member := List.mem_of_getLast? last
    simp [clean] at member
  refine shifted_ne last y.reverse fileSuffix.reverse ?_
  simpa using congrArg List.reverse same

theorem p_not_mem_range (range : CoreRange) : 'p' ∉ range.text := CoreRange.not_mem_text (by decide) (by decide)

theorem stem_ne_dash (x y : Text) (range : CoreRange) : x ++ '_' :: range.text ≠ y ++ '_' :: ['-'] := by
  intro same
  have dash : range.text = ['-'] := suffix_eq_of_sep range.underscore_not_mem (by decide) same
  have low := range.cut_lo
  rw [dash] at low
  exact decimal_ne_nil range.lo low.symm

/-- Two VMs with different ranges have one result file exactly when they run one benchmark without an
    assembly variant. -/
theorem fileOf_eq_iff (fileSuffix : Text) {guest other : Guest} (apart : guest.range ≠ other.range) :
    fileOf fileSuffix guest = fileOf fileSuffix other ↔ SameBenchmark guest.wl other.wl := by
  obtain ⟨wl, range, ip⟩ := guest
  obtain ⟨wl', range', ip'⟩ := other
  dsimp only at apart ⊢
  have cancel : ∀ {x y ending : Text}, x ++ '_' :: fileSuffix ++ ending = y ++ '_' :: fileSuffix ++ ending → x = y :=
    fun same => List.append_cancel_right (List.append_cancel_right same)
  rcases wl with w | ⟨benchmark, iterations, _ | asm⟩ <;>
    rcases wl' with w' | ⟨benchmark', iterations', _ | asm'⟩ <;> simp only [fileOf, SameBenchmark, iff_false]
  · exact fun same => apart (range_eq_of_stem (cancel same))
  · exact (rep_ne (by decide) _ _ _).symm
  · exact (rep_ne (p_not_mem_range range') _ _ _).symm
  · exact rep_ne (by decide) _ _ _
  · simp only [List.append_left_inj]
  · exact fun same => stem_ne_dash _ _ _ (cancel same).symm
  · exact rep_ne (p_not_mem_range range) _ _ _
  · exact fun same => stem_ne_dash _ _ _ (cancel same)
  · exact fun same => apart (range_eq_of_stem (cancel same))

namespace Fleet

variable (fleet : Fleet) (fileSuffix : Text)

theorem resultFileIp_eq : resultFileIp fileSuffix fleet.guests =
    fleet.guests.foldl (fun dict guest => dict.set (fileOf fileSuffix guest) guest.ip) .empty := by
  refine List.foldl_ext _ _ _ fun dict guest member => ?_
  rw [resultFile_eq fileSuffix (fleet.startable guest member), Option.elim_some]

end Fleet

theorem jobs_ips (fileSuffix : Text) (guests : List Guest) :
    ((jobs fileSuffix guests).map fun job => job.1.1).Sublist (guests.map Guest.ip) := by
  rw [jobs]
  induction guests with
  | nil => exact .slnil
  | cons guest later ih =>
      cases written : guest.written fileSuffix with
      | none =>
          rw [List.filterMap_cons_none (by rw [written]; rfl), List.map_cons]
          exact .cons _ ih
      | some file =>
          rw [List.filterMap_cons_some (by rw [written]; rfl), List.map_cons, List.map_cons]
          exact .cons_cons _ ih

theorem disksAfter_apply {finished : List ((Text × Text) × Guest)} (apart : (finished.map Prod.fst).Nodup)
    {place : Text × Text} {guest : Guest} (member : (place, guest) ∈ finished) (disks : Text × Text → Option Guest) :
    disksAfter finished disks place = some guest := by
  have entry : (place, some guest) ∈ finished.map fun job => (job.1, some job.2) :=
    List.mem_map.mpr ⟨(place, guest), member, rfl⟩
  rw [disksAfter, applySettings_apply, lastEntry_of_mem (by simpa [Function.comp_def] using apart) entry,
    Option.getD_some]

section Copies

variable {resultFileIp : Dict Text Text} {disks : Text × Text → Option Guest} {file : Text} {guest : Guest}

theorem copyResult_same (found : ((resultFileIp.get? file).bind fun vmIp => disks (vmIp, file)) = some guest)
    (resDir : Text → Option Guest) : copyResult resultFileIp disks resDir file file = some guest := by
  rw [copyResult, found]
  exact Function.update_self ..

theorem copyResult_other {other : Text} (differ : file ≠ other) (resDir : Text → Option Guest) :
    copyResult resultFileIp disks resDir other file = resDir file := by
  rw [copyResult]
  cases (resultFileIp.get? other).bind fun vmIp => disks (vmIp, other) with
  | some result => exact Function.update_of_ne differ ..
  | none => rfl

theorem copyResultFromVms_apply
    (found : ((resultFileIp.get? file).bind fun vmIp => disks (vmIp, file)) = some guest) (keys : List Text)
    (resDir : Text → Option Guest) (there : file ∈ keys ∨ resDir file = some guest) :
    copyResultFromVms resultFileIp disks keys resDir file = some guest := by
  induction keys generalizing resDir with
  | nil => exact there.resolve_left List.not_mem_nil
  | cons key rest ih =>
      refine ih _ ?_
      by_cases same : file = key
      · subst same
        exact .inr (copyResult_same found resDir)
      · rw [copyResult_other same, List.mem_cons, or_iff_right same] at *
        exact there

end Copies

theorem speccpu_of_same {wl wl' : Workload} (same : SameBenchmark wl wl') :
    (∃ benchmark iterations asm, wl = .speccpu benchmark iterations asm) ∧
      ∃ benchmark iterations asm, wl' = .speccpu benchmark iterations asm := by
  rcases wl with w | ⟨benchmark, iterations, _ | asm⟩ <;> rcases wl' with w' | ⟨benchmark', iterations', _ | asm'⟩ <;>
    first
    | exact same.elim
    | exact ⟨⟨_, _, _, rfl⟩, _, _, _, rfl⟩

def mlcGuest : Guest where
  wl := .plain (.ofText "mlc".toList (Eq.refl true))
  range := ⟨0, 29⟩
  ip := "192.168.122.10".toList

def gccGuest : Guest where
  wl := .speccpu (.ofText "502.gcc_r".toList (Eq.refl true)) 3 none
  range := ⟨30, 59⟩
  ip := "192.168.122.11".toList

theorem mlc_startable : Startable mlcGuest.wl := by
  change ¬ "speccpu".toList <:+: "mlc".toList
  decide

theorem gcc_startable : Startable gccGuest.wl := by
  change ∀ arm ∈ armsBefore, ¬ arm.1 <:+: gccGuest.wl.text
  decide

theorem twoGuests_startable : ∀ guest ∈ [mlcGuest, gccGuest], Startable guest.wl := by
  intro guest member
  rcases List.mem_cons.mp member with rfl | last
  · exact mlc_startable
  · rw [List.mem_singleton.mp last]
    exact gcc_startable

def twoGuests : Fleet where
  guests := [mlcGuest, gccGuest]
  ips := by decide
  ranges := by decide
  startable := twoGuests_startable

end KvmWorkload.RunTestcases.Collect
