import KvmWorkload.Lib.Dict
import KvmWorkload.Lib.Exec
import KvmWorkload.Lib.PyText
import KvmWorkload.RunTestcases.VmNames

/-! # Which turbostat is stopped

run_testcases.sh starts one turbostat for every VM and notes its process id
under the name of its output file.  When a VM is done it sends the name of its
result file, and the server rebuilds the name of the output file from the first
five fields of that name.
-/

namespace KvmWorkload.Turbostat.PidKeys

open RunTestcases

/-- The modes that `hp_lp_corun` is called with. -/
inductive CosMode where
  | na
  | soloNa
  | mba
  | cpat
  | resctrlMba
  | hwdrc (cas : Nat)
  | resctrlHwdrc
  deriving DecidableEq

def CosMode.text : CosMode → Text
  | .na => "na".toList
  | .soloNa => "solo_na".toList
  | .mba => "MBA".toList
  | .cpat => "CPAT".toList
  | .resctrlMba => "RESCTRL-MBA".toList
  | .hwdrc cas => "HWDRC-".toList ++ decimal cas
  | .resctrlHwdrc => "RESCTRL-HWDRC".toList

/-- What the suffix of a run is made from; the ways are there when their option is enabled. -/
structure RunOptions where
  cosMode : CosMode
  sstEnable : Nat
  llcCosWays : Option (List Word)
  l2cCosWays : Option (List Word)

/-- The ways with dashes for their commas. -/
def waysText (ways : List Word) : Text :=
  ([','].intercalate (ways.map Word.text)).map fun c => if c = ',' then '-' else c

/-- `result_file_suffix` of `hp_lp_corun`. -/
def RunOptions.suffix (o : RunOptions) : Text :=
  "co_".toList ++ o.cosMode.text ++ "_sst-".toList ++ decimal o.sstEnable ++
    o.llcCosWays.elim [] (fun ways => "_llc-".toList ++ waysText ways) ++
    o.l2cCosWays.elim [] (fun ways => "_l2c-".toList ++ waysText ways)

/-- `turbostat_filename` of `start_frequency_monitoring`. -/
def turbostatFilename (vmWl range resultFileSuffix : Text) : Text :=
  vmWl ++ '_' :: range ++ '_' :: resultFileSuffix ++ "_turbostat.txt".toList

/-- The lines of turbostat_pids.txt; `pids` are the ids of the processes in the order of their start. -/
def startFrequencyMonitoring (vmWorkloads : Text) (vmCoreRange : List Text) (pids : List Nat)
    (resultFileSuffix : Text) : List Text :=
  (commaWords vmWorkloads).zipIdx.map fun (vmWl, i) =>
    turbostatFilename vmWl ((vmCoreRange[i]?).getD []) resultFileSuffix ++
      ',' :: decimal ((pids[i]?).getD 0) ++ ['\n']

inductive PyError where
  | indexError
  | keyError
  deriving DecidableEq

/-- `parts[i]`. -/
def item (parts : List Text) (i : Nat) : Except PyError Text := (parts[i]?).elim (.error .indexError) .ok

def readLine (pids : Dict Text Text) (line : Text) : Except PyError (Dict Text Text) := do
  let parts := (strip line).splitOn ','
  let tsFile ← item parts 0
  let tsPid ← item parts 1
  return pids.set tsFile tsPid

def getTurbostatPids (lines : List Text) : Except PyError (Dict Text Text) := lines.foldlM readLine .empty

/-- `turbostat_file` of `kill_turbostat`. -/
def turbostatFile (resultFile : Text) : Except PyError Text := do
  let split := resultFile.splitOn '_'
  let a ← item split 0
  let b ← item split 1
  let c ← item split 2
  let d ← item split 3
  let e ← item split 4
  return a ++ '_' :: b ++ '_' :: c ++ '_' :: d ++ '_' :: e ++ "_turbostat.txt".toList

/-- The process that is killed. -/
def killTurbostat (turbostatPids : Dict Text Text) (resultFile : Text) : Except PyError Text := do
  let file ← turbostatFile resultFile
  (turbostatPids.get? file).elim (.error .keyError) .ok

/-- What the server does with a message. -/
def serve (turbostatPids : List Text) (resultFile : Text) : Except PyError Text := do
  killTurbostat (← getTurbostatPids turbostatPids) resultFile

/-- A configured VM and the process id of its turbostat. -/
structure Vm where
  wl : Workload
  range : CoreRange
  pid : Nat

namespace Vm

variable (vm : Vm)

def name : Text := vmName vm.wl vm.range

/-- The name that its turbostat is registered under. -/
def registered (o : RunOptions) : Text := turbostatFilename vm.wl.text vm.range.text o.suffix

end Vm

/-- turbostat_pids.txt for a configuration. -/
def pidsFile (vms : List Vm) (o : RunOptions) : List Text :=
  startFrequencyMonitoring ([','].intercalate (vms.map fun vm => vm.wl.text))
    (vms.map fun vm => vm.range.text) (vms.map Vm.pid) o.suffix

/-- The runs in which the name is found again: five fields are enough for it, and the workload's
    name is the whole specification. -/
structure FiveFields (wl : Workload) (o : RunOptions) : Prop where
  plain : ∃ w, wl = .plain w ∧ '_' ∉ w.text ∧ ¬ "speccpu".toList <:+: w.text
  mode : o.cosMode ≠ .soloNa
  noLlc : o.llcCosWays = none
  noL2c : o.l2cCosWays = none

theorem count_decimal (n : Nat) : (decimal n).count '_' = 0 :=
  List.count_eq_zero.mpr (not_mem_decimal (by decide))

theorem count_mode (mode : CosMode) : mode.text.count '_' = if mode = .soloNa then 1 else 0 := by
  cases mode with
  | hwdrc cas =>
      change ("HWDRC-".toList ++ decimal cas).count '_' = 0
      rw [List.count_append, count_decimal]
      rfl
  | na | soloNa | mba | cpat | resctrlMba | resctrlHwdrc => rfl

theorem count_suffix (o : RunOptions) :
    2 + (if o.cosMode = .soloNa then 1 else 0) + (if o.llcCosWays = none then 0 else 1) +
      (if o.l2cCosWays = none then 0 else 1) ≤ o.suffix.count '_' := by
  have ways : ∀ (option : Option (List Word)) (tag : Text), tag.count '_' = 1 →
      (if option = none then 0 else 1) ≤ (option.elim [] fun ways => tag ++ waysText ways).count '_' := by
    intro option tag one
    cases option with
    | none => exact Nat.zero_le _
    | some ways =>
        rw [if_neg (by simp), Option.elim_some, List.count_append, one]
        omega
  have llc := ways o.llcCosWays "_llc-".toList rfl
  have l2c := ways o.l2cCosWays "_l2c-".toList rfl
  have front : ("co_".toList).count '_' = 1 := rfl
  have sst : ("_sst-".toList).count '_' = 1 := rfl
  -- `delta`, since the equation of a body with this many string literals takes seconds to derive
  delta RunOptions.suffix
  simp only [List.count_append, count_mode, count_decimal, front, sst]
  omega

theorem count_registered (vm : Vm) (o : RunOptions) :
    (vm.registered o).count '_' = vm.wl.text.count '_' + o.suffix.count '_' + 3 := by
  have range : vm.range.text.count '_' = 0 := List.count_eq_zero.mpr vm.range.underscore_not_mem
  have ending : ("_turbostat.txt".toList).count '_' = 1 := rfl
  simp only [Vm.registered, turbostatFilename, List.count_append, List.count_cons_self, range, ending]
  omega

theorem item_ok {parts : List Text} {i : Nat} {part : Text} : item parts i = .ok part ↔ parts[i]? = some part := by
  rw [item]
  cases parts[i]? <;> simp

theorem turbostatFile_ok {file key : Text} (ok : turbostatFile file = .ok key) :
    key.count '_' = 5 ∧ cut '_' 1 key = cut '_' 1 file := by
  obtain ⟨a, first, ok⟩ := except_bind_ok.mp ok
  obtain ⟨b, second, ok⟩ := except_bind_ok.mp ok
  obtain ⟨c, third, ok⟩ := except_bind_ok.mp ok
  obtain ⟨d, fourth, ok⟩ := except_bind_ok.mp ok
  obtain ⟨e, fifth, ends⟩ := except_bind_ok.mp ok
  cases ends
  rw [item_ok] at first second third fourth fifth
  have clean : ∀ {i : Nat} {part : Text}, (file.splitOn '_')[i]? = some part → '_' ∉ part :=
    fun found => not_mem_of_mem_splitOn (List.mem_of_getElem? found)
  have none : ∀ {i : Nat} {part : Text}, (file.splitOn '_')[i]? = some part → part.count '_' = 0 :=
    fun found => List.count_eq_zero.mpr (clean found)
  have ending : ("_turbostat.txt".toList).count '_' = 1 := rfl
  constructor
  · simp only [List.count_append, List.count_cons_self, none first, none second, none third, none fourth, none fifth,
      ending]
  · have split : a ++ '_' :: b ++ '_' :: c ++ '_' :: d ++ '_' :: e ++ "_turbostat.txt".toList =
        a ++ '_' :: (b ++ '_' :: c ++ '_' :: d ++ '_' :: e ++ "_turbostat.txt".toList) := by simp
    rw [split, cut_one_append (clean first), cut_one, List.head?_eq_getElem?, first, Option.getD_some]

section Agreement

variable {vm : Vm} {o : RunOptions} {d : Decoded}

theorem resultFile_of_speccpu (arm : caseArm vm.name = .speccpu) (run : runExpVm o.suffix vm.name = some d) :
    ∃ rest, d.resultFile = cut ':' 2 vm.name ++ '_' :: rest := by
  simp only [runExpVm, arm, Option.some.injEq] at run
  refine ⟨cut '-' 1 (cut ':' 5 vm.name) ++ '-' :: cut '-' 2 (cut ':' 5 vm.name) ++ '_' :: o.suffix ++ "_1".toList, ?_⟩
  rw [← run, resultStem]
  simp

theorem not_speccpu_of_first (run : runExpVm o.suffix vm.name = some d) (clean : '_' ∉ vm.wl.text)
    (first : vm.wl.text = cut '_' 1 d.resultFile) : caseArm vm.name ≠ .speccpu := by
  intro arm
  have inside := (contains_speccpu vm.wl vm.range).mp (contains_of_caseArm arm)
  obtain ⟨rest, file⟩ := resultFile_of_speccpu arm run
  obtain ⟨wl, range, pid⟩ := vm
  rw [file] at first
  cases wl with
  | plain w =>
      have second : cut ':' 2 (vmName (.plain w) range) = range.text := cut_vmName (.plain w) range 2
      rw [Vm.name, second, cut_one_append range.underscore_not_mem] at first
      have letter : 's' ∈ range.text := first ▸ inside.subset (by decide)
      exact CoreRange.not_mem_text (by decide) (by decide) letter
  | speccpu benchmark iterations asm =>
      have second : cut ':' 2 (vmName (.speccpu benchmark iterations asm) range) = benchmark.text := by
        rw [cut_vmName]
        cases asm <;> rfl
      have noUnderscore : '_' ∉ benchmark.text := by
        intro member
        cases asm <;> simp [Workload.text, Workload.fields, member] at clean
      rw [Vm.name, second, cut_one_append noUnderscore] at first
      have colon : ':' ∈ benchmark.text := by
        rw [← first]
        cases asm <;> simp [Workload.text, Workload.fields]
      exact benchmark.not_mem (by decide) colon

theorem plain_of_first (run : runExpVm o.suffix vm.name = some d) (clean : '_' ∉ vm.wl.text)
    (first : vm.wl.text = cut '_' 1 d.resultFile) :
    ∃ w, vm.wl = .plain w ∧ '_' ∉ w.text ∧ ¬ "speccpu".toList <:+: w.text := by
  have absent : ¬ "speccpu".toList <:+: vm.wl.text :=
    fun inside => not_speccpu_of_first run clean first (caseArm_of_runExpVm inside run).1
  cases wl : vm.wl with
  | plain w =>
      rw [wl, Workload.text_plain] at clean absent
      exact ⟨w, rfl, clean, absent⟩
  | speccpu benchmark iterations asm =>
      rw [wl] at absent
      exact absurd (speccpu_mem_text benchmark iterations asm) absent

theorem fiveFields_of_found (run : runExpVm o.suffix vm.name = some d)
    (found : turbostatFile d.resultFile = .ok (vm.registered o)) : FiveFields vm.wl o := by
  obtain ⟨five, sameFirst⟩ := turbostatFile_ok found
  have least := count_suffix o
  rw [count_registered] at five
  have wlCount : vm.wl.text.count '_' = 0 := by omega
  have clean : '_' ∉ vm.wl.text := List.count_eq_zero.mp wlCount
  have mode : o.cosMode ≠ .soloNa := by
    intro solo
    rw [if_pos solo] at least
    omega
  have noLlc : o.llcCosWays = none := by
    by_contra given
    rw [if_neg given] at least
    omega
  have noL2c : o.l2cCosWays = none := by
    by_contra given
    rw [if_neg given] at least
    omega
  refine ⟨?_, mode, noLlc, noL2c⟩
  -- The first fields of the two names are the same.
  have first : vm.wl.text = cut '_' 1 d.resultFile := by
    rw [← sameFirst, Vm.registered, turbostatFilename, List.append_assoc, List.append_assoc, List.cons_append,
      cut_one_append clean]
  exact plain_of_first run clean first

theorem suffix_of_fiveFields (five : FiveFields vm.wl o) :
    o.suffix = "co".toList ++ '_' :: (o.cosMode.text ++ '_' :: ("sst-".toList ++ decimal o.sstEnable)) := by
  delta RunOptions.suffix
  rw [five.noLlc, five.noL2c]
  simp

theorem turbostatFile_fields {a b c d e : Text} (clean : ∀ field ∈ [a, b, c, d, e], '_' ∉ field) (rest : Text) :
    turbostatFile (a ++ '_' :: (b ++ '_' :: (c ++ '_' :: (d ++ '_' :: (e ++ '_' :: rest))))) =
      .ok (a ++ '_' :: b ++ '_' :: c ++ '_' :: d ++ '_' :: e ++ "_turbostat.txt".toList) := by
  simp only [List.forall_mem_cons, List.not_mem_nil, false_implies, implies_true, and_true] at clean
  obtain ⟨first, second, third, fourth, fifth⟩ := clean
  rw [turbostatFile, List.splitOn_append_cons_self_of_not_mem first, List.splitOn_append_cons_self_of_not_mem second,
    List.splitOn_append_cons_self_of_not_mem third, List.splitOn_append_cons_self_of_not_mem fourth,
    List.splitOn_append_cons_self_of_not_mem fifth]
  rfl

theorem found_of_fiveFields (run : runExpVm o.suffix vm.name = some d) (five : FiveFields vm.wl o) :
    turbostatFile d.resultFile = .ok (vm.registered o) := by
  obtain ⟨wl, range, pid⟩ := vm
  obtain ⟨w, rfl, noUnderscore, ordinary⟩ := five.plain
  obtain ⟨d', run', decoded⟩ := runExpVm_plain ordinary range o.suffix
  cases run.symm.trans run'
  obtain ⟨rest, file⟩ : ∃ rest, d.resultFile = w.text ++ '_' :: range.text ++ '_' :: o.suffix ++ '_' :: rest := by
    rcases runExpVm_resultFile run' decoded with one | rep
    · exact ⟨['1'], one⟩
    · exact ⟨"rep_1".toList, rep⟩
  have mode : '_' ∉ o.cosMode.text := by
    rw [← List.count_eq_zero, count_mode, if_neg five.mode]
  have sst : '_' ∉ decimal o.sstEnable := not_mem_decimal (by decide)
  have fields := turbostatFile_fields (a := w.text) (b := range.text) (c := "co".toList) (d := o.cosMode.text)
    (e := "sst-".toList ++ decimal o.sstEnable) (by simp [noUnderscore, range.underscore_not_mem, mode, sst]) rest
  rw [file, Vm.registered, turbostatFilename, suffix_of_fiveFields five, Workload.text_plain]
  simpa using fields

end Agreement

/-- A line of turbostat_pids.txt. -/
def Vm.line (vm : Vm) (o : RunOptions) : Text := vm.registered o ++ ',' :: decimal vm.pid ++ ['\n']

theorem pidsFile_eq (vms : List Vm) (o : RunOptions) : pidsFile vms o = vms.map fun vm => vm.line o := by
  have workloads : commaWords ([','].intercalate (vms.map fun vm => vm.wl.text)) = vms.map fun vm => vm.wl.text := by
    simpa [Function.comp_def] using commaWords_workloads (vms.map Vm.wl)
  rw [pidsFile, startFrequencyMonitoring, workloads]
  refine List.ext_getElem? fun i => ?_
  cases here : vms[i]? <;> simp [here, Vm.line, Vm.registered]

theorem name_eq_of_registered {vm vm' : Vm} {o : RunOptions} (same : vm.registered o = vm'.registered o) :
    vm.name = vm'.name := by
  rw [Vm.registered, Vm.registered, turbostatFilename, turbostatFilename, List.append_left_inj] at same
  have stems : vm.wl.text ++ '_' :: vm.range.text = vm'.wl.text ++ '_' :: vm'.range.text :=
    List.append_cancel_right same
  have range : vm.range = vm'.range := range_eq_of_stem stems
  rw [range, List.append_left_inj] at stems
  rw [Vm.name, Vm.name, vmName, vmName, stems, range]

/-- The characters that can stand in a file name of a line. -/
def nameChar (c : Char) : Bool := !(c == ',') && !isSpace c

theorem nameChar_of_isDigit {c : Char} (digit : c.isDigit = true) : nameChar c = true := by
  have comma : c ≠ ',' := by
    rintro rfl
    cases digit
  simp [nameChar, comma, isSpace_of_isDigit digit]

theorem all_nameChar_decimal (n : Nat) : (decimal n).all nameChar = true :=
  List.all_eq_true.mpr fun _ member => nameChar_of_isDigit (isDigit_of_mem_decimal member)

theorem all_nameChar_mode (mode : CosMode) : mode.text.all nameChar = true := by
  cases mode with
  | hwdrc cas =>
      change ("HWDRC-".toList ++ decimal cas).all nameChar = true
      rw [List.all_append, all_nameChar_decimal, Bool.and_true]
      decide
  | na | soloNa | mba | cpat | resctrlMba | resctrlHwdrc => decide

section Lines

variable {vm : Vm} {o : RunOptions}

theorem all_nameChar_workload (spaceless : ∀ c ∈ vm.wl.text, isSpace c = false) :
    vm.wl.text.all nameChar = true := by
  refine List.all_eq_true.mpr fun c member => ?_
  have comma : c ≠ ',' := ne_of_mem_of_not_mem member vm.wl.comma_not_mem_text
  simp [nameChar, spaceless c member, comma]

theorem all_nameChar_registered (spaceless : ∀ c ∈ vm.wl.text, isSpace c = false)
    (suffix : o.suffix = "co".toList ++ '_' :: (o.cosMode.text ++ '_' :: ("sst-".toList ++ decimal o.sstEnable))) :
    (vm.registered o).all nameChar = true := by
  have constants : nameChar '_' = true ∧ nameChar '-' = true ∧ "co".toList.all nameChar = true ∧
      "sst-".toList.all nameChar = true ∧ "_turbostat.txt".toList.all nameChar = true := by decide
  simp only [Vm.registered, turbostatFilename, suffix, CoreRange.text, rangeText, List.all_append, List.all_cons,
    all_nameChar_workload spaceless, all_nameChar_decimal, all_nameChar_mode, constants, Bool.and_true]

theorem readLine_line (clean : (vm.registered o).all nameChar = true) (pids : Dict Text Text) :
    readLine pids (vm.line o) = .ok (pids.set (vm.registered o) (decimal vm.pid)) := by
  have solid : ∀ c ∈ vm.registered o ++ ',' :: decimal vm.pid, isSpace c = false := by
    have space : ∀ c, nameChar c = true → isSpace c = false := fun c name => by
      simpa using (Bool.and_eq_true_iff.mp name).2
    intro c member
    rcases List.mem_append.mp member with inside | inside
    · exact space c (List.all_eq_true.mp clean c inside)
    · rcases List.mem_cons.mp inside with rfl | inside
      · decide
      · exact space c (List.all_eq_true.mp (all_nameChar_decimal vm.pid) c inside)
  have comma : ',' ∉ vm.registered o := fun member =>
    absurd (List.all_eq_true.mp clean _ member) (by decide)
  have parts : (strip (vm.line o)).splitOn ',' = [vm.registered o, decimal vm.pid] := by
    rw [Vm.line, strip, trim_append_blank solid (by decide),
      List.splitOn_append_cons_self_of_not_mem comma, splitOn_of_not_mem (not_mem_decimal (by decide))]
  rw [readLine, parts]
  rfl

end Lines

theorem getTurbostatPids_eq {vms : List Vm} {o : RunOptions}
    (clean : ∀ vm ∈ vms, (vm.registered o).all nameChar = true) :
    getTurbostatPids (pidsFile vms o) =
      .ok (vms.foldl (fun pids vm => pids.set (vm.registered o) (decimal vm.pid)) .empty) := by
  rw [pidsFile_eq, getTurbostatPids]
  generalize Dict.empty = pids
  induction vms generalizing pids with
  | nil => rfl
  | cons vm vms ih =>
      rw [List.forall_mem_cons] at clean
      rw [List.map_cons, List.foldlM_cons, readLine_line clean.1]
      exact ih clean.2 _

def redisWord : Word := .ofText "redis".toList (Eq.refl true)

def redisVm : Vm where
  wl := .plain redisWord
  range := ⟨0, 29⟩
  pid := 4242

/-- A run without cache ways. -/
def plainRun (cosMode : CosMode) : RunOptions where
  cosMode := cosMode
  sstEnable := 0
  llcCosWays := none
  l2cCosWays := none

theorem redis_plain : ¬ "speccpu".toList <:+: redisWord.text := by decide

/-- What `run_exp_vm` makes of the VM in a solo run. -/
def soloDecoded : Decoded where
  script := "run_redis.sh".toList
  workload := "redis".toList
  iterations := none
  asm := none
  startCore := "0".toList
  endCore := "29".toList
  resultFile := "redis_0-29_co_solo_na_sst-0_rep_1".toList

end KvmWorkload.Turbostat.PidKeys
