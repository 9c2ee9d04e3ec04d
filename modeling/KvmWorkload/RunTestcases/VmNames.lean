import KvmWorkload.Lib.Fields
import Mathlib.Data.Bool.AllAny

/-! # VM names as an encoding

`init_vm_names` of run_testcases.sh writes a workload specification and a core
range into the VM's name; `run_exp_vm` (run.sh) and the loop of run_in_host.sh
take the name apart again by field number.  The two readers expect different
numbers of fields.
-/

namespace KvmWorkload.RunTestcases

/-- The characters at which the formats or the shell's own expansion would break a word up. -/
def wordBreaks : List Char := [':', ',', ' ', '\t', '\n', '*', '?', '[', '\\']

/-- A word of a configuration file. -/
structure Word where
  text : Text
  nonempty : text ≠ []
  clean : ∀ c ∈ text, c ∉ wordBreaks

/-- Whether a text is a word. -/
def isWord (text : Text) : Bool := !text.isEmpty && text.all fun c => !(wordBreaks.contains c)

theorem isWord_iff {text : Text} : isWord text = true ↔ text ≠ [] ∧ ∀ c ∈ text, c ∉ wordBreaks := by
  simp [isWord]

/-- The word that a literal spells. -/
def Word.ofText (text : Text) (word : isWord text = true) : Word :=
  ⟨text, (isWord_iff.mp word).1, (isWord_iff.mp word).2⟩

/-- The workload specifications that configurations use. -/
inductive Workload where
  | plain (w : Word)
  | speccpu (benchmark : Word) (iterations : Nat) (asm : Option Word)

namespace Workload

def fields : Workload → List Text
  | .plain w => [w.text]
  | .speccpu benchmark iterations none => ["speccpu".toList, benchmark.text, decimal iterations]
  | .speccpu benchmark iterations (some asm) =>
      ["speccpu".toList, benchmark.text, decimal iterations, asm.text]

/-- The specification as it stands in `VM_WORKLOADS`. -/
def text (wl : Workload) : Text := [':'].intercalate wl.fields

/-- What the readers call the workload: the plain name, or the benchmark. -/
def name : Workload → Text
  | .plain w => w.text
  | .speccpu benchmark _ _ => benchmark.text

def iterationCount : Workload → Option Text
  | .plain _ => none
  | .speccpu _ iterations _ => some (decimal iterations)

end Workload

/-- A core range `lo-hi`, an entry of `VM_CORE_RANGE`. -/
structure CoreRange where
  lo : Nat
  hi : Nat
  deriving DecidableEq

def CoreRange.text (range : CoreRange) : Text := rangeText range.lo range.hi

/-- `init_vm_core_range`.  The loop that would cut the ranges from `VM_CORES` is commented out; the
    array is always filled with the same two entries. -/
def initVmCoreRange : List CoreRange := [⟨0, 29⟩, ⟨30, 59⟩]

/-- `init_vm_names`: every workload word gets the core range at its own index. -/
def initVmNames (vmWorkloads : Text) (vmCoreRange : List Text) : Text :=
  let vmWorkloadList := commaWords vmWorkloads
  [','].intercalate (vmWorkloadList.zipIdx.map fun (wl, i) => wl ++ ':' :: (vmCoreRange[i]?).getD [])

/-- What a reader finds in a name, and the result file it derives from it. -/
structure Decoded where
  script : Text
  workload : Text
  iterations : Option Text
  asm : Option Text
  startCore : Text
  endCore : Text
  resultFile : Text
  deriving DecidableEq

/-- An arm of `case $vm_name` in `run_exp_vm`. -/
inductive Arm where
  | script (name : Text)
  | speccpu
  deriving DecidableEq

/-- The arms in front of `*"speccpu"*`. -/
def armsBefore : List (Text × Arm) :=
  [("mlc".toList, .script "run_mlc.sh".toList),
   ("rn50".toList, .script "run_rn50.sh".toList),
   ("stressapp".toList, .script "run_stressapp.sh".toList),
   ("redis".toList, .script "run_redis.sh".toList),
   ("memcache".toList, .script "run_memcache.sh".toList),
   ("ffmpegbm".toList, .script "run_ffmpeg_baremetal.sh".toList),
   ("rnnt".toList, .script "run_rnnt.sh".toList)]

/-- The arms behind it. -/
def armsAfter : List (Text × Arm) :=
  [("unet".toList, .script "run_3dunet.sh".toList),
   ("spdk_fio".toList, .script "run_spdk_fio.sh".toList),
   ("nginx".toList, .script "run_nginx.sh".toList),
   ("spdk-rdma".toList, .script "run_spdk-rdma.sh".toList)]

/-- All patterns, in the order in which they are tried. -/
def arms : List (Text × Arm) := armsBefore ++ ("speccpu".toList, .speccpu) :: armsAfter

/-- The first arm whose pattern matches; the default arm leaves the script name empty. -/
def caseArm (vmName : Text) : Arm :=
  ((arms.find? fun arm => contains arm.1 vmName).map Prod.snd).getD (.script [])

/-- `${name}_${start_core}-${end_core}_${file_suffix}`. -/
def resultStem (name startCore endCore fileSuffix : Text) : Text :=
  name ++ '_' :: (startCore ++ '-' :: endCore) ++ '_' :: fileSuffix

/-- `run_exp_vm` on one VM name; `none` when no workload is started.

    A name with `speccpu` in it that an earlier arm catches is started by neither part of the
    loop body: the code after the `case` skips every name that contains `speccpu`. -/
def runExpVm (fileSuffix vmName : Text) : Option Decoded :=
  match caseArm vmName with
  | .speccpu =>
      let benchmark := cut ':' 2 vmName
      let startCore := cut '-' 1 (cut ':' 5 vmName)
      let endCore := cut '-' 2 (cut ':' 5 vmName)
      some
        { script := "run_speccpu.sh".toList
          workload := benchmark
          iterations := some (cut ':' 3 vmName)
          asm := some (cut ':' 4 vmName)
          startCore := startCore
          endCore := endCore
          resultFile := resultStem benchmark startCore endCore fileSuffix ++ "_1".toList }
  | .script workloadScript =>
      if contains "speccpu".toList vmName then none
      else
        let wlName := cut ':' 1 vmName
        let startCore := cut '-' 1 (cut ':' 2 vmName)
        let endCore := cut '-' 2 (cut ':' 2 vmName)
        some
          { script := workloadScript
            workload := wlName
            iterations := none
            asm := none
            startCore := startCore
            endCore := endCore
            resultFile := resultStem wlName startCore endCore fileSuffix ++ "_rep_1".toList }

/-- The loop body of run_in_host.sh. -/
def runInHost (fileSuffix wlCore : Text) : Decoded :=
  if contains "speccpu".toList wlCore then
    let benchmark := cut ':' 2 wlCore
    let startCore := cut '-' 1 (cut ':' 4 wlCore)
    let endCore := cut '-' 2 (cut ':' 4 wlCore)
    { script := "run_speccpu.sh".toList
      workload := benchmark
      iterations := some (cut ':' 3 wlCore)
      asm := none
      startCore := startCore
      endCore := endCore
      resultFile := resultStem benchmark startCore endCore fileSuffix }
  else
    let wl := cut ':' 1 wlCore
    let startCore := cut '-' 1 (cut ':' 2 wlCore)
    let endCore := cut '-' 2 (cut ':' 2 wlCore)
    { script := "run_".toList ++ wl ++ ".sh".toList
      workload := wl
      iterations := none
      asm := none
      startCore := startCore
      endCore := endCore
      resultFile := resultStem wl startCore endCore fileSuffix }

/-- The name that a specification and a range are written into. -/
def vmName (wl : Workload) (range : CoreRange) : Text := wl.text ++ ':' :: range.text

theorem Workload.fields_ne_nil (wl : Workload) : wl.fields ≠ [] := by
  rcases wl with w | ⟨benchmark, iterations, _ | asm⟩ <;> simp [fields]

theorem CoreRange.not_mem_text {range : CoreRange} {c : Char} (dash : c ≠ '-')
    (digit : c.isDigit = false) : c ∉ range.text := not_mem_rangeText dash digit

theorem CoreRange.cut_lo (range : CoreRange) : cut '-' 1 range.text = decimal range.lo := by
  rw [text, rangeText_eq_intercalate, cut_intercalate (by simp [not_mem_decimal]) (by simp)]
  rfl

theorem CoreRange.cut_hi (range : CoreRange) : cut '-' 2 range.text = decimal range.hi := by
  rw [text, rangeText_eq_intercalate, cut_intercalate (by simp [not_mem_decimal]) (by simp)]
  rfl

theorem CoreRange.text_injective : Function.Injective CoreRange.text := by
  rintro ⟨lo, hi⟩ ⟨lo', hi'⟩ same
  have low := congrArg (cut '-' 1) same
  have high := congrArg (cut '-' 2) same
  rw [cut_lo, cut_lo] at low
  rw [cut_hi, cut_hi] at high
  rw [CoreRange.mk.injEq]
  exact ⟨decimal_injective low, decimal_injective high⟩

theorem Word.not_mem {c : Char} (breaks : c ∈ wordBreaks) (w : Word) : c ∉ w.text :=
  fun member => w.clean c member breaks

theorem Workload.not_mem_fields {c : Char} (breaks : c ∈ wordBreaks) (wl : Workload) :
    ∀ field ∈ wl.fields, c ∉ field := by
  have number : ∀ c ∈ wordBreaks, c.isDigit = false := List.all_iff_forall_prop.mp (by decide)
  have tag : ∀ c ∈ wordBreaks, c ∉ "speccpu".toList := List.all_iff_forall_prop.mp (by decide)
  have digits := fun n => not_mem_decimal (n := n) (number c breaks)
  rcases wl with w | ⟨benchmark, iterations, _ | asm⟩ <;>
    simp only [fields, List.forall_mem_cons, List.not_mem_nil, false_implies, implies_true,
      Word.not_mem breaks, digits, tag c breaks, not_false_eq_true, and_self]

/-- Every field of a name can be read back by its position. -/
theorem cut_vmName (wl : Workload) (range : CoreRange) (n : Nat) :
    cut ':' n (vmName wl range) = ((wl.fields ++ [range.text])[n - 1]?).getD [] := by
  rw [vmName, Workload.text, intercalate_concat wl.fields_ne_nil]
  apply cut_intercalate
  · intro field member
    rcases List.mem_append.mp member with inside | last
    · exact wl.not_mem_fields (by decide) field inside
    · rw [List.mem_singleton.mp last]
      exact CoreRange.not_mem_text (by decide) (by decide)
  · have := List.length_pos_of_ne_nil wl.fields_ne_nil
    simp only [List.length_append, List.length_singleton]
    omega

theorem contains_vmName {pattern : Text} (colon : ':' ∉ pattern)
    (letter : ∃ c ∈ pattern, c ≠ '-' ∧ c.isDigit = false) (wl : Workload) (range : CoreRange) :
    contains pattern (vmName wl range) = true ↔ pattern <:+: wl.text := by
  obtain ⟨c, inPattern, dash, digit⟩ := letter
  rw [contains_iff, vmName, infix_sep_iff colon,
    or_iff_left (not_infix_of_not_mem inPattern (CoreRange.not_mem_text dash digit))]

theorem contains_speccpu (wl : Workload) (range : CoreRange) :
    contains "speccpu".toList (vmName wl range) = true ↔ "speccpu".toList <:+: wl.text :=
  contains_vmName (by decide) ⟨'s', by decide⟩ wl range

theorem speccpu_mem_text (benchmark : Word) (iterations : Nat) (asm : Option Word) :
    "speccpu".toList <:+: (Workload.speccpu benchmark iterations asm).text := by
  cases asm <;> exact List.infix_append_left

/-- No arm before `*"speccpu"*` matches the specification. -/
def ReachesSpeccpu (wl : Workload) : Prop := ∀ arm ∈ armsBefore, ¬ arm.1 <:+: wl.text

theorem armsBefore_script : ∀ arm ∈ armsBefore, arm.2 ≠ .speccpu := by decide

theorem armsBefore_pattern : ∀ arm ∈ armsBefore, ':' ∉ arm.1 ∧
    ∃ c ∈ arm.1, c ≠ '-' ∧ c.isDigit = false := by
  have check : ∀ arm ∈ armsBefore, ':' ∉ arm.1 ∧
      arm.1.any (fun c => decide (c ≠ '-' ∧ c.isDigit = false)) = true := by decide
  exact fun arm member => (check arm member).imp_right List.any_iff_exists_prop.mp

theorem find?_armsBefore (wl : Workload) (range : CoreRange) :
    armsBefore.find? (fun arm => contains arm.1 (vmName wl range)) = none ↔ ReachesSpeccpu wl := by
  rw [List.find?_eq_none, ReachesSpeccpu]
  refine forall₂_congr fun arm member => ?_
  rw [contains_vmName (armsBefore_pattern arm member).1 (armsBefore_pattern arm member).2]

/-- A `speccpu` name gets to its own arm exactly when no earlier pattern occurs in it. -/
theorem caseArm_speccpu_iff (wl : Workload) (range : CoreRange) (inside : "speccpu".toList <:+: wl.text) :
    caseArm (vmName wl range) = .speccpu ↔ ReachesSpeccpu wl := by
  have matched := (contains_speccpu wl range).mpr inside
  rw [← find?_armsBefore wl range, caseArm, arms, List.find?_append]
  cases earlier : armsBefore.find? (fun arm => contains arm.1 (vmName wl range)) with
  | none =>
      simp only [List.find?_cons, matched, Option.none_or, Option.map_some, Option.getD_some]
  | some arm =>
      simpa using armsBefore_script arm (List.mem_of_find?_eq_some earlier)

theorem contains_of_caseArm {name : Text} (arm : caseArm name = .speccpu) :
    contains "speccpu".toList name = true := by
  have pattern : ∀ arm ∈ arms, arm.2 = .speccpu → arm.1 = "speccpu".toList := by decide
  rw [caseArm] at arm
  cases found : arms.find? (fun arm => contains arm.1 name) with
  | none => rw [found] at arm; cases arm
  | some hit =>
      rw [found] at arm
      rw [← pattern hit (List.mem_of_find?_eq_some found) arm]
      have matched := List.find?_some found
      exact matched

/-- A reader finds what was encoded. -/
structure DecodesTo (wl : Workload) (range : CoreRange) (d : Decoded) : Prop where
  workload : d.workload = wl.name
  iterations : d.iterations = wl.iterationCount
  startCore : d.startCore = decimal range.lo
  endCore : d.endCore = decimal range.hi

/-- The specifications that `run_exp_vm` reads: plain names, and `speccpu` with an assembly
    variant.  Without the variant the range stands one field earlier than it is looked for. -/
def VmReadable : Workload → Prop
  | .plain w => ¬ "speccpu".toList <:+: w.text
  | .speccpu _ _ none => False
  | .speccpu benchmark iterations (some asm) => ReachesSpeccpu (.speccpu benchmark iterations (some asm))

/-- The specifications that run_in_host.sh reads: plain names, and `speccpu` without an assembly
    variant.  With one, the variant is taken for the range. -/
def HostReadable : Workload → CoreRange → Prop
  | .plain w, _ => ¬ "speccpu".toList <:+: w.text
  | .speccpu _ _ none, _ => True
  | .speccpu _ _ (some asm), range =>
      cut '-' 1 asm.text = decimal range.lo ∧ cut '-' 2 asm.text = decimal range.hi

theorem Workload.text_plain (w : Word) : (Workload.plain w).text = w.text := by
  simp [text, fields]

theorem runExpVm_plain {w : Word} (ordinary : ¬ "speccpu".toList <:+: w.text) (range : CoreRange)
    (fileSuffix : Text) :
    ∃ d, runExpVm fileSuffix (vmName (.plain w) range) = some d ∧ DecodesTo (.plain w) range d := by
  have absent : contains "speccpu".toList (vmName (.plain w) range) = false := by
    rw [← Bool.not_eq_true, contains_speccpu, Workload.text_plain]
    exact ordinary
  cases arm : caseArm (vmName (.plain w) range) with
  | speccpu => exact absurd ((contains_of_caseArm arm).symm.trans absent) (by simp)
  | script name =>
      refine ⟨_, by simp only [runExpVm, arm, absent]; rfl, ?_⟩
      simp only [cut_vmName, Workload.fields]
      exact ⟨rfl, rfl, range.cut_lo, range.cut_hi⟩

/-- A name with `speccpu` in it is read by the `speccpu` arm or not at all. -/
theorem caseArm_of_runExpVm {wl : Workload} {range : CoreRange} {fileSuffix : Text} {d : Decoded}
    (inside : "speccpu".toList <:+: wl.text)
    (run : runExpVm fileSuffix (vmName wl range) = some d) :
    caseArm (vmName wl range) = .speccpu ∧
      d.startCore = cut '-' 1 (cut ':' 5 (vmName wl range)) := by
  have present := (contains_speccpu wl range).mpr inside
  cases arm : caseArm (vmName wl range) with
  | script name => simp only [runExpVm, arm, present, if_true, reduceCtorEq] at run
  | speccpu =>
      simp only [runExpVm, arm, Option.some.injEq] at run
      exact ⟨rfl, by rw [← run]⟩

theorem not_decodesTo_of_short {wl : Workload} {range : CoreRange} {fileSuffix : Text} {d : Decoded}
    (inside : "speccpu".toList <:+: wl.text) (short : wl.fields.length ≤ 3)
    (run : runExpVm fileSuffix (vmName wl range) = some d) : ¬ DecodesTo wl range d := by
  intro decoded
  have start := (caseArm_of_runExpVm inside run).2
  have missing : (wl.fields ++ [range.text])[5 - 1]? = none :=
    List.getElem?_eq_none (by simp only [List.length_append, List.length_singleton]; omega)
  rw [decoded.startCore, cut_vmName, missing] at start
  exact decimal_ne_nil range.lo start

theorem runExpVm_speccpu {benchmark asm : Word} {iterations : Nat} {range : CoreRange}
    (reaches : ReachesSpeccpu (.speccpu benchmark iterations (some asm))) (fileSuffix : Text) :
    ∃ d, runExpVm fileSuffix (vmName (.speccpu benchmark iterations (some asm)) range) = some d ∧
      DecodesTo (.speccpu benchmark iterations (some asm)) range d := by
  have arm := (caseArm_speccpu_iff _ range (speccpu_mem_text benchmark iterations (some asm))).mpr reaches
  refine ⟨_, by simp only [runExpVm, arm]; rfl, ?_⟩
  simp only [cut_vmName, Workload.fields]
  exact ⟨rfl, rfl, range.cut_lo, range.cut_hi⟩

theorem runExpVm_decodes_iff (wl : Workload) (range : CoreRange) (fileSuffix : Text) :
    (∃ d, runExpVm fileSuffix (vmName wl range) = some d ∧ DecodesTo wl range d) ↔ VmReadable wl := by
  rcases wl with w | ⟨benchmark, iterations, _ | asm⟩
  · constructor
    · rintro ⟨d, run, decoded⟩ inside
      rw [← Workload.text_plain] at inside
      exact not_decodesTo_of_short inside (by simp [Workload.fields]) run decoded
    · exact fun ordinary => runExpVm_plain ordinary range fileSuffix
  · constructor
    · rintro ⟨d, run, decoded⟩
      exact not_decodesTo_of_short (speccpu_mem_text _ _ _) (by simp [Workload.fields]) run decoded
    · exact False.elim
  · constructor
    · rintro ⟨d, run, -⟩
      have inside := speccpu_mem_text benchmark iterations (some asm)
      exact (caseArm_speccpu_iff _ range inside).mp (caseArm_of_runExpVm inside run).1
    · exact fun reaches => runExpVm_speccpu reaches fileSuffix

theorem runInHost_decodes_iff (wl : Workload) (range : CoreRange) (fileSuffix : Text) :
    DecodesTo wl range (runInHost fileSuffix (vmName wl range)) ↔ HostReadable wl range := by
  rcases wl with w | ⟨benchmark, iterations, asm⟩
  · by_cases inside : "speccpu".toList <:+: w.text
    · have present := (contains_speccpu (.plain w) range).mpr (by rwa [Workload.text_plain])
      constructor
      · intro decoded
        have start := decoded.startCore
        simp only [runInHost, present, if_true, cut_vmName, Workload.fields] at start
        exact absurd start.symm (decimal_ne_nil range.lo)
      · exact fun ordinary => absurd inside ordinary
    · have absent : contains "speccpu".toList (vmName (.plain w) range) = false := by
        rw [← Bool.not_eq_true, contains_speccpu, Workload.text_plain]
        exact inside
      refine iff_of_true ?_ inside
      simp only [runInHost, absent, Bool.false_eq_true, if_false, cut_vmName, Workload.fields]
      exact ⟨rfl, rfl, range.cut_lo, range.cut_hi⟩
  · have present := (contains_speccpu _ range).mpr (speccpu_mem_text benchmark iterations asm)
    cases asm with
    | none =>
        refine iff_of_true ?_ trivial
        simp only [runInHost, present, if_true, cut_vmName, Workload.fields]
        exact ⟨rfl, rfl, range.cut_lo, range.cut_hi⟩
    | some asm =>
        simp only [runInHost, present, if_true, cut_vmName, Workload.fields]
        exact ⟨fun decoded => ⟨decoded.startCore, decoded.endCore⟩,
          fun spelled => ⟨rfl, rfl, spelled.1, spelled.2⟩⟩

theorem runExpVm_resultFile {wl : Workload} {range : CoreRange} {fileSuffix : Text} {d : Decoded}
    (run : runExpVm fileSuffix (vmName wl range) = some d) (decoded : DecodesTo wl range d) :
    d.resultFile = wl.name ++ '_' :: range.text ++ '_' :: fileSuffix ++ "_1".toList ∨
      d.resultFile = wl.name ++ '_' :: range.text ++ '_' :: fileSuffix ++ "_rep_1".toList := by
  rw [← decoded.workload, CoreRange.text, rangeText, ← decoded.startCore, ← decoded.endCore]
  cases arm : caseArm (vmName wl range) with
  | speccpu =>
      simp only [runExpVm, arm, Option.some.injEq] at run
      subst run
      exact .inl rfl
  | script name =>
      simp only [runExpVm, arm] at run
      split at run
      · cases run
      · cases run
        exact .inr rfl

theorem runInHost_resultFile {wl : Workload} {range : CoreRange} {fileSuffix : Text}
    (decoded : DecodesTo wl range (runInHost fileSuffix (vmName wl range))) :
    (runInHost fileSuffix (vmName wl range)).resultFile =
      wl.name ++ '_' :: range.text ++ '_' :: fileSuffix := by
  rw [← decoded.workload, CoreRange.text, rangeText, ← decoded.startCore, ← decoded.endCore]
  rw [runInHost]
  split <;> rfl

theorem CoreRange.underscore_not_mem (range : CoreRange) : '_' ∉ range.text :=
  not_mem_text (by decide) (by decide)

/-- Behind the last underscore of `name_lo-hi` stands the range. -/
theorem range_eq_of_stem {x y : Text} {range range' : CoreRange}
    (same : x ++ '_' :: range.text = y ++ '_' :: range'.text) : range = range' :=
  CoreRange.text_injective
    (suffix_eq_of_sep range.underscore_not_mem range'.underscore_not_mem same)

theorem shifted_ne {tail : Text} (head : tail.head? ≠ some 'p') (rest : Text) (suffix : Text) :
    suffix ++ '_' :: tail ≠ "per_".toList ++ (suffix ++ '_' :: rest) := by
  intro same
  -- Each turn takes one `per_` off the suffix, until the underscore in front of `tail` is met.
  match suffix with
  | [] => simp at same
  | [_] => simp at same
  | [_, _] => simp at same
  | [_, _, _] =>
      simp at same
      rw [same.2.2.2] at head
      simp [same.1] at head
  | p :: e :: r :: u :: suffix =>
      have split : [p, e, r, u] ++ (suffix ++ '_' :: tail) =
          "per_".toList ++ ([p, e, r, u] ++ (suffix ++ '_' :: rest)) := same
      obtain ⟨start, turn⟩ := List.append_inj split rfl
      rw [start] at turn
      exact shifted_ne head rest suffix turn

/-- The suffix `_rep_1` cannot be mistaken for the suffix `_1`: the file suffix would have to start
    over again inside itself, down to a range with a letter in it. -/
theorem rep_stem_ne (fileSuffix x y : Text) (range range' : CoreRange) :
    x ++ '_' :: range.text ++ '_' :: fileSuffix ++ "_1".toList ≠
      y ++ '_' :: range'.text ++ '_' :: fileSuffix ++ "_rep_1".toList := by
  intro same
  have digit : (range.text.reverse ++ '_' :: x.reverse).head? ≠ some 'p' := by
    intro start
    have member : 'p' ∈ range.text.reverse ++ ['_'] := by
      rw [List.append_cons] at start
      exact List.mem_of_mem_head? (by rwa [List.head?_append_of_ne_nil _ (by simp)] at start)
    have letter : 'p' ∉ range.text := CoreRange.not_mem_text (by decide) (by decide)
    simp [letter] at member
  refine shifted_ne digit (range'.text.reverse ++ '_' :: y.reverse) fileSuffix.reverse ?_
  simpa using congrArg List.reverse same

/-- The names of the configured VMs, as the word loops of the readers see them. -/
def vmNames (vms : List (Workload × CoreRange)) : List Text :=
  commaWords (initVmNames ([','].intercalate (vms.map fun vm => vm.1.text))
    (vms.map fun vm => vm.2.text))

theorem Workload.comma_not_mem_text (wl : Workload) : ',' ∉ wl.text := by
  intro member
  obtain ⟨field, inside, here⟩ := exists_of_mem_intercalate (by decide) member
  exact wl.not_mem_fields (by decide) field inside here

theorem Workload.text_ne_nil (wl : Workload) : wl.text ≠ [] := by
  rcases wl with w | ⟨benchmark, iterations, asm⟩
  · rw [text_plain]
    exact w.nonempty
  · intro empty
    have inside := speccpu_mem_text benchmark iterations asm
    rw [empty] at inside
    exact absurd (List.infix_nil.mp inside) (by decide)

theorem commaWords_workloads (workloads : List Workload) :
    commaWords ([','].intercalate (workloads.map Workload.text)) = workloads.map Workload.text := by
  refine commaWords_intercalate fun text member => ?_
  obtain ⟨wl, -, rfl⟩ := List.mem_map.mp member
  exact ⟨wl.comma_not_mem_text, wl.text_ne_nil⟩

theorem vmNames_eq (vms : List (Workload × CoreRange)) :
    vmNames vms = vms.map fun vm => vmName vm.1 vm.2 := by
  have workloads : commaWords ([','].intercalate (vms.map fun vm => vm.1.text)) =
      vms.map fun vm => vm.1.text := by
    simpa [Function.comp_def] using commaWords_workloads (vms.map Prod.fst)
  have names : ((vms.map fun vm => vm.1.text).zipIdx.map fun (wl, i) =>
      wl ++ ':' :: ((vms.map fun vm => vm.2.text)[i]?).getD []) =
        vms.map fun vm => vmName vm.1 vm.2 := by
    refine List.ext_getElem? fun i => ?_
    cases here : vms[i]? <;> simp [here, vmName]
  rw [vmNames, initVmNames, workloads, names]
  refine commaWords_intercalate fun text member => ?_
  obtain ⟨vm, -, rfl⟩ := List.mem_map.mp member
  have range : ',' ∉ vm.2.text := CoreRange.not_mem_text (by decide) (by decide)
  exact ⟨by simp [vmName, vm.1.comma_not_mem_text, range], by simp [vmName]⟩

/-- A reader of names gets every VM's configuration back, and keeps the results of different core
    ranges in different files. -/
structure RoundTrips (decode : Text → Option Decoded) (vms : List (Workload × CoreRange)) : Prop where
  decoded : List.Forall₂ (fun vm name => ∃ d, decode name = some d ∧ DecodesTo vm.1 vm.2 d)
    vms (vmNames vms)
  separate : ∀ vm ∈ vms.zip (vmNames vms), ∀ vm' ∈ vms.zip (vmNames vms), ∀ d d',
    decode vm.2 = some d → decode vm'.2 = some d' → vm.1.2 ≠ vm'.1.2 → d.resultFile ≠ d'.resultFile

/-- A reader that reads single names back, and whose result files show the range, does so for
    every configuration. -/
theorem roundTrips_iff_forall {decode : Text → Option Decoded}
    {Readable : Workload → CoreRange → Prop}
    (one : ∀ wl range,
      (∃ d, decode (vmName wl range) = some d ∧ DecodesTo wl range d) ↔ Readable wl range)
    (files : ∀ {wl wl' range range' d d'},
      decode (vmName wl range) = some d → DecodesTo wl range d →
      decode (vmName wl' range') = some d' → DecodesTo wl' range' d' →
      d.resultFile = d'.resultFile → range = range')
    (vms : List (Workload × CoreRange)) :
    RoundTrips decode vms ↔ ∀ vm ∈ vms, Readable vm.1 vm.2 := by
  have pair : ∀ {vm name}, (vm, name) ∈ vms.zip (vmNames vms) →
      vm ∈ vms ∧ vmName vm.1 vm.2 = name := by
    intro vm name member
    obtain ⟨i, here⟩ := List.mem_iff_getElem?.mp member
    rw [vmNames_eq, List.getElem?_zip_eq_some, List.getElem?_map] at here
    obtain ⟨found, named⟩ := here
    rw [found] at named
    exact ⟨List.mem_of_getElem? found, Option.some.inj named⟩
  constructor
  · intro trip vm member
    have decoded := trip.decoded
    rw [vmNames_eq, List.forall₂_map_right_iff, List.forall₂_same] at decoded
    exact (one vm.1 vm.2).mp (decoded vm member)
  · intro readable
    refine ⟨?_, ?_⟩
    · rw [vmNames_eq, List.forall₂_map_right_iff, List.forall₂_same]
      exact fun vm member => (one vm.1 vm.2).mpr (readable vm member)
    · rintro ⟨vm, name⟩ member ⟨vm', name'⟩ member' d d' run run' differ same
      obtain ⟨inside, rfl⟩ := pair member
      obtain ⟨inside', rfl⟩ := pair member'
      obtain ⟨e, runs, decoded⟩ := (one vm.1 vm.2).mpr (readable vm inside)
      obtain ⟨e', runs', decoded'⟩ := (one vm'.1 vm'.2).mpr (readable vm' inside')
      cases run.symm.trans runs
      cases run'.symm.trans runs'
      exact differ (files run decoded run' decoded' same)

theorem runExpVm_range_eq {wl wl' : Workload} {range range' : CoreRange} {fileSuffix : Text}
    {d d' : Decoded} (run : runExpVm fileSuffix (vmName wl range) = some d)
    (decoded : DecodesTo wl range d) (run' : runExpVm fileSuffix (vmName wl' range') = some d')
    (decoded' : DecodesTo wl' range' d') (same : d.resultFile = d'.resultFile) : range = range' := by
  rcases runExpVm_resultFile run decoded with file | file <;>
    rcases runExpVm_resultFile run' decoded' with file' | file' <;> rw [file, file'] at same
  · exact range_eq_of_stem (List.append_cancel_right (List.append_cancel_right same))
  · exact absurd same (rep_stem_ne _ _ _ _ _)
  · exact absurd same.symm (rep_stem_ne _ _ _ _ _)
  · exact range_eq_of_stem (List.append_cancel_right (List.append_cancel_right same))

theorem runInHost_range_eq {wl wl' : Workload} {range range' : CoreRange} {fileSuffix : Text}
    (decoded : DecodesTo wl range (runInHost fileSuffix (vmName wl range)))
    (decoded' : DecodesTo wl' range' (runInHost fileSuffix (vmName wl' range')))
    (same : (runInHost fileSuffix (vmName wl range)).resultFile =
      (runInHost fileSuffix (vmName wl' range')).resultFile) : range = range' := by
  rw [runInHost_resultFile decoded, runInHost_resultFile decoded'] at same
  exact range_eq_of_stem (List.append_cancel_right same)

theorem runExpVm_roundTrips_iff (fileSuffix : Text) (vms : List (Workload × CoreRange)) :
    RoundTrips (runExpVm fileSuffix) vms ↔ ∀ vm ∈ vms, VmReadable vm.1 :=
  roundTrips_iff_forall (fun wl range => runExpVm_decodes_iff wl range fileSuffix)
    runExpVm_range_eq vms

theorem runInHost_roundTrips_iff (fileSuffix : Text) (vms : List (Workload × CoreRange)) :
    RoundTrips (fun name => some (runInHost fileSuffix name)) vms ↔
      ∀ vm ∈ vms, HostReadable vm.1 vm.2 := by
  refine roundTrips_iff_forall ?_ ?_ vms
  · intro wl range
    rw [← runInHost_decodes_iff wl range fileSuffix]
    simp
  · rintro wl wl' range range' d d' run decoded run' decoded' same
    cases run
    cases run'
    exact runInHost_range_eq decoded decoded' same

/-- Which configurations survive the trip through the VM names, whichever reader gets them. -/
theorem roundTrips_iff (fileSuffix : Text) (vms : List (Workload × CoreRange)) :
    (RoundTrips (runExpVm fileSuffix) vms ∧
        RoundTrips (fun name => some (runInHost fileSuffix name)) vms) ↔
      ∀ vm ∈ vms, VmReadable vm.1 ∧ HostReadable vm.1 vm.2 := by
  rw [runExpVm_roundTrips_iff, runInHost_roundTrips_iff, forall₂_and]

def gcc : Word := ⟨"502.gcc_r".toList, by decide, List.all_iff_forall_prop.mp (by decide)⟩

/-- The very example in the comment of run.sh: the cores of `speccpu:502.gcc_r:3:46-47` are read as
    empty, and the range is taken for the assembly variant. -/
theorem runExpVm_misreads_gcc :
    runExpVm "x".toList (vmName (.speccpu gcc 3 none) ⟨46, 47⟩) =
        some
          { script := "run_speccpu.sh".toList
            workload := "502.gcc_r".toList
            iterations := some "3".toList
            asm := some "46-47".toList
            startCore := []
            endCore := []
            resultFile := "502.gcc_r_-_x_1".toList } ∧
      ¬ RoundTrips (runExpVm "x".toList) [(.speccpu gcc 3 none, ⟨46, 47⟩)] := by
  refine ⟨by decide, ?_⟩
  rw [runExpVm_roundTrips_iff]
  simp [VmReadable]

end KvmWorkload.RunTestcases
