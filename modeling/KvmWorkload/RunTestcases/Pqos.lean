import KvmWorkload.Lib.Lists
import KvmWorkload.RunTestcases.VmNames

/-! # Classes of service set with pqos

`main` of run_testcases.sh makes up to three passes that each associate the
cores of the VMs with a class of service (COS), each from a list of its own.
A core has one class at a time, so the last pass decides; the cache masks and
the bandwidth belong to classes, not to VMs.

Modelled are runs in VMs (`HOST_EXP` is not 1) with pqos (`RESCTRL` is not 1).
-/

namespace KvmWorkload.RunTestcases

/-- The configuration file: which features are on, and their lists, split at the commas.  A list of
    a feature that is on has an entry for each VM. -/
structure QosConfig where
  vms : Nat
  llcEnable : Bool
  llcCosWl : List Nat
  llcCosWays : List Text
  l2cEnable : Bool
  l2cCosWl : List Nat
  l2cCosWays : List Text
  hwdrcEnable : Bool
  hwdrcCosWl : List Nat
  mbaEnable : Bool
  mbaCosWl : List Nat
  mbaCosVal : List (Nat × Text)
  cpatEnable : Bool
  cpatCos : List Nat
  llcLength : llcEnable = true → llcCosWl.length = vms ∧ llcCosWays.length = vms
  l2cLength : l2cEnable = true → l2cCosWl.length = vms ∧ l2cCosWays.length = vms
  hwdrcLength : hwdrcEnable = true → hwdrcCosWl.length = vms
  mbaLength : mbaEnable = true → mbaCosWl.length = vms
  cpatLength : cpatEnable = true → cpatCos.length = vms

/-- What a class carries after `pqos -R`. -/
structure Reset where
  llc : Text
  l2 : Text
  mba : Text

/-- The state that pqos and the HWDRC mailbox keep. -/
structure Pqos where
  /-- The class of each core. -/
  assoc : Nat → Nat
  llc : Nat → Text
  l2 : Nat → Text
  mba : Nat → Text
  /-- The CLOSToMEMCLOS register, two bits for each class. -/
  closToMemclos : Nat

namespace Pqos

/-- `setup_env`: `pqos -R`, and HWDRC disabled. -/
def setupEnv (reset : Reset) : Pqos where
  assoc := fun _ => 0
  llc := fun _ => reset.llc
  l2 := fun _ => reset.l2
  mba := fun _ => reset.mba
  closToMemclos := 0

/-- `pqos -a "llc:$cos=$range"` and `pqos -a "core:$cos=$range"`; an empty range is an error. -/
def associate (s : Pqos) (cos : Nat) : Option CoreRange → Pqos
  | none => s
  | some range =>
      { s with assoc := fun core => if range.lo ≤ core ∧ core ≤ range.hi then cos else s.assoc core }

/-- The loop `for cos in list; pqos -a "...:$cos=${VM_CORE_RANGE[i]}"; i=$((i+1))`. -/
def associateAll : List Nat → Nat → Pqos → Pqos
  | [], _, s => s
  | cos :: rest, i, s => associateAll rest (i + 1) (s.associate cos initVmCoreRange[i]?)

def memClass (s : Pqos) (cos : Nat) : Nat := s.closToMemclos >>> (2 * cos) &&& 3

end Pqos

def setupLlcWays (cfg : QosConfig) (s : Pqos) : Pqos :=
  let s := { s with llc := applySettings (cfg.llcCosWl.zip cfg.llcCosWays) s.llc }
  s.associateAll cfg.llcCosWl 0

def setupL2cWays (cfg : QosConfig) (s : Pqos) : Pqos :=
  let s := { s with l2 := applySettings (cfg.l2cCosWl.zip cfg.l2cCosWays) s.l2 }
  s.associateAll cfg.l2cCosWl 0

/-- `hp_lp_corun_hwdrc` up to the start of the workloads.  The cores are associated by the LLC list,
    `HWDRC_COS_WL` is not read. -/
def hpLpCorunHwdrc (cfg : QosConfig) (s : Pqos) : Pqos :=
  { s with closToMemclos := 0x0000E400 }.associateAll cfg.llcCosWl 0

def hpLpCorunMba (cfg : QosConfig) (s : Pqos) : Pqos :=
  let s := s.associateAll cfg.mbaCosWl 0
  { s with mba := applySettings cfg.mbaCosVal s.mba }

def hpLpCorunCpat (cfg : QosConfig) (s : Pqos) : Pqos :=
  (s.associateAll cfg.cpatCos 0).associate 7 (some ⟨120, 179⟩)

/-- `main`, up to the moment at which `hp_lp_corun` starts the workloads. -/
def mainPqos (cfg : QosConfig) (reset : Reset) : Pqos :=
  let s := Pqos.setupEnv reset
  let s := if cfg.llcEnable then setupLlcWays cfg s else s
  let s := if cfg.l2cEnable then setupL2cWays cfg s else s
  if cfg.hwdrcEnable then hpLpCorunHwdrc cfg s
  else if cfg.mbaEnable then hpLpCorunMba cfg s
  else if cfg.cpatEnable then hpLpCorunCpat cfg s
  else s

/-- The bandwidth that `MBA_COS_VAL` gives to a class. -/
def QosConfig.mbaValue (cfg : QosConfig) (reset : Reset) (cos : Nat) : Text :=
  (lastEntry cfg.mbaCosVal cos).getD reset.mba

/-- A core of VM `i` is governed by what each enabled feature configures for VM `i`. -/
structure Governed (cfg : QosConfig) (reset : Reset) (s : Pqos) (i core : Nat) : Prop where
  llc : cfg.llcEnable = true → cfg.llcCosWays[i]? = some (s.llc (s.assoc core))
  l2 : cfg.l2cEnable = true → cfg.l2cCosWays[i]? = some (s.l2 (s.assoc core))
  mba : cfg.mbaEnable = true → ∀ cos, cfg.mbaCosWl[i]? = some cos →
    s.mba (s.assoc core) = cfg.mbaValue reset cos
  hwdrc : cfg.hwdrcEnable = true → ∀ cos, cfg.hwdrcCosWl[i]? = some cos →
    s.memClass (s.assoc core) = s.memClass cos

/-- Every core of every VM is governed by its configuration. -/
def AllGoverned (cfg : QosConfig) (reset : Reset) : Prop :=
  ∀ (i : Nat) (range : CoreRange), i < cfg.vms → initVmCoreRange[i]? = some range →
    ∀ core, range.lo ≤ core ∧ core ≤ range.hi → Governed cfg reset (mainPqos cfg reset) i core

/-- The memory class of a COS in HWDRC mode. -/
def hwdrcClass (cos : Nat) : Nat := 0x0000E400 >>> (2 * cos) &&& 3

/-- The COS lists in the order in which a run reads them to associate cores. -/
def QosConfig.lists (cfg : QosConfig) : List (List Nat) :=
  (if cfg.llcEnable then [cfg.llcCosWl] else []) ++
  (if cfg.l2cEnable then [cfg.l2cCosWl] else []) ++
  (if cfg.hwdrcEnable then [cfg.llcCosWl]
   else if cfg.mbaEnable then [cfg.mbaCosWl]
   else if cfg.cpatEnable then [cfg.cpatCos]
   else [])

/-- The entry for VM `i` in the last of the lists that has one. -/
def lastCos (lists : List (List Nat)) (i : Nat) : Nat :=
  lists.foldl (fun cos list => (list[i]?).getD cos) 0

/-- The last COS of VM `i` carries, in the table of each enabled feature, the value of VM `i`. -/
structure CosFits (cfg : QosConfig) (reset : Reset) (i : Nat) : Prop where
  llc : cfg.llcEnable = true → cfg.llcCosWays[i]? =
    some ((lastEntry (cfg.llcCosWl.zip cfg.llcCosWays) (lastCos cfg.lists i)).getD reset.llc)
  l2 : cfg.l2cEnable = true → cfg.l2cCosWays[i]? =
    some ((lastEntry (cfg.l2cCosWl.zip cfg.l2cCosWays) (lastCos cfg.lists i)).getD reset.l2)
  mba : cfg.mbaEnable = true → ∀ cos, cfg.mbaCosWl[i]? = some cos →
    (if cfg.hwdrcEnable then reset.mba else cfg.mbaValue reset (lastCos cfg.lists i)) =
      cfg.mbaValue reset cos
  hwdrc : cfg.hwdrcEnable = true → ∀ cos, cfg.hwdrcCosWl[i]? = some cos →
    hwdrcClass (lastCos cfg.lists i) = hwdrcClass cos

theorem range_unique {i j core : Nat} {range range' : CoreRange}
    (here : initVmCoreRange[i]? = some range) (there : initVmCoreRange[j]? = some range')
    (inside : range.lo ≤ core ∧ core ≤ range.hi) (inside' : range'.lo ≤ core ∧ core ≤ range'.hi) :
    i = j := by
  match i, j, here, there with
  | 0, 0, _, _ => rfl
  | 1, 1, _, _ => rfl
  | 0, 1, rfl, rfl => simp only at inside inside'; omega
  | 1, 0, rfl, rfl => simp only at inside inside'; omega

theorem Pqos.associateAll_assoc {i core : Nat} {range : CoreRange}
    (here : initVmCoreRange[i]? = some range) (inside : range.lo ≤ core ∧ core ≤ range.hi)
    (cosWl : List Nat) (k : Nat) (s : Pqos) :
    (s.associateAll cosWl k).assoc core =
      if k ≤ i then (cosWl[i - k]?).getD (s.assoc core) else s.assoc core := by
  induction cosWl generalizing k s with
  | nil => simp [associateAll]
  | cons cos rest ih =>
      rw [associateAll, ih]
      have step : (s.associate cos initVmCoreRange[k]?).assoc core =
          if k = i then cos else s.assoc core := by
        cases there : initVmCoreRange[k]? with
        | none =>
            have other : k ≠ i := by
              rintro rfl
              rw [here] at there
              cases there
            rw [if_neg other]
            rfl
        | some range' =>
            by_cases same : k = i
            · subst same
              rw [here] at there
              cases there
              rw [if_pos rfl]
              exact if_pos inside
            · rw [if_neg same]
              exact if_neg fun inside' => same (range_unique there here inside' inside)
      rw [step]
      by_cases same : k = i
      · subst same
        simp
      · by_cases before : k + 1 ≤ i
        · rw [if_pos before, if_neg same, if_pos (by omega), show i - k = i - (k + 1) + 1 by omega]
          rfl
        · rw [if_neg before, if_neg same, if_neg (by omega)]

/-- A pass changes nothing but the classes of cores. -/
theorem Pqos.associateAll_frame (cosWl : List Nat) (k : Nat) (s : Pqos) :
    s.associateAll cosWl k = { s with assoc := (s.associateAll cosWl k).assoc } := by
  induction cosWl generalizing k s with
  | nil => rfl
  | cons cos rest ih =>
      rw [associateAll, ih]
      cases initVmCoreRange[k]? <;> rfl

theorem Pqos.pass_assoc {i core : Nat} {range : CoreRange} (here : initVmCoreRange[i]? = some range)
    (inside : range.lo ≤ core ∧ core ≤ range.hi) (list : List Nat) (s : Pqos) :
    (s.associateAll list 0).assoc core = (list[i]?).getD (s.assoc core) := by
  rw [associateAll_assoc here inside, if_pos (Nat.zero_le i), Nat.sub_zero]

theorem mainPqos_assoc (cfg : QosConfig) (reset : Reset) {i core : Nat} {range : CoreRange}
    (here : initVmCoreRange[i]? = some range) (inside : range.lo ≤ core ∧ core ≤ range.hi) :
    (mainPqos cfg reset).assoc core = lastCos cfg.lists i := by
  have pass := fun list s => Pqos.pass_assoc here inside list s
  have smt : ¬ (120 ≤ core ∧ core ≤ 179) := by
    match i, here with
    | 0, rfl => simp only at inside; omega
    | 1, rfl => simp only at inside; omega
  have cpat : ∀ s : Pqos, (s.associate 7 (some ⟨120, 179⟩)).assoc core = s.assoc core :=
    fun s => if_neg smt
  rw [mainPqos, lastCos, QosConfig.lists]
  cases cfg.llcEnable <;> cases cfg.l2cEnable <;> cases cfg.hwdrcEnable <;> cases cfg.mbaEnable <;>
    cases cfg.cpatEnable <;>
    simp [setupLlcWays, setupL2cWays, hpLpCorunHwdrc, hpLpCorunMba, hpLpCorunCpat, pass, cpat,
      Pqos.setupEnv]

@[simp] theorem Pqos.associateAll_llc (cosWl : List Nat) (k : Nat) (s : Pqos) :
    (s.associateAll cosWl k).llc = s.llc := by rw [associateAll_frame]

@[simp] theorem Pqos.associateAll_l2 (cosWl : List Nat) (k : Nat) (s : Pqos) :
    (s.associateAll cosWl k).l2 = s.l2 := by rw [associateAll_frame]

@[simp] theorem Pqos.associateAll_mba (cosWl : List Nat) (k : Nat) (s : Pqos) :
    (s.associateAll cosWl k).mba = s.mba := by rw [associateAll_frame]

@[simp] theorem Pqos.associateAll_closToMemclos (cosWl : List Nat) (k : Nat) (s : Pqos) :
    (s.associateAll cosWl k).closToMemclos = s.closToMemclos := by rw [associateAll_frame]

theorem mainPqos_tables (cfg : QosConfig) (reset : Reset) :
    (mainPqos cfg reset).llc =
        (if cfg.llcEnable then applySettings (cfg.llcCosWl.zip cfg.llcCosWays) else id)
          (fun _ => reset.llc) ∧
      (mainPqos cfg reset).l2 =
        (if cfg.l2cEnable then applySettings (cfg.l2cCosWl.zip cfg.l2cCosWays) else id)
          (fun _ => reset.l2) ∧
      (mainPqos cfg reset).mba =
        (if cfg.hwdrcEnable then id else if cfg.mbaEnable then applySettings cfg.mbaCosVal else id)
          (fun _ => reset.mba) ∧
      (mainPqos cfg reset).closToMemclos = if cfg.hwdrcEnable then 0x0000E400 else 0 := by
  rw [mainPqos]
  cases cfg.llcEnable <;> cases cfg.l2cEnable <;> cases cfg.hwdrcEnable <;> cases cfg.mbaEnable <;>
    cases cfg.cpatEnable <;>
    simp [setupLlcWays, setupL2cWays, hpLpCorunHwdrc, hpLpCorunMba, hpLpCorunCpat, Pqos.setupEnv,
      Pqos.associate]

/-- On the cores of VM `i`, the state of the machine and the lists of the configuration say the
    same. -/
theorem governed_iff (cfg : QosConfig) (reset : Reset) {i core : Nat} {range : CoreRange}
    (here : initVmCoreRange[i]? = some range) (inside : range.lo ≤ core ∧ core ≤ range.hi) :
    Governed cfg reset (mainPqos cfg reset) i core ↔ CosFits cfg reset i := by
  obtain ⟨llc, l2, mba, memclos⟩ := mainPqos_tables cfg reset
  have cos := mainPqos_assoc cfg reset here inside
  have llcValue : cfg.llcEnable = true → (mainPqos cfg reset).llc (lastCos cfg.lists i) =
      (lastEntry (cfg.llcCosWl.zip cfg.llcCosWays) (lastCos cfg.lists i)).getD reset.llc := by
    intro on
    rw [llc, if_pos on, applySettings_apply]
  have l2Value : cfg.l2cEnable = true → (mainPqos cfg reset).l2 (lastCos cfg.lists i) =
      (lastEntry (cfg.l2cCosWl.zip cfg.l2cCosWays) (lastCos cfg.lists i)).getD reset.l2 := by
    intro on
    rw [l2, if_pos on, applySettings_apply]
  have mbaValue : cfg.mbaEnable = true → (mainPqos cfg reset).mba (lastCos cfg.lists i) =
      if cfg.hwdrcEnable then reset.mba else cfg.mbaValue reset (lastCos cfg.lists i) := by
    intro on
    rw [mba, if_pos on]
    cases cfg.hwdrcEnable with
    | true => rfl
    | false => exact applySettings_apply _ _ _
  have classes : cfg.hwdrcEnable = true → ∀ cos, (mainPqos cfg reset).memClass cos = hwdrcClass cos := by
    intro on cos
    rw [Pqos.memClass, memclos, if_pos on, hwdrcClass]
  constructor
  · rintro ⟨llcHere, l2Here, mbaHere, hwdrcHere⟩
    rw [cos] at llcHere l2Here mbaHere hwdrcHere
    refine ⟨fun on => ?_, fun on => ?_, fun on cos' entry => ?_, fun on cos' entry => ?_⟩
    · rw [← llcValue on]; exact llcHere on
    · rw [← l2Value on]; exact l2Here on
    · rw [← mbaValue on]; exact mbaHere on cos' entry
    · rw [← classes on, ← classes on]; exact hwdrcHere on cos' entry
  · rintro ⟨llcFits, l2Fits, mbaFits, hwdrcFits⟩
    refine ⟨fun on => ?_, fun on => ?_, fun on cos' entry => ?_, fun on cos' entry => ?_⟩
    · rw [cos, llcValue on]; exact llcFits on
    · rw [cos, l2Value on]; exact l2Fits on
    · rw [cos, mbaValue on]; exact mbaFits on cos' entry
    · rw [cos, classes on, classes on]; exact hwdrcFits on cos' entry

/-- The features hold on the cores of every VM exactly when the last COS of each VM that has cores
    carries the values that all enabled features configure for it. -/
theorem allGoverned_iff (cfg : QosConfig) (reset : Reset) :
    AllGoverned cfg reset ↔ ∀ i, i < cfg.vms → i < 2 → CosFits cfg reset i := by
  constructor
  · intro governed i small few
    match i, few with
    | 0, _ =>
        have inside : (0 : Nat) ≤ 0 ∧ 0 ≤ 29 := by decide
        exact (governed_iff cfg reset rfl inside).mp (governed 0 ⟨0, 29⟩ small rfl 0 inside)
    | 1, _ =>
        have inside : 30 ≤ 30 ∧ 30 ≤ 59 := by decide
        exact (governed_iff cfg reset rfl inside).mp (governed 1 ⟨30, 59⟩ small rfl 30 inside)
  · intro fits i range small here core inside
    have few : i < 2 := (List.getElem?_eq_some_iff.mp here).1
    exact (governed_iff cfg reset here inside).mpr (fits i small few)

/-- Two VMs of the sample configuration: LLC classes 1 and 2, HWDRC classes 4 and 7. -/
def sampleQos : QosConfig where
  vms := 2
  llcEnable := true
  llcCosWl := [1, 2]
  llcCosWays := ["0x7fff".toList, "0x7fff".toList]
  l2cEnable := false
  l2cCosWl := []
  l2cCosWays := []
  hwdrcEnable := true
  hwdrcCosWl := [4, 7]
  mbaEnable := false
  mbaCosWl := []
  mbaCosVal := []
  cpatEnable := false
  cpatCos := []
  llcLength := by decide
  l2cLength := by decide
  hwdrcLength := by decide
  mbaLength := by decide
  cpatLength := by decide

def sampleReset : Reset := ⟨"0x7fff".toList, "0xffff".toList, "100".toList⟩

/-- The cores of the second VM are in class 2, whose memory class is the highest, instead of class 7
    with the lowest. -/
theorem sampleQos_not_governed :
    (mainPqos sampleQos sampleReset).assoc 30 = 2 ∧
      (mainPqos sampleQos sampleReset).memClass 2 = 0 ∧
      (mainPqos sampleQos sampleReset).memClass 7 = 3 ∧ ¬ AllGoverned sampleQos sampleReset := by
  refine ⟨by decide, by decide, by decide, fun governed => ?_⟩
  have second := (governed 1 ⟨30, 59⟩ (by decide) rfl 30 (by decide)).hwdrc rfl 7 rfl
  exact absurd second (by decide)

end KvmWorkload.RunTestcases
