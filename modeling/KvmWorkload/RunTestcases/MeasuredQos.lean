import KvmWorkload.Lib.Classes
import KvmWorkload.RunTestcases.Session
import Mathlib.Order.Interval.Finset.Nat

/-! # In which classes a run is measured

The tables of pqos and the core-power settings of intel-speed-select at the
moment at which a run starts its workloads, behind any sequence of earlier runs.
pqos is reset by every run.  The core-power classes are reset too, but not the
classes of the cores.
-/

namespace KvmWorkload.RunTestcases.Session

/-- What a command has pqos do; for an empty range it reports an error. -/
def HostCommand.classCommand : HostCommand → Option (ClassCommand CosTable)
  | .pqosReset => some .reset
  | .pqosAllocate table cos value => some (.allocate table cos value)
  | .pqosAssociate cos range => range.map fun range => .associate cos (Finset.Icc range.lo range.hi)
  | _ => none

def pqosStep (tool : ClassTool CosTable) (s : Classes CosTable) (command : HostCommand) : Classes CosTable :=
  command.classCommand.elim s (tool.step s)

/-- pqos accepts what a run asks of it in front of its workloads. -/
def Accepted (tool : ClassTool CosTable) (cfg : RunConfig) : Prop :=
  ∀ command ∈ (prepared cfg).filterMap HostCommand.classCommand, tool.accepts command = true

/-- What a class carries after `pqos -R`. -/
def resetOf (full : CosTable → Text) : Reset := ⟨full .llc, full .l2, full .mba⟩

/-- The part of the state that pqos keeps; the memory classes are in the DRC registers. -/
def classesOf (s : Pqos) : Classes CosTable where
  assoc := s.assoc
  value
    | .llc => s.llc
    | .l2 => s.l2
    | .mba => s.mba

/-- A command that is accepted. -/
def pqosApply (full : CosTable → Text) (s : Classes CosTable) (command : HostCommand) : Classes CosTable :=
  command.classCommand.elim s (ClassCommand.apply full s)

theorem pqosApply_other (full : CosTable → Text) (s : Classes CosTable) (command : HostCommand)
    (other : command.plane ≠ .pqos) : pqosApply full s command = s := by
  cases command <;> first | rfl | exact absurd rfl other

theorem foldl_pqosStep {tool : ClassTool CosTable} {cfg : RunConfig} (accepted : Accepted tool cfg)
    (s : Classes CosTable) : (prepared cfg).foldl (pqosStep tool) s = (prepared cfg).foldl (pqosApply tool.full) s := by
  calc (prepared cfg).foldl (pqosStep tool) s
      = ((prepared cfg).filterMap HostCommand.classCommand).foldl tool.step s := foldl_elim ..
    _ = ((prepared cfg).filterMap HostCommand.classCommand).foldl (ClassCommand.apply tool.full) s :=
        ClassTool.foldl_step accepted s
    _ = (prepared cfg).foldl (pqosApply tool.full) s := (foldl_elim ..).symm

section Passes

variable (full : CosTable → Text) (cfg : RunConfig) (s : Pqos)

theorem pqosApply_associate (cos : Nat) (range : Option CoreRange) :
    pqosApply full (classesOf s) (.pqosAssociate cos range) = classesOf (s.associate cos range) := by
  cases range with
  | none => rfl
  | some range =>
      simp only [pqosApply, HostCommand.classCommand, Option.map_some, Option.elim_some, ClassCommand.apply,
        Finset.mem_Icc]
      rfl

/-- The loop over a COS list is one pass over the classes of the cores. -/
theorem foldl_associateAll (cosWl : List Nat) :
    (associateAll cosWl).foldl (pqosApply full) (classesOf s) = classesOf (s.associateAll cosWl 0) := by
  rw [associateAll]
  generalize 0 = k
  induction cosWl generalizing k s with
  | nil => rfl
  | cons cos rest ih =>
      rw [List.zipIdx_cons, List.map_cons, List.foldl_cons, pqosApply_associate]
      exact ih _ (k + 1)

/-- One of the tables changed. -/
def modifyTable (change : (Nat → Text) → Nat → Text) : CosTable → Pqos
  | .llc => { s with llc := change s.llc }
  | .l2 => { s with l2 := change s.l2 }
  | .mba => { s with mba := change s.mba }

theorem pqosApply_allocate (table : CosTable) (cos : Nat) (value : Text) :
    pqosApply full (classesOf s) (.pqosAllocate table cos value) =
      classesOf (modifyTable s (fun values => Function.update values cos value) table) := by
  cases table <;> refine congrArg (Classes.mk s.assoc) (funext fun other => ?_) <;> cases other <;> rfl

theorem foldl_allocateAll (table : CosTable) (settings : List (Nat × Text)) :
    (allocateAll table settings).foldl (pqosApply full) (classesOf s) =
      classesOf (modifyTable s (applySettings settings) table) := by
  rw [allocateAll]
  induction settings generalizing s with
  | nil => cases table <;> rfl
  | cons entry rest ih =>
      rw [List.map_cons, List.foldl_cons, pqosApply_allocate, ih]
      cases table <;> rfl

theorem foldl_setupLlcWays :
    (if cfg.qos.llcEnable then setupLlcWays cfg else []).foldl (pqosApply full) (classesOf s) =
      classesOf (if cfg.qos.llcEnable then RunTestcases.setupLlcWays cfg.qos s else s) := by
  split_ifs
  · rw [setupLlcWays, List.foldl_append, foldl_allocateAll, foldl_associateAll]
    rfl
  · rfl

theorem foldl_setupL2cWays :
    (if cfg.qos.l2cEnable then setupL2cWays cfg else []).foldl (pqosApply full) (classesOf s) =
      classesOf (if cfg.qos.l2cEnable then RunTestcases.setupL2cWays cfg.qos s else s) := by
  split_ifs
  · rw [setupL2cWays, List.foldl_append, foldl_allocateAll, foldl_associateAll]
    rfl
  · rfl

theorem foldl_mode :
    (if cfg.qos.hwdrcEnable then associateAll cfg.qos.llcCosWl
      else if cfg.qos.mbaEnable then associateAll cfg.qos.mbaCosWl ++ allocateAll .mba cfg.qos.mbaCosVal
      else if cfg.qos.cpatEnable then associateAll cfg.qos.cpatCos ++ [.pqosAssociate 7 (some ⟨120, 179⟩)]
      else []).foldl (pqosApply full) (classesOf s) =
      classesOf
        (if cfg.qos.hwdrcEnable then RunTestcases.hpLpCorunHwdrc cfg.qos s
         else if cfg.qos.mbaEnable then RunTestcases.hpLpCorunMba cfg.qos s
         else if cfg.qos.cpatEnable then RunTestcases.hpLpCorunCpat cfg.qos s
         else s) := by
  split_ifs
  · exact foldl_associateAll full { s with closToMemclos := 0x0000E400 } cfg.qos.llcCosWl
  · rw [List.foldl_append, foldl_associateAll, foldl_allocateAll]
    rfl
  · rw [List.foldl_append, foldl_associateAll, List.foldl_cons, pqosApply_associate]
    rfl
  · rfl

end Passes

theorem pqosApply_reset (full : CosTable → Text) (s : Classes CosTable) :
    pqosApply full s .pqosReset = classesOf (.setupEnv (resetOf full)) := by
  refine congrArg (Classes.mk fun _ => 0) (funext fun table => ?_)
  cases table <;> rfl

theorem prepared_pqos {tool : ClassTool CosTable} {cfg : RunConfig} (vms : cfg.hostExp = false)
    (pqos : cfg.resctrl = false) (accepted : Accepted tool cfg) (s : Classes CosTable) :
    (prepared cfg).foldl (pqosStep tool) s = classesOf (mainPqos cfg.qos (resetOf tool.full)) := by
  rw [foldl_pqosStep accepted, foldl_onPlane .pqos (pqosApply_other tool.full), onPlane_pqos_prepared cfg vms pqos,
    List.append_assoc, List.cons_append, List.cons_append, List.foldl_cons, List.foldl_cons, pqosApply_reset,
    List.foldl_append, List.foldl_append, foldl_setupLlcWays, foldl_setupL2cWays, foldl_mode]
  rfl

/-- The states of pqos in which the runs of a campaign are measured. -/
def measuredPqos (tool : ClassTool CosTable) (runs : List RunConfig) (start : Classes CosTable) :
    List (Classes CosTable) :=
  snapshots (pqosStep tool) HostCommand.isRun start (campaign runs)

/-- In every campaign, each run in VMs of which pqos accepts all commands is measured with the classes that
    `mainPqos` gives it, as if it were the first run on the machine. -/
theorem measuredPqos_mainPqos (tool : ClassTool CosTable) (runs : List RunConfig) (start : Classes CosTable) :
    List.Forall₂ (fun cfg measured => cfg.hostExp = false → cfg.resctrl = false → Accepted tool cfg →
        measured = classesOf (mainPqos cfg.qos (resetOf tool.full)))
      runs (measuredPqos tool runs start) := by
  refine forall₂_snapshots (fun _ => True) ?_ runs trivial
  intro cfg s _
  exact ⟨trivial, _, snapshots_main cfg _ s, fun vms pqos accepted => prepared_pqos vms pqos accepted s⟩

/-- The core-power settings of the package of node 0.  An absent bound is that of the processor. -/
structure Sst where
  corePower : Bool
  turboFreq : Bool
  bounds : Fin 4 → Option Text × Option Text
  /-- The core-power class of each core. -/
  assoc : Nat → Fin 4

def corePowerSet : HostCommand → Option Bool
  | .speedSelect (.corePower on) => some on
  | _ => none

def turboFreqSet : HostCommand → Option Bool
  | .speedSelect (.turboFreq on) => some on
  | _ => none

def boundsSet (clos : Fin 4) : HostCommand → Option (Option Text × Option Text)
  | .speedSelect (.config clos' min max) => if clos' = clos.val then some (min, max) else none
  | _ => none

/-- The class that a command gives to a core; a command for a class that does not exist is refused. -/
def assocSet (core : Nat) : HostCommand → Option (Fin 4)
  | .speedSelect (.assoc (some range) clos) =>
      if known : clos < 4 then (if range.lo ≤ core ∧ core ≤ range.hi then some ⟨clos, known⟩ else none) else none
  | _ => none

def sstStep (s : Sst) (command : HostCommand) : Sst where
  corePower := (corePowerSet command).getD s.corePower
  turboFreq := (turboFreqSet command).getD s.turboFreq
  bounds clos := (boundsSet clos command).getD (s.bounds clos)
  assoc core := (assocSet core command).getD (s.assoc core)

/-- The frequency bounds under which a core runs, if core power is on. -/
def Sst.limits (s : Sst) (core : Nat) : Option (Option Text × Option Text) :=
  if s.corePower then some (s.bounds (s.assoc core)) else none

/-- The bounds that `SST_COS_FREQ` gives to a class. -/
def freqBounds (cfg : RunConfig) (clos : Fin 4) : Option Text × Option Text :=
  latest (boundsSet clos) (none, none) (cfg.sstCosFreq.map sstFreq)

/-- `SST_COS_WL` gives a class to the VM of the core. -/
def Listed (cfg : RunConfig) (core : Nat) : Prop :=
  ∃ (i : Nat) (range : CoreRange) (clos : Nat), initVmCoreRange[i]? = some range ∧ (range.lo ≤ core ∧ core ≤ range.hi) ∧
    cfg.sstCosWl[i]? = some clos ∧ clos < 4

theorem foldl_sstStep (commands : List HostCommand) (s : Sst) :
    commands.foldl sstStep s =
      { corePower := latest corePowerSet s.corePower commands
        turboFreq := latest turboFreqSet s.turboFreq commands
        bounds := fun clos => latest (boundsSet clos) (s.bounds clos) commands
        assoc := fun core => latest (assocSet core) (s.assoc core) commands } := by
  induction commands generalizing s with
  | nil => rfl
  | cons command rest ih =>
      rw [List.foldl_cons, ih]
      rfl

theorem latest_prepared {β : Type} {sets : HostCommand → Option β}
    (own : ∀ command, command.plane ≠ .sst → sets command = none) (value : β) (cfg : RunConfig) :
    latest sets value (prepared cfg) =
      latest sets value (sstReset ++ if cfg.sstEnable = 1 then setupSst cfg else []) := by
  have filtered : ∀ commands, latest sets value commands = latest sets value (onPlane .sst commands) :=
    foldl_onPlane .sst (fun value command other => by rw [own command other, Option.getD_none]) value
  rw [filtered, onPlane_sst_prepared, filtered (sstReset ++ _), onPlane_append, onPlane_ite, onPlane_nil]

theorem boundsSet_own (clos : Fin 4) (command : HostCommand) (other : command.plane ≠ .sst) :
    boundsSet clos command = none := by
  cases command <;> first | rfl | exact absurd rfl other

theorem assocSet_own (core : Nat) (command : HostCommand) (other : command.plane ≠ .sst) :
    assocSet core command = none := by
  cases command <;> first | rfl | exact absurd rfl other

theorem corePowerSet_own (command : HostCommand) (other : command.plane ≠ .sst) : corePowerSet command = none := by
  cases command <;> first | rfl | exact absurd rfl other

theorem sstFreq_config (entry : Text) : ∃ clos min max, sstFreq entry = .speedSelect (.config clos min max) := by
  rw [sstFreq]
  split_ifs <;> exact ⟨_, _, _, rfl⟩

theorem corePowerSet_sstFreq (entry : Text) : corePowerSet (sstFreq entry) = none := by
  obtain ⟨clos, min, max, config⟩ := sstFreq_config entry
  rw [config]
  rfl

theorem assocSet_sstFreq (core : Nat) (entry : Text) : assocSet core (sstFreq entry) = none := by
  obtain ⟨clos, min, max, config⟩ := sstFreq_config entry
  rw [config]
  rfl

theorem latest_bounds_sstReset (clos : Fin 4) (bounds : Option Text × Option Text) :
    latest (boundsSet clos) bounds sstReset = (none, none) := by
  match clos with
  | 0 => rfl
  | 1 => rfl
  | 2 => rfl
  | 3 => rfl

theorem prepared_corePower (on : Bool) (cfg : RunConfig) :
    latest corePowerSet on (prepared cfg) = decide (cfg.sstEnable = 1) := by
  rw [latest_prepared corePowerSet_own, latest_append]
  by_cases enabled : cfg.sstEnable = 1
  · rw [if_pos enabled, setupSst, latest_append, latest_append,
      latest_of_none (List.forall_mem_map.mpr fun entry _ => corePowerSet_sstFreq entry), decide_eq_true enabled]
    rfl
  · rw [if_neg enabled, decide_eq_false enabled]
    rfl

theorem prepared_bounds (clos : Fin 4) (bounds : Option Text × Option Text) {cfg : RunConfig}
    (enabled : cfg.sstEnable = 1) : latest (boundsSet clos) bounds (prepared cfg) = freqBounds cfg clos := by
  have silent : ∀ command ∈ sstAssociateAll cfg.sstCosWl, boundsSet clos command = none :=
    List.forall_mem_map.mpr fun _ _ => rfl
  rw [latest_prepared (boundsSet_own clos), if_pos enabled, setupSst, latest_append, latest_append, latest_append,
    latest_append, latest_bounds_sstReset, latest_of_none silent]
  rfl

theorem prepared_assoc (core : Nat) (clos : Fin 4) {cfg : RunConfig} (enabled : cfg.sstEnable = 1) :
    latest (assocSet core) clos (prepared cfg) = latest (assocSet core) clos (sstAssociateAll cfg.sstCosWl) := by
  rw [latest_prepared (assocSet_own core), if_pos enabled, setupSst, latest_append, latest_append, latest_append,
    latest_of_none (List.forall_mem_map.mpr fun entry _ => assocSet_sstFreq core entry)]
  rfl

theorem listed_iff (cfg : RunConfig) (core : Nat) :
    Listed cfg core ↔ ∃ command ∈ sstAssociateAll cfg.sstCosWl, (assocSet core command).isSome := by
  constructor
  · rintro ⟨i, range, clos, here, inside, given, known⟩
    refine ⟨_, List.mem_map.mpr ⟨(clos, i), List.mem_zipIdx_iff_getElem?.mpr given, rfl⟩, ?_⟩
    dsimp only
    rw [here, assocSet, dif_pos known, if_pos inside]
    rfl
  · rintro ⟨command, member, sets⟩
    obtain ⟨⟨clos, i⟩, entry, rfl⟩ := List.mem_map.mp member
    dsimp only at sets
    have given : cfg.sstCosWl[i]? = some clos := List.mem_zipIdx_iff_getElem?.mp entry
    cases here : initVmCoreRange[i]? with
    | none =>
        rw [here] at sets
        exact absurd sets Bool.false_ne_true
    | some range =>
        rw [here, assocSet] at sets
        split_ifs at sets with known inside
        · exact ⟨i, range, clos, here, inside, given, known⟩
        · exact absurd sets Bool.false_ne_true
        · exact absurd sets Bool.false_ne_true

/-- The bounds of a core in front of the workloads, from any state of the machine. -/
theorem prepared_limits (cfg : RunConfig) (s : Sst) (core : Nat) :
    ((prepared cfg).foldl sstStep s).limits core =
      if cfg.sstEnable = 1 then
        some (freqBounds cfg (latest (assocSet core) (s.assoc core) (sstAssociateAll cfg.sstCosWl)))
      else none := by
  rw [foldl_sstStep, Sst.limits, prepared_corePower]
  by_cases enabled : cfg.sstEnable = 1
  · rw [if_pos (decide_eq_true enabled), if_pos enabled]
    dsimp only
    rw [prepared_bounds _ _ enabled, prepared_assoc core _ enabled]
  · rw [if_neg (by rw [decide_eq_true_eq]; exact enabled), if_neg enabled]

/-- The states of the package in which the runs of a campaign are measured. -/
def measuredSst (runs : List RunConfig) (start : Sst) : List Sst :=
  snapshots sstStep HostCommand.isRun start (campaign runs)

theorem measuredSst_last (earlier : List RunConfig) (cfg : RunConfig) (start : Sst) :
    (measuredSst (earlier ++ [cfg]) start).getLast? =
      some ((prepared cfg).foldl sstStep ((campaign earlier).foldl sstStep start)) :=
  snapshots_last (snapshots_main cfg sstStep) earlier start

/-- The frequency bounds under which a core is measured are the same behind every sequence of earlier runs
    exactly when core power is off, or the core's VM has a class of its own, or all classes have the same
    bounds: resetting the classes leaves the cores in the classes of an earlier run. -/
theorem measuredSst_settled_iff (cfg : RunConfig) (core : Nat) :
    (∀ (earlier earlier' : List RunConfig) (start start' : Sst),
        (measuredSst (earlier ++ [cfg]) start).getLast?.map (·.limits core) =
          (measuredSst (earlier' ++ [cfg]) start').getLast?.map (·.limits core)) ↔
      cfg.sstEnable ≠ 1 ∨ Listed cfg core ∨ ∀ clos clos', freqBounds cfg clos = freqBounds cfg clos' := by
  constructor
  · intro settled
    by_contra unsettled
    simp only [not_or, not_not, not_forall] at unsettled
    obtain ⟨enabled, unlisted, clos, clos', differ⟩ := unsettled
    have silent : ∀ command ∈ sstAssociateAll cfg.sstCosWl, assocSet core command = none := by
      intro command member
      by_contra sets
      exact unlisted ((listed_iff cfg core).mpr ⟨command, member, Option.isSome_iff_ne_none.mpr sets⟩)
    -- Two machines that differ in the class of the cores only.
    let machine : Fin 4 → Sst := fun clos => ⟨false, false, fun _ => (none, none), fun _ => clos⟩
    have same := settled [] [] (machine clos) (machine clos')
    rw [measuredSst_last, measuredSst_last, Option.map_some, Option.map_some, prepared_limits, prepared_limits,
      if_pos enabled, if_pos enabled, latest_of_none silent, latest_of_none silent] at same
    exact differ (Option.some.inj (Option.some.inj same))
  · intro settled earlier earlier' start start'
    rw [measuredSst_last, measuredSst_last, Option.map_some, Option.map_some, prepared_limits, prepared_limits]
    by_cases enabled : cfg.sstEnable = 1
    · rw [if_pos enabled, if_pos enabled]
      rcases settled with off | listed | equal
      · exact absurd enabled off
      · obtain ⟨command, member, sets⟩ := (listed_iff cfg core).mp listed
        rw [latest_of_some member sets]
      · rw [equal]
    · rw [if_neg enabled, if_neg enabled]

end KvmWorkload.RunTestcases.Session
