import KvmWorkload.Lib.Snapshots
import KvmWorkload.Mailbox.Scripts
import KvmWorkload.RunTestcases.Pqos

/-! # A run of run_testcases.sh

`main` reads a configuration and issues commands to the tools that control the
machine, starts the workloads once in between, and cleans up.  The commands are
kept in order with their arguments; each control plane of the machine (DRC
registers, classes of service, core power, CPAT, monitors) is a step function
over them, so that what a run does to later runs can be read off its commands.

Left out are the control groups of the resctrl branches and waiting times.
-/

namespace KvmWorkload.RunTestcases.Session

open Mailbox

/-- The configuration file; lists are split at their commas. -/
structure RunConfig where
  qos : QosConfig
  hostExp : Bool
  resctrl : Bool
  sstEnable : Nat
  sstCosWl : List Nat
  sstCosFreq : List Text
  hwdrcCasVal : Nat
  monitoring : Bool
  /-- `VM_NAMES`, as `init_vm_names` builds it. -/
  vmNames : Text

/-- The operations of intel-speed-select that are used.  All but `assoc` are sent to the CPUs of node 0 or
    to CPU 0, and act on the package of that node. -/
inductive SstOp where
  /-- `-c ${VM_CORE_RANGE[i]}`, empty behind the end of the array. -/
  | assoc (range : Option CoreRange) (clos : Nat)
  | config (clos : Nat) (min max : Option Text)
  | corePower (on : Bool)
  | turboFreq (on : Bool)

/-- The tables that `pqos -e` writes. -/
inductive CosTable where
  | llc
  | l2
  | mba
  deriving DecidableEq

/-- What the script has the machine do. -/
inductive HostCommand where
  /-- A new shell, in which no variable is set. -/
  | shell
  | cpupower
  /-- `wrmsr -a`. -/
  | wrmsrAll (reg value : Nat)
  | speedSelect (op : SstOp)
  | drc (coreId : Nat) (command : DrcCommand)
  /-- `mailbox_write` of cpat/osmailbox_config.inc.sh. -/
  | mailboxWrite (coreId : Nat) (interface data : Msr)
  | pqosReset
  | pqosAllocate (table : CosTable) (cos : Nat) (value : Text)
  | pqosAssociate (cos : Nat) (range : Option CoreRange)
  | mountResctrl
  | umountResctrl
  | smtOn
  /-- `./run.sh ... -S setup`. -/
  | setupVms
  /-- `start_monitoring`. -/
  | startMonitor (monFile : Text)
  /-- `./run.sh ... -S run` or `./run_in_host.sh`, with the suffix of its result files. -/
  | runWorkloads (suffix : Text)
  /-- `kill -SIGINT $mon_pid`. -/
  | killMonitor
  | pkillServer

/-- The commands at which the machine is measured. -/
def HostCommand.isRun : HostCommand → Bool
  | .runWorkloads _ => true
  | _ => false

def drcScript (script : DrcScript) : List HostCommand := script.map fun call => .drc call.1 call.2

@[simp] theorem drcScript_nil : drcScript [] = [] := rfl

theorem drcScript_append (script later : DrcScript) :
    drcScript (script ++ later) = drcScript script ++ drcScript later := List.map_append

/-- hwdrc_icx_2S_xcc_disable.sh. -/
def hwdrcReset : List HostCommand := .pqosReset :: .umountResctrl :: drcScript hwdrcIcx2SXccDisable

def sstReset : List HostCommand :=
  [.wrmsrAll 0x774 0xff00, .wrmsrAll 0x620 0x0818,
   .speedSelect (.config 0 none none), .speedSelect (.config 1 none none),
   .speedSelect (.config 2 none none), .speedSelect (.config 3 none none),
   .speedSelect (.corePower false), .speedSelect (.turboFreq false)]

def setupEnv (cfg : RunConfig) : List HostCommand :=
  (if cfg.sstEnable = 0 then [.cpupower] else []) ++ sstReset ++ hwdrcReset ++
    [.umountResctrl, .pqosReset, .smtOn, .pkillServer]

/-- The loop `for cos in list; pqos -a "...:$cos=${VM_CORE_RANGE[i]}"; i=$((i+1))`. -/
def associateAll (cosWl : List Nat) : List HostCommand :=
  cosWl.zipIdx.map fun (cos, i) => .pqosAssociate cos initVmCoreRange[i]?

def allocateAll (table : CosTable) (settings : List (Nat × Text)) : List HostCommand :=
  settings.map fun (cos, value) => .pqosAllocate table cos value

def setupLlcWays (cfg : RunConfig) : List HostCommand :=
  allocateAll .llc (cfg.qos.llcCosWl.zip cfg.qos.llcCosWays) ++ associateAll cfg.qos.llcCosWl

def setupL2cWays (cfg : RunConfig) : List HostCommand :=
  allocateAll .l2 (cfg.qos.l2cCosWl.zip cfg.qos.l2cCosWays) ++ associateAll cfg.qos.l2cCosWl

/-- One entry `cos:min-max` of `SST_COS_FREQ`; a bound of 0 is not passed on. -/
def sstFreq (sstCosFreq : Text) : HostCommand :=
  let sstCos := readDecimal (cut ':' 1 sstCosFreq)
  let minFreq := cut '-' 1 (cut ':' 2 sstCosFreq)
  let maxFreq := cut '-' 2 (cut ':' 2 sstCosFreq)
  if maxFreq = ['0'] then .speedSelect (.config sstCos (some minFreq) none)
  else if minFreq = ['0'] then .speedSelect (.config sstCos none (some maxFreq))
  else .speedSelect (.config sstCos (some minFreq) (some maxFreq))

def sstAssociateAll (sstCosWl : List Nat) : List HostCommand :=
  sstCosWl.zipIdx.map fun (sstCos, i) => .speedSelect (.assoc initVmCoreRange[i]? sstCos)

def setupSst (cfg : RunConfig) : List HostCommand :=
  sstReset ++ sstAssociateAll cfg.sstCosWl ++
    [.speedSelect (.corePower true), .speedSelect (.turboFreq true)] ++
    cfg.sstCosFreq.map sstFreq

/-- The branches of `main`. -/
inductive Branch where
  | hostResctrl
  | host
  | hwdrc
  | mba
  | cpat
  | woCos
  deriving DecidableEq

/-- `cos_mode`.  The host experiments name features there that they do not set up. -/
def cosMode (cfg : RunConfig) : Branch → Text
  | .hostResctrl | .host =>
      if cfg.qos.hwdrcEnable then "HWDRC".toList else if cfg.qos.mbaEnable then "MBA".toList else "na".toList
  | .hwdrc => "HWDRC-".toList ++ decimal cfg.hwdrcCasVal
  | .mba => "MBA".toList
  | .cpat => "CPAT".toList
  | .woCos => "na".toList

/-- `result_file_suffix`. -/
def resultFileSuffix (cfg : RunConfig) (cosMode : Text) : Text :=
  "co_".toList ++ cosMode ++ "_sst-".toList ++ decimal cfg.sstEnable ++
    (if cfg.qos.llcEnable then "_llc-".toList ++ ['-'].intercalate cfg.qos.llcCosWays else []) ++
    (if cfg.qos.l2cEnable then "_l2c-".toList ++ ['-'].intercalate cfg.qos.l2cCosWays else [])

/-- `${VM_NAMES//,/_}_${result_file_suffix}_mon`. -/
def monFile (cfg : RunConfig) (suffix : Text) : Text :=
  cfg.vmNames.map (fun c => if c = ',' then '_' else c) ++ '_' :: suffix ++ "_mon".toList

def startMonitoring (cfg : RunConfig) (suffix : Text) : List HostCommand :=
  if cfg.monitoring then [.startMonitor (monFile cfg suffix)] else []

/-- What every mode does in front of the workloads; the suffix is that of its results. -/
structure Corun where
  before : List HostCommand
  suffix : Text
  after : List HostCommand

/-- `hp_lp_corun`, called behind `prepared`. -/
def hpLpCorun (cfg : RunConfig) (prepared : List HostCommand) (cosMode : Text) : Corun where
  before := prepared ++ startMonitoring cfg (resultFileSuffix cfg cosMode)
  suffix := resultFileSuffix cfg cosMode
  after := []

/-- A monitor is started before `result_file_suffix` is set, and `hp_lp_corun` starts another one. -/
def hpLpCorunWoCos (cfg : RunConfig) : Corun :=
  hpLpCorun cfg (startMonitoring cfg [] ++ [.setupVms]) (cosMode cfg .woCos)

def hpLpCorunMba (cfg : RunConfig) : Corun :=
  hpLpCorun cfg (.setupVms :: associateAll cfg.qos.mbaCosWl ++ allocateAll .mba cfg.qos.mbaCosVal)
    (cosMode cfg .mba)

def hpLpCorunHwdrc (cfg : RunConfig) : Corun :=
  { hpLpCorun cfg
      (.setupVms :: .umountResctrl :: drcScript (hwdrcIcx2SXccInitToDefaultPqosCas cfg.hwdrcCasVal) ++
        associateAll cfg.qos.llcCosWl) (cosMode cfg .hwdrc) with
    after := hwdrcReset }

/-- `cpat_init` of cpat_pqos.sh; that of cpat_resctrl.sh is the same. -/
def cpatInit : List HostCommand :=
  [.mailboxWrite 1 0x800003ca 0x0, .mailboxWrite 1 0x800002ca 0x0000E400,
   .mailboxWrite 1 0x800004ca 0x00280800, .mailboxWrite 1 0x800004ca 0x00240841,
   .mailboxWrite 1 0x800004ca 0x00220882, .mailboxWrite 1 0x800004ca 0x001e08c3,
   .mailboxWrite 1 0x800003ca 0x3]

def hpLpCorunCpat (cfg : RunConfig) : Corun :=
  let init := if cfg.resctrl then cpatInit ++ [.mountResctrl] else cpatInit
  let assoc := if cfg.resctrl then [] else associateAll cfg.qos.cpatCos ++ [.pqosAssociate 7 (some ⟨120, 179⟩)]
  hpLpCorun cfg (init ++ .setupVms :: assoc) (cosMode cfg .cpat)

def hpLpCorunHost (cfg : RunConfig) : Corun := hpLpCorun cfg [] (cosMode cfg .host)

/-- The workloads are in the background when resctrl is mounted. -/
def hpLpCorunHostResctrl (cfg : RunConfig) : Corun :=
  { hpLpCorun cfg [] (cosMode cfg .hostResctrl) with after := [.mountResctrl] }

def branch (cfg : RunConfig) : Branch :=
  if cfg.hostExp then (if cfg.resctrl then .hostResctrl else .host)
  else if cfg.qos.hwdrcEnable then .hwdrc
  else if cfg.qos.mbaEnable then .mba
  else if cfg.qos.cpatEnable then .cpat
  else .woCos

def Branch.corun (cfg : RunConfig) : Branch → Corun
  | .hostResctrl => hpLpCorunHostResctrl cfg
  | .host => hpLpCorunHost cfg
  | .hwdrc => hpLpCorunHwdrc cfg
  | .mba => hpLpCorunMba cfg
  | .cpat => hpLpCorunCpat cfg
  | .woCos => hpLpCorunWoCos cfg

def corun (cfg : RunConfig) : Corun := (branch cfg).corun cfg

def cleanup (cfg : RunConfig) : List HostCommand :=
  (if cfg.monitoring then [.killMonitor] else []) ++ [.pkillServer]

/-- `main` in front of the branches. -/
def setup (cfg : RunConfig) : List HostCommand :=
  .shell :: setupEnv cfg ++ (if cfg.qos.llcEnable then setupLlcWays cfg else []) ++
    (if cfg.qos.l2cEnable then setupL2cWays cfg else []) ++ (if cfg.sstEnable = 1 then setupSst cfg else [])

def main (cfg : RunConfig) : List HostCommand :=
  setup cfg ++ (corun cfg).before ++ .runWorkloads (corun cfg).suffix :: ((corun cfg).after ++ cleanup cfg)

/-- The commands of a sequence of runs. -/
def campaign (runs : List RunConfig) : List HostCommand := runs.flatMap main

/-- The parts of the machine that commands act on. -/
inductive Plane where
  | msr
  | sst
  | drc
  | cpat
  | pqos
  | resctrl
  | vms
  /-- The monitors, and the variable `mon_pid` of the shell. -/
  | monitor
  | run
  deriving DecidableEq

def HostCommand.plane : HostCommand → Plane
  | .cpupower | .wrmsrAll .. => .msr
  | .speedSelect .. => .sst
  | .drc .. => .drc
  | .mailboxWrite .. => .cpat
  | .pqosReset | .pqosAllocate .. | .pqosAssociate .. => .pqos
  | .mountResctrl | .umountResctrl => .resctrl
  | .smtOn | .setupVms | .pkillServer => .vms
  | .shell | .startMonitor _ | .killMonitor => .monitor
  | .runWorkloads _ => .run

/-- The commands that act on one part of the machine. -/
def onPlane (plane : Plane) (commands : List HostCommand) : List HostCommand :=
  commands.filter fun command => command.plane = plane

section OnPlane

variable (plane : Plane)

@[simp] theorem onPlane_nil : onPlane plane [] = [] := rfl

@[simp] theorem onPlane_cons (command : HostCommand) (rest : List HostCommand) :
    onPlane plane (command :: rest) =
      if command.plane = plane then command :: onPlane plane rest else onPlane plane rest := by
  simp [onPlane, List.filter_cons]

@[simp] theorem onPlane_append (commands later : List HostCommand) :
    onPlane plane (commands ++ later) = onPlane plane commands ++ onPlane plane later := List.filter_append ..

@[simp] theorem onPlane_ite (p : Prop) [Decidable p] (commands commands' : List HostCommand) :
    onPlane plane (if p then commands else commands') =
      if p then onPlane plane commands else onPlane plane commands' := apply_ite ..

/-- Commands that all act on one part. -/
theorem onPlane_uniform {commands : List HostCommand} {own : Plane} (same : ∀ command ∈ commands, command.plane = own) :
    onPlane plane commands = if own = plane then commands else [] := by
  by_cases here : own = plane
  · rw [if_pos here]
    exact List.filter_eq_self.mpr fun command member => by rw [same command member, decide_eq_true here]
  · rw [if_neg here]
    exact List.filter_eq_nil_iff.mpr fun command member => by rw [same command member, decide_eq_true_eq]; exact here

@[simp] theorem onPlane_drcScript (script : DrcScript) :
    onPlane plane (drcScript script) = if .drc = plane then drcScript script else [] :=
  onPlane_uniform plane (List.forall_mem_map.mpr fun _ _ => rfl)

@[simp] theorem onPlane_associateAll (cosWl : List Nat) :
    onPlane plane (associateAll cosWl) = if .pqos = plane then associateAll cosWl else [] :=
  onPlane_uniform plane (List.forall_mem_map.mpr fun _ _ => rfl)

@[simp] theorem onPlane_allocateAll (table : CosTable) (settings : List (Nat × Text)) :
    onPlane plane (allocateAll table settings) = if .pqos = plane then allocateAll table settings else [] :=
  onPlane_uniform plane (List.forall_mem_map.mpr fun _ _ => rfl)

@[simp] theorem plane_sstFreq (entry : Text) : (sstFreq entry).plane = .sst := by
  rw [sstFreq]
  split_ifs <;> rfl

@[simp] theorem onPlane_sstAssociateAll (sstCosWl : List Nat) :
    onPlane plane (sstAssociateAll sstCosWl) = if .sst = plane then sstAssociateAll sstCosWl else [] :=
  onPlane_uniform plane (List.forall_mem_map.mpr fun _ _ => rfl)

@[simp] theorem onPlane_sstFreqs (entries : List Text) :
    onPlane plane (entries.map sstFreq) = if .sst = plane then entries.map sstFreq else [] :=
  onPlane_uniform plane (List.forall_mem_map.mpr fun entry _ => plane_sstFreq entry)

/-- A step function that acts on one part sees the commands for that part only. -/
theorem foldl_onPlane {σ : Type} {step : σ → HostCommand → σ}
    (other : ∀ s command, command.plane ≠ plane → step s command = s) (s : σ) (commands : List HostCommand) :
    commands.foldl step s = (onPlane plane commands).foldl step s := by
  induction commands generalizing s with
  | nil => rfl
  | cons command rest ih =>
      rw [onPlane_cons, List.foldl_cons, ih]
      by_cases here : command.plane = plane
      · rw [if_pos here, List.foldl_cons]
      · rw [if_neg here, other s command here]

end OnPlane

/-- What is done in front of the workloads. -/
def prepared (cfg : RunConfig) : List HostCommand := setup cfg ++ (corun cfg).before

/-- What is done behind them. -/
def finished (cfg : RunConfig) : List HostCommand := (corun cfg).after ++ cleanup cfg

theorem main_eq (cfg : RunConfig) :
    main cfg = prepared cfg ++ .runWorkloads (corun cfg).suffix :: finished cfg := rfl

section PlanesOfARun

variable (cfg : RunConfig)

attribute [local simp] setup setupEnv sstReset hwdrcReset setupLlcWays setupL2cWays setupSst cleanup Branch.corun
  hpLpCorunHostResctrl hpLpCorunHost hpLpCorunHwdrc hpLpCorunMba hpLpCorunCpat hpLpCorunWoCos hpLpCorun
  startMonitoring cpatInit HostCommand.plane

theorem onPlane_run_prepared : onPlane .run (prepared cfg) = [] := by
  have common : onPlane .run (setup cfg) = [] := by simp
  rw [prepared, onPlane_append, common, corun]
  cases branch cfg <;> simp

theorem onPlane_run_finished : onPlane .run (finished cfg) = [] := by
  rw [finished, onPlane_append, corun]
  cases branch cfg <;> simp

/-- Every run is measured once, behind what it prepared. -/
theorem snapshots_main {σ : Type} (step : σ → HostCommand → σ) (s : σ) :
    snapshots step HostCommand.isRun s (main cfg) = [(prepared cfg).foldl step s] := by
  have unmarked : ∀ commands, onPlane .run commands = [] → ∀ command ∈ commands, command.isRun = false := by
    intro commands none command member
    have other := List.filter_eq_nil_iff.mp none command member
    cases command <;> first | rfl | exact absurd (decide_eq_true rfl) other
  rw [main_eq, snapshots_single step rfl (unmarked _ (onPlane_run_prepared cfg)) (unmarked _ (onPlane_run_finished cfg))]

theorem onPlane_drc_prepared : onPlane .drc (prepared cfg) =
    drcScript (hwdrcIcx2SXccDisable ++
      if branch cfg = .hwdrc then hwdrcIcx2SXccInitToDefaultPqosCas cfg.hwdrcCasVal else []) := by
  have common : onPlane .drc (setup cfg) = drcScript hwdrcIcx2SXccDisable := by simp
  rw [prepared, onPlane_append, common, drcScript_append, corun]
  cases branch cfg <;> simp

theorem onPlane_cpat_prepared : onPlane .cpat (prepared cfg) = if branch cfg = .cpat then cpatInit else [] := by
  have common : onPlane .cpat (setup cfg) = [] := by simp
  rw [prepared, onPlane_append, common, corun]
  cases branch cfg <;> simp

theorem onPlane_cpat_finished : onPlane .cpat (finished cfg) = [] := by
  rw [finished, onPlane_append, corun]
  cases branch cfg <;> simp

theorem onPlane_sst_prepared : onPlane .sst (prepared cfg) =
    onPlane .sst sstReset ++ if cfg.sstEnable = 1 then onPlane .sst (setupSst cfg) else [] := by
  have common : onPlane .sst (setup cfg) =
      onPlane .sst sstReset ++ if cfg.sstEnable = 1 then onPlane .sst (setupSst cfg) else [] := by simp
  rw [prepared, onPlane_append, common, corun]
  cases branch cfg <;> simp

theorem onPlane_pqos_prepared (vms : cfg.hostExp = false) (pqos : cfg.resctrl = false) :
    onPlane .pqos (prepared cfg) =
      .pqosReset :: .pqosReset :: (if cfg.qos.llcEnable then setupLlcWays cfg else []) ++
        (if cfg.qos.l2cEnable then setupL2cWays cfg else []) ++
        if cfg.qos.hwdrcEnable then associateAll cfg.qos.llcCosWl
        else if cfg.qos.mbaEnable then associateAll cfg.qos.mbaCosWl ++ allocateAll .mba cfg.qos.mbaCosVal
        else if cfg.qos.cpatEnable then associateAll cfg.qos.cpatCos ++ [.pqosAssociate 7 (some ⟨120, 179⟩)]
        else [] := by
  have common : onPlane .pqos (setup cfg) =
      .pqosReset :: .pqosReset :: (if cfg.qos.llcEnable then setupLlcWays cfg else []) ++
        if cfg.qos.l2cEnable then setupL2cWays cfg else [] := by simp
  rw [prepared, onPlane_append, common, corun, branch, vms]
  cases cfg.qos.hwdrcEnable <;> cases cfg.qos.mbaEnable <;> cases cfg.qos.cpatEnable <;> simp [pqos]

theorem onPlane_monitor_main : onPlane .monitor (main cfg) =
    .shell :: (if branch cfg = .woCos then startMonitoring cfg [] else []) ++ startMonitoring cfg (corun cfg).suffix ++
      if cfg.monitoring then [.killMonitor] else [] := by
  have common : onPlane .monitor (setup cfg) = [.shell] := by simp
  rw [main_eq, prepared, finished, onPlane_append, onPlane_append, common, onPlane_cons, onPlane_append, corun]
  cases branch cfg <;> simp

end PlanesOfARun

end KvmWorkload.RunTestcases.Session
