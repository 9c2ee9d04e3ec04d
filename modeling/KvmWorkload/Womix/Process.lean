import KvmWorkload.Lib.Jobs
import KvmWorkload.Mailbox.Scripts
import KvmWorkload.Reporter.HtSplit

/-! # The scripts of the validation cases

hwdrc_validation_cases.py writes one shell script for each pair of workloads.  A
script sets variables and calls `mba_scaling` and `workload_pair` of
process/hwdrc_process.inc.sh, which set the machine up and run the workloads.
Here the rows of a script are read as the shell reads them, down to the commands
that it issues and the jobs that it starts.
-/

namespace KvmWorkload.Womix

open Mailbox

/-- What a script has the machine do. -/
inductive Command where
  | pqosReset
  | umountResctrl
  | drc (coreId : Nat) (command : DrcCommand)
  /-- `pqos -a llc:$cos=$cores`. -/
  | pqosAssociate (cos cores : Text)
  /-- `pqos -e llc:$cos=$mask`. -/
  | pqosLlc (cos mask : Text)
  /-- `pqos -e mba:$cos=$value`. -/
  | pqosMba (cos value : Text)
  /-- `$hook_start_test $path` and `$hook_finish_test $path`. -/
  | hook (test path : Text)

/-- A call `$workload $cpuset $data_folder $instances $name`. -/
structure Job where
  workload : Text
  cpuset : Text
  dataFolder : Text
  instances : Text
  name : Text

/-- How a workload runs: in a container, as a process of its own, or not for any time to speak of. -/
inductive Kind where
  | container
  | process
  | brief
  deriving DecidableEq

/-- The functions of container_based.inc.sh that start a container. -/
def containerBased : List Text :=
  ["stressapp".toList, "stream_omp".toList, "specjbb".toList, "clucene".toList, "rn50".toList, "widedeep".toList,
   "speccpu2006".toList, "speccpu2017".toList, "bwaves".toList, "perlbench".toList, "povray".toList,
   "leslie3d".toList, "libquantum".toList, "bwaves_s".toList, "cactuBSSN_s".toList, "namd_s".toList,
   "parest_s".toList, "povray_s".toList, "lbm_s".toList, "wrf_s".toList, "blender_s".toList, "cam4_s".toList,
   "imagick_s".toList, "nab_s".toList, "fotonik3d_s".toList, "roms_s".toList, "perlbench_s".toList,
   "gcc_s".toList, "mcf_s".toList, "omnetpp_s".toList, "xalancbmk_s".toList, "x264_s".toList,
   "deepsjeng_s".toList, "leela_s".toList, "exchange2_s".toList, "xz_s".toList, "pop2_s".toList, "wrk".toList,
   "mlc_container".toList]

/-- The functions of mlc.inc.sh and server_client.inc.sh. -/
def onTheHost : List Text :=
  ["mlc_benchmark".toList, "singleredis".toList, "multiredis".toList, "memcachedserver".toList]

/-- `empty`, `fake` and commands that do not exist end at once. -/
def kind (workload : Text) : Kind :=
  if containerBased.contains workload then .container
  else if onTheHost.contains workload then .process
  else .brief

/-- The variables that the functions below read. -/
inductive Var where
  | hpCos
  | lpCos
  | hpCores
  | lpCores
  | hpInstances
  | lpInstances
  | lpCat
  | lpMba
  | keepLpRunning
  | hookStartTest
  | hookFinishTest
  | hp
  | lp
  deriving DecidableEq

def Var.name : Var → Text
  | .hpCos => "HP_COS".toList
  | .lpCos => "LP_COS".toList
  | .hpCores => "HP_CORES".toList
  | .lpCores => "LP_CORES".toList
  | .hpInstances => "HP_INSTANCES".toList
  | .lpInstances => "LP_INSTANCES".toList
  | .lpCat => "LP_CAT".toList
  | .lpMba => "LP_MBA".toList
  | .keepLpRunning => "KEEP_LP_RUNNING".toList
  | .hookStartTest => "hook_start_test".toList
  | .hookFinishTest => "hook_finish_test".toList
  | .hp => "hp".toList
  | .lp => "lp".toList

def Var.all : List Var :=
  [.hpCos, .lpCos, .hpCores, .lpCores, .hpInstances, .lpInstances, .lpCat, .lpMba, .keepLpRunning,
   .hookStartTest, .hookFinishTest, .hp, .lp]

def Var.find (name : Text) : Option Var := Var.all.find? fun var => decide (var.name = name)

/-- The values; a variable that is not set is empty. -/
abbrev Env := Var → Text

/-- A shell: its variables, what it has issued so far and how often it has called `date`. -/
@[ext]
structure Bash where
  env : Env
  issued : List (ScriptAction Command Job)
  clock : Nat

namespace Bash

def set (sh : Bash) (var : Var) (value : Text) : Bash := { sh with env := Function.update sh.env var value }

def issue (sh : Bash) (actions : List (ScriptAction Command Job)) : Bash := { sh with issued := sh.issued ++ actions }

/-- After a call of `date`; the next one may print another day. -/
def tick (sh : Bash) : Bash := { sh with clock := sh.clock + 1 }

end Bash

/-- womix/hwdrc_postsi/hwdrc_icx_2S_xcc_disable.sh. -/
def hwdrcIcx2SXccDisable : List Command :=
  .pqosReset :: (eachSocket 57 [.disable]).map fun call => .drc call.1 call.2

/-- `HP_CORES` and `LP_CORES` of hwdrc_icx_2S_xcc_init_to_default_pqos.sh, which runs in a shell of its own. -/
def initHpCores : Text := "0-27,112-139,56-83,168-195".toList
def initLpCores : Text := "28-55,140-167,84-111,196-223".toList

/-- womix/hwdrc_postsi/hwdrc_icx_2S_xcc_init_to_default_pqos.sh. -/
def hwdrcIcx2SXccInitToDefaultPqos : List Command :=
  .pqosReset :: .umountResctrl ::
    ((eachSocket 57 [.settingsUpdate (defaultSettings 0x01800610), .regDump]).map fun call => .drc call.1 call.2) ++
    [.pqosAssociate ['7'] initLpCores, .pqosAssociate ['4'] initHpCores]

def resetRdt : List Command := [.pqosReset]

def initialSettings : List Command := hwdrcIcx2SXccDisable ++ resetRdt

def setHwdrc (env : Env) : List Command :=
  initialSettings ++ hwdrcIcx2SXccInitToDefaultPqos ++
    [.pqosAssociate (env .hpCos) (env .hpCores), .pqosAssociate (env .lpCos) (env .lpCores)]

def setRdt (env : Env) : List Command :=
  initialSettings ++
    [.pqosAssociate (env .lpCos) (env .lpCores), .pqosLlc (env .lpCos) (env .lpCat),
     .pqosMba (env .lpCos) (env .lpMba), .pqosAssociate (env .hpCos) (env .hpCores)]

def runHp (env : Env) (workload path : Text) : Job where
  workload := workload
  cpuset := env .hpCores
  dataFolder := path ++ "/hp".toList
  instances := env .hpInstances
  name := "HP".toList

def runLp (env : Env) (workload path : Text) : Job where
  workload := workload
  cpuset := env .lpCores
  dataFolder := path ++ "/lp".toList
  instances := env .lpInstances
  name := "LP".toList

/-- `wait_docker_stop`: waits for all containers, or stops them. -/
def waitDockerStop (env : Env) : ScriptAction Command Job := Round.clear (decide (env .keepLpRunning = ['1']))

/-- `start_workloads`.  Its `hp` and `lp` are the variables of the calling script. -/
def startWorkloads (hp lp path : Text) (sh : Bash) : Bash :=
  let sh := (sh.set .hp hp).set .lp lp
  sh.issue
    [.command (.hook (sh.env .hookStartTest) path),
     .spawn (runLp sh.env lp path),
     .call (runHp sh.env hp path),
     waitDockerStop sh.env,
     .command (.hook (sh.env .hookFinishTest) path)]

/-- `HWDRCValidation/$date/$hp_workload-$lp_workload`. -/
def root (date hpWorkload lpWorkload : Text) : Text :=
  "HWDRCValidation/".toList ++ date ++ '/' :: hpWorkload ++ '-' :: lpWorkload

def workloadPair (date : Nat → Text) (hpWorkload lpWorkload : Text) (sh : Bash) : Bash :=
  let root := root (date sh.clock) hpWorkload lpWorkload
  let sh := sh.tick.issue (initialSettings.map .command)
  let sh := startWorkloads hpWorkload lpWorkload (root ++ "/00_non".toList) sh
  let sh := startWorkloads hpWorkload "empty".toList (root ++ "/05_hponly".toList) sh
  let sh := sh.issue ((setHwdrc sh.env).map .command)
  let sh := startWorkloads hpWorkload lpWorkload (root ++ "/03_hwdrc".toList) sh
  startWorkloads hpWorkload "empty".toList (root ++ "/04_hponly-hwdrc".toList) sh

/-- `$(seq 10 10 90)`. -/
def lpMbas : List Nat := [10, 20, 30, 40, 50, 60, 70, 80, 90]

def mbaScaling (date : Nat → Text) (hpWorkload lpWorkload : Text) (sh : Bash) : Bash :=
  let root := root (date sh.clock) hpWorkload lpWorkload
  lpMbas.foldl
    (fun sh lpMba =>
      let sh := sh.set .lpMba (decimal lpMba)
      let sh := sh.issue ((setRdt sh.env).map .command)
      startWorkloads hpWorkload lpWorkload (root ++ "/01_rdt_MBA".toList ++ decimal lpMba) sh)
    sh.tick

/-- `source`, for the two files that the rows name. -/
def Bash.source (sh : Bash) (file : Text) : Bash :=
  if file = "process/hwdrc_process.inc.sh".toList then
    ((((sh.set .hpCos ['4']).set .lpCos ['7']).set .hookStartTest "empty".toList).set .hookFinishTest
      "empty".toList).set .keepLpRunning ['1']
  else if file = "hook/pqos_msr.inc.sh".toList then
    (sh.set .hookStartTest "start_pqos".toList).set .hookFinishTest "stop_pqos".toList
  else sh

/-- The words in front of a comment. -/
def words (row : Text) : List Text :=
  ((row.splitOn ' ').filter (· ≠ [])).takeWhile fun word => word.head? ≠ some '#'

/-- A word that is a variable is replaced by its value. -/
def expand (env : Env) : Text → Text
  | '$' :: name => (Var.find name).elim [] env
  | word => word

/-- A command of a row; the other commands do nothing that is followed here. -/
def Bash.invoke (date : Nat → Text) (sh : Bash) (command : Text) (args : List Text) : Bash :=
  if command = "source".toList then sh.source (args.getD 0 [])
  else if command = "mba_scaling".toList then mbaScaling date (args.getD 0 []) (args.getD 1 []) sh
  else if command = "workload_pair".toList then workloadPair date (args.getD 0 []) (args.getD 1 []) sh
  else sh

def Bash.assign (sh : Bash) (word : Text) : Bash :=
  match Var.find (word.takeWhile (· ≠ '=')) with
  | some var => sh.set var (word.dropWhile (· ≠ '=')).tail
  | none => sh

def runRow (date : Nat → Text) (sh : Bash) (row : Text) : Bash :=
  match words row with
  | [] => sh
  | first :: args =>
      if first.contains '=' then sh.assign first
      else sh.invoke date first ((args.map (expand sh.env)).filter (· ≠ []))

/-- A run of a script in a fresh shell; `date` is what its calls of `date` print, in order. -/
def runScript (date : Nat → Text) (rows : List Text) : Bash := rows.foldl (runRow date) ⟨fun _ => [], [], 0⟩

theorem words_of_plain {word : Text} (blank : ' ' ∉ word) (more : word ≠ []) (comment : word.head? ≠ some '#') :
    words word = [word] := by
  rw [words, splitOn_of_not_mem blank]
  simp [more, comment]

theorem Var.find_name (var : Var) : Var.find var.name = some var := by
  cases var <;> decide

theorem Var.name_plain (var : Var) :
    ' ' ∉ var.name ∧ '=' ∉ var.name ∧ var.name.head? ≠ some '#' ∧ var.name ≠ [] := by
  cases var <;> decide

/-- A row that sets a variable. -/
theorem runRow_assign (date : Nat → Text) (sh : Bash) {var : Var} {value row : Text}
    (one : words row = [var.name ++ '=' :: value]) : runRow date sh row = sh.set var value := by
  have front : ∀ c ∈ var.name, decide (c ≠ '=') = true := by
    intro c member
    exact decide_eq_true fun same => var.name_plain.2.1 (same ▸ member)
  have read : (var.name ++ '=' :: value).takeWhile (· ≠ '=') = var.name ∧
      ((var.name ++ '=' :: value).dropWhile (· ≠ '=')).tail = value := by
    rw [List.takeWhile_append_of_pos front, List.dropWhile_append_of_pos front]
    simp
  simp only [runRow, one, Bash.assign, read.1, read.2, Var.find_name]
  simp

theorem words_assign (var : Var) {value : Text} (blank : ' ' ∉ value) :
    words (var.name ++ '=' :: value) = [var.name ++ '=' :: value] := by
  obtain ⟨noBlank, -, noComment, more⟩ := var.name_plain
  apply words_of_plain
  · simp [noBlank, blank]
  · simp
  · rwa [List.head?_append_of_ne_nil _ more]

/-- A row with the name in front of any value. -/
theorem runRow_setting (date : Nat → Text) (sh : Bash) {var : Var} {front value : Text}
    (name : front = var.name ++ ['=']) (blank : ' ' ∉ value) : runRow date sh (front ++ value) = sh.set var value := by
  have row : front ++ value = var.name ++ '=' :: value := by
    rw [name, List.append_assoc]
    rfl
  rw [row]
  exact runRow_assign date sh (words_assign var blank)

theorem runRow_comment (date : Nat → Text) (sh : Bash) {row : Text} (none : words row = []) : runRow date sh row = sh := by
  rw [runRow, none]

theorem runRow_source (date : Nat → Text) (sh : Bash) {row file : Text} (call : words row = ["source".toList, file])
    (plain : expand sh.env file = file) (more : file ≠ []) : runRow date sh row = sh.source file := by
  have command : "source".toList.contains '=' = false := by decide
  rw [runRow, call]
  simp only [command, List.map_cons, List.map_nil, plain]
  simp [more, Bash.invoke]

/-- The variables in front of the first call. -/
def configured (hp0 lp0 : Nat) (hp lp : Text) : Env
  | .hpCos => ['4']
  | .lpCos => ['7']
  | .hpCores => Reporter.str hp0
  | .lpCores => Reporter.str lp0
  | .hpInstances => decimal (Reporter.len hp0)
  | .lpInstances => decimal (Reporter.len lp0)
  | .lpCat => "0x7fff".toList
  | .lpMba => "10".toList
  | .keepLpRunning => ['1']
  | .hookStartTest => "start_pqos".toList
  | .hookFinishTest => "stop_pqos".toList
  | .hp => hp
  | .lp => lp

section Configured

variable (hp0 lp0 : Nat) (hp lp : Text)

@[simp] theorem configured_hpCos : configured hp0 lp0 hp lp .hpCos = ['4'] := rfl

@[simp] theorem configured_lpCos : configured hp0 lp0 hp lp .lpCos = ['7'] := rfl

@[simp] theorem configured_hpCores : configured hp0 lp0 hp lp .hpCores = Reporter.str hp0 := rfl

@[simp] theorem configured_lpCores : configured hp0 lp0 hp lp .lpCores = Reporter.str lp0 := rfl

end Configured

theorem runRow_call (date : Nat → Text) (sh : Bash) {row name : Text} (call : words row = [name, "$hp".toList, "$lp".toList])
    (command : name.contains '=' = false) (hp : sh.env .hp ≠ []) (lp : sh.env .lp ≠ []) :
    runRow date sh row = sh.invoke date name [sh.env .hp, sh.env .lp] := by
  have hpVar : expand sh.env "$hp".toList = sh.env .hp := rfl
  have lpVar : expand sh.env "$lp".toList = sh.env .lp := rfl
  rw [runRow, call]
  simp only [command, List.map_cons, List.map_nil, hpVar, lpVar]
  simp [hp, lp]

theorem blank_not_mem_str (mask : Nat) : ' ' ∉ Reporter.str mask := by
  obtain ⟨items, text, -⟩ := Reporter.exists_items_str mask
  rw [text, Reporter.descText]
  intro member
  obtain ⟨word, inside, member⟩ := exists_of_mem_intercalate (by decide) member
  obtain ⟨item, -, rfl⟩ := List.mem_map.mp inside
  have digits : ∀ n : Numeral, ' ' ∉ n.digits := fun n member => absurd (n.isDigit _ member) (by decide)
  cases item <;> simp [Reporter.Item.text, digits] at member

theorem foldl_settings (date : Nat → Text) (hp0 lp0 : Nat) {hp lp : Text} (hpPlain : ' ' ∉ hp) (lpPlain : ' ' ∉ lp) :
    ((Reporter.conf hp0 lp0 hp lp).take 15).foldl (runRow date) ⟨fun _ => [], [], 0⟩ =
      ⟨configured hp0 lp0 hp lp, [], 0⟩ := by
  have number : ∀ n, ' ' ∉ decimal n := fun n => not_mem_decimal (by decide)
  have shebang : ∀ sh, runRow date sh "#!/bin/bash".toList = sh := fun sh => runRow_comment date sh (by decide)
  have empty : ∀ sh, runRow date sh [] = sh := fun sh => runRow_comment date sh (by decide)
  have emon : ∀ sh, runRow date sh "# source hook/emon.inc.sh".toList = sh :=
    fun sh => runRow_comment date sh (by decide)
  have process : ∀ sh : Bash, runRow date sh "source process/hwdrc_process.inc.sh".toList =
      sh.source "process/hwdrc_process.inc.sh".toList :=
    fun sh => runRow_source date sh (by decide) rfl (by decide)
  have pqosMsr : ∀ sh : Bash, runRow date sh "source hook/pqos_msr.inc.sh".toList =
      sh.source "hook/pqos_msr.inc.sh".toList :=
    fun sh => runRow_source date sh (by decide) rfl (by decide)
  have lpCat : ∀ sh : Bash, runRow date sh "LP_CAT=0x7fff".toList = sh.set .lpCat "0x7fff".toList :=
    fun sh => runRow_assign date sh (by decide)
  have lpMba : ∀ sh : Bash, runRow date sh "LP_MBA=10 # change it if needed".toList = sh.set .lpMba "10".toList :=
    fun sh => runRow_assign date sh (by decide)
  have hpCores : ∀ sh : Bash, runRow date sh ("HP_CORES=".toList ++ Reporter.str hp0) = sh.set .hpCores (Reporter.str hp0) :=
    fun sh => runRow_setting date sh rfl (blank_not_mem_str hp0)
  have lpCores : ∀ sh : Bash, runRow date sh ("LP_CORES=".toList ++ Reporter.str lp0) = sh.set .lpCores (Reporter.str lp0) :=
    fun sh => runRow_setting date sh rfl (blank_not_mem_str lp0)
  have hpInstances : ∀ sh : Bash, runRow date sh ("HP_INSTANCES=".toList ++ decimal (Reporter.len hp0)) =
      sh.set .hpInstances (decimal (Reporter.len hp0)) :=
    fun sh => runRow_setting date sh rfl (number _)
  have lpInstances : ∀ sh : Bash, runRow date sh ("LP_INSTANCES=".toList ++ decimal (Reporter.len lp0)) =
      sh.set .lpInstances (decimal (Reporter.len lp0)) :=
    fun sh => runRow_setting date sh rfl (number _)
  have hpRow : ∀ sh : Bash, runRow date sh ("hp=".toList ++ hp) = sh.set .hp hp :=
    fun sh => runRow_setting date sh rfl hpPlain
  have lpRow : ∀ sh : Bash, runRow date sh ("lp=".toList ++ lp) = sh.set .lp lp :=
    fun sh => runRow_setting date sh rfl lpPlain
  simp only [Reporter.conf, List.take_succ_cons, List.take_zero, List.foldl_cons, List.foldl_nil, shebang, empty,
    emon, process, pqosMsr, lpCat, lpMba, hpCores, lpCores, hpInstances, lpInstances, hpRow, lpRow]
  refine Bash.ext (funext fun var => ?_) rfl rfl
  cases var <;> rfl

/-- `start_workloads` behind some settings. -/
def measuredRun (env : Env) (settings : List Command) (hp lp path : Text) : Round Command Job where
  before := settings ++ [.hook (env .hookStartTest) path]
  spawned := runLp env lp path
  called := runHp env hp path
  waits := decide (env .keepLpRunning = ['1'])
  after := [.hook (env .hookFinishTest) path]

/-- A turn of the loop in `mba_scaling`. -/
def rdtRun (env : Env) (date hp lp : Text) (lpMba : Nat) : Round Command Job :=
  measuredRun env (setRdt (Function.update env .lpMba (decimal lpMba))) hp lp
    (root date hp lp ++ "/01_rdt_MBA".toList ++ decimal lpMba)

/-- What `workload_pair` measures. -/
def pairRuns (env : Env) (date hp lp : Text) : List (Round Command Job) :=
  [measuredRun env initialSettings hp lp (root date hp lp ++ "/00_non".toList),
   measuredRun env [] hp "empty".toList (root date hp lp ++ "/05_hponly".toList),
   measuredRun env (setHwdrc env) hp lp (root date hp lp ++ "/03_hwdrc".toList),
   measuredRun env [] hp "empty".toList (root date hp lp ++ "/04_hponly-hwdrc".toList)]

/-- What a script measures, in order, with what `date` printed in its two functions. -/
def runs (env : Env) (date : Nat → Text) (hp lp : Text) : List (Round Command Job) :=
  lpMbas.map (rdtRun env (date 0) hp lp) ++ pairRuns env (date 1) hp lp

/-- The variables that the runs read; `hp`, `lp` and `LP_MBA` change along a script. -/
def SameSetup (env env' : Env) : Prop := ∀ var, var ≠ .hp → var ≠ .lp → var ≠ .lpMba → env' var = env var

theorem measuredRun_congr {env env' : Env} (same : SameSetup env env') (settings : List Command) (hp lp path : Text) :
    measuredRun env' settings hp lp path = measuredRun env settings hp lp path := by
  rw [SameSetup] at same
  simp [measuredRun, runLp, runHp, same]

theorem setHwdrc_congr {env env' : Env} (same : SameSetup env env') : setHwdrc env' = setHwdrc env := by
  rw [SameSetup] at same
  simp [setHwdrc, same]

theorem setRdt_congr {env env' : Env} (same : SameSetup env env') (lpMba : Text) :
    setRdt (Function.update env' .lpMba lpMba) = setRdt (Function.update env .lpMba lpMba) := by
  rw [SameSetup] at same
  simp [setRdt, same]

/-- A shell whose variables are set up as in `env` and which has issued `rounds` behind `start`. -/
structure Issued (env : Env) (start : List (ScriptAction Command Job)) (rounds : List (Round Command Job)) (sh : Bash) :
    Prop where
  same : SameSetup env sh.env
  issued : sh.issued = start ++ rounds.flatMap Round.actions

theorem SameSetup.set_pair {env env' : Env} (same : SameSetup env env') (hp lp : Text) :
    SameSetup env (Function.update (Function.update env' .hp hp) .lp lp) := by
  intro var notHp notLp notMba
  rw [Function.update_of_ne notLp, Function.update_of_ne notHp, same var notHp notLp notMba]

theorem SameSetup.set_lpMba {env env' : Env} (same : SameSetup env env') (lpMba : Text) :
    SameSetup env (Function.update env' .lpMba lpMba) := by
  intro var notHp notLp notMba
  rw [Function.update_of_ne notMba, same var notHp notLp notMba]

section Issued

variable {env : Env} {start : List (ScriptAction Command Job)} {rounds : List (Round Command Job)} {sh : Bash}

/-- Settings and `start_workloads` make a run. -/
theorem Issued.run (so : Issued env start rounds sh) (settings : List Command) (hp lp path : Text) :
    Issued env start (rounds ++ [measuredRun env settings hp lp path])
      (startWorkloads hp lp path (sh.issue (settings.map .command))) where
  same := so.same.set_pair hp lp
  issued := by
    rw [List.flatMap_append, List.flatMap_singleton, ← measuredRun_congr (so.same.set_pair hp lp), ← List.append_assoc,
      ← so.issued]
    simp [startWorkloads, Bash.issue, Bash.set, measuredRun, Round.actions, waitDockerStop]

theorem Issued.run_as_is (so : Issued env start rounds sh) (hp lp path : Text) :
    Issued env start (rounds ++ [measuredRun env [] hp lp path]) (startWorkloads hp lp path sh) := by
  have run := so.run [] hp lp path
  rwa [List.map_nil, Bash.issue, List.append_nil] at run

theorem Issued.rdt (so : Issued env start rounds sh) (date hp lp : Text) (lpMba : Nat) :
    Issued env start (rounds ++ [rdtRun env date hp lp lpMba])
      (startWorkloads hp lp (root date hp lp ++ "/01_rdt_MBA".toList ++ decimal lpMba)
        ((sh.set .lpMba (decimal lpMba)).issue ((setRdt (sh.set .lpMba (decimal lpMba)).env).map .command))) := by
  have set : Issued env start rounds (sh.set .lpMba (decimal lpMba)) := ⟨so.same.set_lpMba _, so.issued⟩
  rw [rdtRun, ← setRdt_congr so.same]
  exact set.run ..

theorem Issued.tick (so : Issued env start rounds sh) : Issued env start rounds sh.tick := ⟨so.same, so.issued⟩

theorem Issued.mbaScaling (so : Issued env start rounds sh) (date : Nat → Text) (hp lp : Text) :
    Issued env start (rounds ++ lpMbas.map (rdtRun env (date sh.clock) hp lp)) (mbaScaling date hp lp sh) := by
  rw [Womix.mbaScaling]
  generalize date sh.clock = today
  replace so := so.tick
  generalize sh.tick = sh at so ⊢
  induction lpMbas generalizing rounds sh with
  | nil => simpa using so
  | cons lpMba rest ih =>
      rw [List.map_cons, List.foldl_cons, List.append_cons]
      exact ih _ (so.rdt today hp lp lpMba)

theorem Issued.workloadPair (so : Issued env start rounds sh) (date : Nat → Text) (hp lp : Text) :
    Issued env start (rounds ++ pairRuns env (date sh.clock) hp lp) (workloadPair date hp lp sh) := by
  rw [Womix.workloadPair]
  generalize date sh.clock = today
  have plain := (so.tick.run initialSettings hp lp (root today hp lp ++ "/00_non".toList)).run_as_is hp
    "empty".toList (root today hp lp ++ "/05_hponly".toList)
  have drc := (plain.run (setHwdrc env) hp lp (root today hp lp ++ "/03_hwdrc".toList)).run_as_is hp "empty".toList
    (root today hp lp ++ "/04_hponly-hwdrc".toList)
  rw [setHwdrc_congr plain.same]
  simpa only [pairRuns, List.append_assoc, List.cons_append, List.nil_append] using drc

end Issued

theorem mbaScaling_kept (date : Nat → Text) {hp lp : Text} {sh : Bash} (pair : sh.env .hp = hp ∧ sh.env .lp = lp) :
    (mbaScaling date hp lp sh).env .hp = hp ∧ (mbaScaling date hp lp sh).env .lp = lp ∧
      (mbaScaling date hp lp sh).clock = sh.clock + 1 := by
  have ticked : sh.tick.env .hp = hp ∧ sh.tick.env .lp = lp ∧ sh.tick.clock = sh.clock + 1 :=
    ⟨pair.1, pair.2, rfl⟩
  rw [mbaScaling]
  generalize date sh.clock = today
  generalize sh.clock + 1 = later at ticked ⊢
  generalize sh.tick = sh at ticked ⊢
  induction lpMbas generalizing sh with
  | nil => exact ticked
  | cons lpMba rest ih =>
      rw [List.foldl_cons]
      exact ih _ ⟨rfl, rfl, ticked.2.2⟩

theorem issued_runScript (date : Nat → Text) (hp0 lp0 : Nat) {hp lp : Text} (hpPlain : ' ' ∉ hp) (lpPlain : ' ' ∉ lp)
    (hpMore : hp ≠ []) (lpMore : lp ≠ []) :
    (runScript date (Reporter.conf hp0 lp0 hp lp)).issued =
      (runs (configured hp0 lp0 hp lp) date hp lp).flatMap Round.actions := by
  have cut : Reporter.conf hp0 lp0 hp lp = (Reporter.conf hp0 lp0 hp lp).take 15 ++
      ["mba_scaling $hp $lp".toList, "#KEEP_LP_RUNNING=0".toList, "workload_pair $hp $lp".toList] := rfl
  have fresh : Issued (configured hp0 lp0 hp lp) [] [] ⟨configured hp0 lp0 hp lp, [], 0⟩ := ⟨fun _ _ _ _ => rfl, rfl⟩
  have scaled := fresh.mbaScaling date hp lp
  have first : runRow date ⟨configured hp0 lp0 hp lp, [], 0⟩ "mba_scaling $hp $lp".toList =
      mbaScaling date hp lp ⟨configured hp0 lp0 hp lp, [], 0⟩ := by
    have call : words "mba_scaling $hp $lp".toList = ["mba_scaling".toList, "$hp".toList, "$lp".toList] := by decide
    rw [runRow_call date _ call (by decide) hpMore lpMore]
    rfl
  obtain ⟨hpSame, lpSame, clock⟩ := @mbaScaling_kept date hp lp ⟨configured hp0 lp0 hp lp, [], 0⟩ ⟨rfl, rfl⟩
  have second : runRow date (mbaScaling date hp lp ⟨configured hp0 lp0 hp lp, [], 0⟩) "workload_pair $hp $lp".toList =
      workloadPair date hp lp (mbaScaling date hp lp ⟨configured hp0 lp0 hp lp, [], 0⟩) := by
    have call : words "workload_pair $hp $lp".toList = ["workload_pair".toList, "$hp".toList, "$lp".toList] := by decide
    rw [runRow_call date _ call (by decide) (by rwa [hpSame]) (by rwa [lpSame]), hpSame, lpSame]
    rfl
  have paired := scaled.workloadPair date hp lp
  rw [clock] at paired
  rw [runScript, cut, List.foldl_append, foldl_settings date hp0 lp0 hpPlain lpPlain, List.foldl_cons, first,
    List.foldl_cons, runRow_comment date _ (by decide), List.foldl_cons, second, List.foldl_nil]
  exact paired.issued

theorem issued_main (date : Nat → Text) {desc ht : Text} {ratio : Nat} {script : Reporter.Script}
    (written : script ∈ Reporter.main desc ratio ht) :
    ∃ hp ∈ Reporter.hpWl, ∃ lp ∈ Reporter.lpWl,
      script.rows =
        Reporter.conf (Reporter.splitCores desc ratio ht).1 (Reporter.splitCores desc ratio ht).2 hp lp ∧
      (runScript date script.rows).issued =
        (runs (configured (Reporter.splitCores desc ratio ht).1 (Reporter.splitCores desc ratio ht).2 hp lp)
          date hp lp).flatMap Round.actions := by
  obtain ⟨hp, hpIn, written⟩ := List.mem_flatMap.mp written
  obtain ⟨lp, lpIn, rfl⟩ := List.mem_map.mp written
  have plain : ∀ name ∈ Reporter.hpWl ++ Reporter.lpWl, ' ' ∉ name ∧ name ≠ [] := by decide
  obtain ⟨hpPlain, hpMore⟩ := plain hp (List.mem_append_left _ hpIn)
  obtain ⟨lpPlain, lpMore⟩ := plain lp (List.mem_append_right _ lpIn)
  exact ⟨hp, hpIn, lp, lpIn, rfl, issued_runScript date _ _ hpPlain lpPlain hpMore lpMore⟩

end KvmWorkload.Womix
