import KvmWorkload.RunTestcases.Session

/-! # What a run leaves behind

A run of run_testcases.sh cleans up after itself.  Two things outlive it: a
monitor that it started twice, of which `mon_pid` names the second one only, and
CPAT, which no script of the repository switches off.
-/

namespace KvmWorkload.RunTestcases.Session

open Mailbox

/-- The monitors that were started and have not been sent a signal. -/
structure Monitors where
  pending : List (Nat × Text)
  nextPid : Nat
  monPid : Option Nat
  /-- Process ids are not used twice. -/
  issued : ∀ entry ∈ pending, entry.1 < nextPid

namespace Monitors

/-- `start_monitoring`. -/
def start (s : Monitors) (monFile : Text) : Monitors where
  pending := s.pending ++ [(s.nextPid, monFile)]
  nextPid := s.nextPid + 1
  monPid := some s.nextPid
  issued entry member := by
    rcases List.mem_append.mp member with earlier | last
    · exact Nat.lt_succ_of_lt (s.issued entry earlier)
    · rw [List.mem_singleton.mp last]
      exact Nat.lt_succ_self s.nextPid

/-- `kill -SIGINT $mon_pid`, which reaches nothing when the variable is not set. -/
def kill (s : Monitors) : Monitors where
  pending := s.pending.filter fun entry => some entry.1 ≠ s.monPid
  nextPid := s.nextPid
  monPid := s.monPid
  issued entry member := s.issued entry (List.mem_filter.mp member).1

theorem pending_kill_start (s : Monitors) (monFile : Text) : (s.start monFile).kill.pending = s.pending := by
  have others : s.pending.filter (fun entry => some entry.1 ≠ some s.nextPid) = s.pending := by
    refine List.filter_eq_self.mpr fun entry member => decide_eq_true fun same => ?_
    exact absurd (s.issued entry member) (Option.some.inj same ▸ Nat.lt_irrefl s.nextPid)
  calc (s.start monFile).kill.pending
      = (s.pending ++ [(s.nextPid, monFile)]).filter fun entry => some entry.1 ≠ some s.nextPid := rfl
    _ = s.pending := by rw [List.filter_append, others]; simp

end Monitors

def monitorStep (s : Monitors) : HostCommand → Monitors
  | .shell => { s with monPid := none }
  | .startMonitor monFile => s.start monFile
  | .killMonitor => s.kill
  | _ => s

/-- The file of the monitor that a run starts before its result files have a name. -/
def unstopped (cfg : RunConfig) : Option Text :=
  if branch cfg = .woCos ∧ cfg.monitoring = true then some (monFile cfg []) else none

theorem monitorStep_other (s : Monitors) (command : HostCommand) (other : command.plane ≠ .monitor) :
    monitorStep s command = s := by
  cases command <;> first | rfl | exact absurd rfl other

theorem pending_main (cfg : RunConfig) (s : Monitors) :
    ((main cfg).foldl monitorStep s).pending.map Prod.snd = s.pending.map Prod.snd ++ (unstopped cfg).toList := by
  rw [foldl_onPlane .monitor monitorStep_other, onPlane_monitor_main, unstopped]
  cases monitored : cfg.monitoring with
  | false => simp [startMonitoring, monitored, monitorStep]
  | true =>
      have second : ∀ s : Monitors, (startMonitoring cfg (corun cfg).suffix ++ [HostCommand.killMonitor]).foldl monitorStep s =
          (s.start (monFile cfg (corun cfg).suffix)).kill := by
        intro s
        rw [startMonitoring, if_pos monitored]
        rfl
      rw [if_pos rfl, List.append_assoc, List.foldl_append, second, Monitors.pending_kill_start]
      by_cases woCos : branch cfg = .woCos
      · rw [if_pos woCos, if_pos ⟨woCos, rfl⟩, startMonitoring, if_pos monitored]
        exact List.map_append
      · rw [if_neg woCos, if_neg fun both => woCos both.1]
        exact (List.append_nil _).symm

/-- Behind every campaign the monitors that nobody signalled are those from before it and, for each monitored
    run without COS, the one that was started before its result files had a name. -/
theorem pending_campaign (runs : List RunConfig) (s : Monitors) :
    ((campaign runs).foldl monitorStep s).pending.map Prod.snd =
      s.pending.map Prod.snd ++ runs.filterMap unstopped := by
  induction runs generalizing s with
  | nil => simp [campaign]
  | cons cfg rest ih =>
      rw [campaign, List.flatMap_cons, List.foldl_append]
      refine (ih _).trans ?_
      rw [pending_main, List.append_assoc, List.filterMap_cons]
      cases unstopped cfg with
      | none => rfl
      | some file => rfl

/-- What is run on a machine: a test case, or one of the scripts of cpat/. -/
inductive Job where
  | testcase (cfg : RunConfig)
  | cpatDisable
  | cpatPqos
  | cpatResctrl
  | cpatScenarios

/-- cpat_disable.sh calls `cpat_enaable`, which is defined nowhere, and prints registers. -/
def cpatDisable : List HostCommand := [.shell]

def cpatPqos : List HostCommand := .shell :: cpatInit

def cpatResctrl : List HostCommand := .shell :: cpatInit

/-- cpat_resctrl_scenarios_sub.sh: a run for the scenario without CPAT, and two with CPAT. -/
def cpatScenarios : List HostCommand :=
  .shell :: cpatResctrl ++ .mountResctrl :: cpatDisable ++
    .runWorkloads "cpat_disabled_resctrl".toList :: cpatResctrl ++
    [.runWorkloads "cpat_enabled_resctrl".toList, .runWorkloads "cpat_enabled_resctrl".toList]

def Job.commands : Job → List HostCommand
  | .testcase cfg => main cfg
  | .cpatDisable => Session.cpatDisable
  | .cpatPqos => Session.cpatPqos
  | .cpatResctrl => Session.cpatResctrl
  | .cpatScenarios => Session.cpatScenarios

/-- Whether each run of a job is reported as one with CPAT. -/
def Job.labels : Job → List Bool
  | .testcase cfg => [branch cfg = .cpat]
  | .cpatDisable | .cpatPqos | .cpatResctrl => []
  | .cpatScenarios => [false, true, true]

/-- The jobs that call `cpat_init`. -/
def Job.activates : Job → Bool
  | .testcase cfg => branch cfg = .cpat
  | .cpatDisable => false
  | .cpatPqos | .cpatResctrl | .cpatScenarios => true

/-- The control register of CPAT on the socket of core 1. -/
def cpatStep (control : Msr) : HostCommand → Msr
  | .mailboxWrite coreId interface data => if coreId = 1 ∧ interface = 0x800003ca then data else control
  | _ => control

/-- CPAT as a label says, active in ordered mode or off. -/
def AsLabelled (label : Bool) (control : Msr) : Prop := control = if label then 0x3 else 0x0

def measuredCpat (jobs : List Job) (control : Msr) : List Msr :=
  snapshots cpatStep HostCommand.isRun control (jobs.flatMap Job.commands)

theorem cpatStep_other (control : Msr) (command : HostCommand) (other : command.plane ≠ .cpat) :
    cpatStep control command = control := by
  cases command <;> first | rfl | exact absurd rfl other

theorem prepared_cpat (cfg : RunConfig) (control : Msr) :
    (prepared cfg).foldl cpatStep control = if branch cfg = .cpat then 0x3 else control := by
  rw [foldl_onPlane .cpat cpatStep_other, onPlane_cpat_prepared]
  split_ifs <;> rfl

theorem main_cpat (cfg : RunConfig) (control : Msr) :
    (main cfg).foldl cpatStep control = if branch cfg = .cpat then 0x3 else control := by
  rw [main_eq, List.foldl_append, List.foldl_cons, foldl_onPlane .cpat cpatStep_other _ (finished cfg),
    onPlane_cpat_finished, prepared_cpat]
  rfl

theorem Job.commands_cpat (job : Job) (control : Msr) :
    job.commands.foldl cpatStep control = if job.activates then 0x3 else control := by
  cases job with
  | testcase cfg => simp [Job.commands, Job.activates, main_cpat]
  | cpatDisable => rfl
  | cpatPqos => rfl
  | cpatResctrl => rfl
  | cpatScenarios => rfl

theorem Job.snapshots_commands (job : Job) (control : Msr) :
    snapshots cpatStep HostCommand.isRun control job.commands =
      match job with
      | .testcase cfg => [if branch cfg = .cpat then 0x3 else control]
      | .cpatDisable | .cpatPqos | .cpatResctrl => []
      | .cpatScenarios => [0x3, 0x3, 0x3] := by
  cases job with
  | testcase cfg => exact (snapshots_main cfg cpatStep control).trans (by rw [prepared_cpat])
  | cpatDisable => rfl
  | cpatPqos => rfl
  | cpatResctrl => rfl
  | cpatScenarios => rfl

theorem measuredCpat_cons (job : Job) (rest : List Job) (control : Msr) :
    measuredCpat (job :: rest) control = snapshots cpatStep HostCommand.isRun control job.commands ++
      measuredCpat rest (if job.activates then 0x3 else control) := by
  rw [measuredCpat, List.flatMap_cons, snapshots_append, job.commands_cpat]
  rfl

theorem Job.asLabelled_on (job : Job) (labels : List Bool) (states : List Msr) :
    List.Forall₂ AsLabelled (job.labels ++ labels)
        (snapshots cpatStep HostCommand.isRun 0x3 job.commands ++ states) ↔
      false ∉ job.labels ∧ List.Forall₂ AsLabelled labels states := by
  rw [job.snapshots_commands]
  cases job with
  | testcase cfg => by_cases cpat : branch cfg = .cpat <;> simp [Job.labels, AsLabelled, cpat]
  | cpatScenarios => simp [Job.labels, AsLabelled]
  | _ => simp [Job.labels]

theorem Job.asLabelled_off (job : Job) (labels : List Bool) (states : List Msr) :
    List.Forall₂ AsLabelled (job.labels ++ labels)
        (snapshots cpatStep HostCommand.isRun 0x0 job.commands ++ states) ↔
      job ≠ .cpatScenarios ∧ List.Forall₂ AsLabelled labels states := by
  rw [job.snapshots_commands]
  cases job with
  | testcase cfg => by_cases cpat : branch cfg = .cpat <;> simp [Job.labels, AsLabelled, cpat]
  | cpatScenarios => simp [Job.labels, AsLabelled]
  | _ => simp [Job.labels]

theorem asLabelled_on (jobs : List Job) :
    List.Forall₂ AsLabelled (jobs.flatMap Job.labels) (measuredCpat jobs 0x3) ↔
      ∀ job ∈ jobs, false ∉ job.labels := by
  induction jobs with
  | nil => simp [measuredCpat, snapshots]
  | cons job rest ih =>
      rw [List.forall_mem_cons, measuredCpat_cons, List.flatMap_cons, job.asLabelled_on, ite_self, ih]

/-- On a machine that starts with CPAT off, every run of every job is measured with CPAT as it is reported
    exactly when the scenarios of cpat/ are not among the jobs and no run without CPAT follows a job that
    calls `cpat_init`. -/
theorem measuredCpat_asLabelled_iff (jobs : List Job) :
    List.Forall₂ AsLabelled (jobs.flatMap Job.labels) (measuredCpat jobs 0x0) ↔
      .cpatScenarios ∉ jobs ∧ jobs.Pairwise fun job later => job.activates = true → false ∉ later.labels := by
  induction jobs with
  | nil => simp [measuredCpat, snapshots]
  | cons job rest ih =>
      rw [measuredCpat_cons, List.flatMap_cons, job.asLabelled_off, List.pairwise_cons, List.mem_cons, not_or,
        and_assoc, ne_comm]
      refine and_congr_right fun _ => ?_
      cases activates : job.activates with
      | false =>
          rw [if_neg Bool.false_ne_true, ih]
          exact and_congr_right fun _ => (and_iff_right fun _ _ on => absurd on Bool.false_ne_true).symm
      | true =>
          rw [if_pos rfl, asLabelled_on]
          constructor
          · intro withCpat
            refine ⟨fun scenarios => withCpat _ scenarios (by decide), fun later member _ => withCpat later member, ?_⟩
            exact List.pairwise_of_forall_mem_list fun _ _ later member _ => withCpat later member
          · rintro ⟨_, behind, _⟩ later member
            exact behind later member rfl

end KvmWorkload.RunTestcases.Session
