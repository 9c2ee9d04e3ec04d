import KvmWorkload.Womix.Settings
import KvmWorkload.Reporter.PassCriterion

/-! # What a verdict of the validation says

The generated scripts run one after the other on one machine and fill the tree of
results that `list_results` reads.  A verdict is a comparison of numbers in
folders; here it is traced back to the runs that wrote them and to the settings
of the machine during these runs.
-/

namespace KvmWorkload.Womix

open Reporter.PassCriterion (Readings PerformancePare Within levels mbaFolder listResults passed_iff_largest)

/-- The script of a pair of workloads, as `__main__` writes it. -/
def scriptOf (desc : Text) (ratio : Nat) (ht : Text) (pair : Text × Text) : Reporter.Script :=
  Reporter.creatScript pair.1 pair.2
    (Reporter.conf (Reporter.splitCores desc ratio ht).1 (Reporter.splitCores desc ratio ht).2 pair.1 pair.2)

/-- The pairs of workloads. -/
def pairs : List (Text × Text) := Reporter.hpWl.flatMap fun hp => Reporter.lpWl.map (Prod.mk hp)

theorem main_eq_pairs (desc : Text) (ratio : Nat) (ht : Text) :
    Reporter.main desc ratio ht = pairs.map (scriptOf desc ratio ht) := rfl

/-- A run of the script of a pair, with what its calls of `date` print. -/
structure Execution where
  pair : Text × Text
  date : Nat → Text

/-- What scripts issue that run one after the other. -/
def campaign (desc : Text) (ratio : Nat) (ht : Text) (executions : List Execution) : List (ScriptAction Command Job) :=
  executions.flatMap fun execution => (runScript execution.date (scriptOf desc ratio ht execution.pair).rows).issued

section Tree

variable {Node : Type} (outcome : Job × Machine Node → Option Rat)

/-- What a reader finds in the folders of the results.  Where several runs were made into one folder it is
    one of them. -/
structure Holds (runs : List (Job × Machine Node)) (held : Text → Option (Job × Machine Node)) : Prop where
  found : ∀ run ∈ runs, (held run.1.dataFolder).isSome = true
  made : ∀ folder run, held folder = some run → run ∈ runs ∧ run.1.dataFolder = folder

/-- What the readers find below the folder of a pair; a score is missing when its reader raises.  The verdict
    does not depend on the low-priority scores. -/
def readings (held : Text → Option (Job × Machine Node)) (lpScores : Text → Option Rat) (path : Text) : Readings where
  hp subCase := (held (path ++ '/' :: subCase ++ "/hp".toList)).bind outcome
  lp := lpScores

/-- The number that a run takes part with. -/
def worth (run : Job × Machine Node) : Rat := (outcome run).getD 0

/-- A verdict and the runs that it rests on. -/
structure Judged (full : Table → Text) (hp lp : Finset Nat) (workload : Text) (passed : Bool) (drc : Job × Machine Node)
    (limited : Nat → Job × Machine Node) : Prop where
  workload_eq : drc.1.workload = workload
  controlled : Controlled full hp lp drc.2
  mba : ∀ level ∈ levels, Limited full hp lp "0x7fff".toList (decimal level) (limited level).2
  /-- The runs differ in nothing but their folders and the settings. -/
  alike : ∀ level ∈ levels, { (limited level).1 with dataFolder := drc.1.dataFolder } = drc.1
  /-- The controlled run is as good as the one under the weakest limit that does not cost too much. -/
  passed_iff : passed = true ↔ ∃ best ∈ levels,
    0.9 * worth outcome (limited 10) ≤ worth outcome (limited best) ∧
    (∀ level ∈ levels, best < level → worth outcome (limited level) < 0.9 * worth outcome (limited 10)) ∧
    Within (worth outcome drc) (worth outcome (limited best))

end Tree

theorem mem_pairs {pair : Text × Text} : pair ∈ pairs ↔ pair.1 ∈ Reporter.hpWl ∧ pair.2 ∈ Reporter.lpWl := by
  rw [pairs, List.mem_flatMap]
  constructor
  · rintro ⟨hp, hpIn, listed⟩
    obtain ⟨lp, lpIn, rfl⟩ := List.mem_map.mp listed
    exact ⟨hpIn, lpIn⟩
  · rintro ⟨hpIn, lpIn⟩
    exact ⟨pair.1, hpIn, List.mem_map_of_mem lpIn⟩

/-- The names of the workloads stand in a path and in a row of a script without being cut. -/
theorem names_plain :
    ∀ name ∈ Reporter.hpWl ++ Reporter.lpWl, '-' ∉ name ∧ '/' ∉ name ∧ ' ' ∉ name ∧ name ≠ [] := by
  decide

theorem splitOn_pair {pair : Text × Text} (member : pair ∈ pairs) :
    ((pair.1 ++ '-' :: pair.2).splitOn '-').length = 2 := by
  obtain ⟨hpIn, lpIn⟩ := mem_pairs.mp member
  have hpDash := (names_plain pair.1 (List.mem_append_left _ hpIn)).1
  have lpDash := (names_plain pair.2 (List.mem_append_right _ lpIn)).1
  rw [List.splitOn_append_cons_self, splitOn_of_not_mem hpDash, splitOn_of_not_mem lpDash]
  rfl

def Label.subCase (label : Label) : Text := label.text.tail

theorem Label.text_eq (label : Label) : label.text = '/' :: label.subCase := by cases label <;> rfl

theorem subCase_inj {label label' : Label} (inside : label ∈ labels) (inside' : label' ∈ labels)
    (same : label.subCase = label'.subCase) : label = label' := by
  have distinct : (labels.map Label.subCase).Nodup := by decide
  exact List.inj_on_of_nodup_map distinct inside inside' same

theorem slash_not_mem_subCase : ∀ label ∈ labels, '/' ∉ label.subCase := by decide

theorem root_eq (today hp lp : Text) :
    root today hp lp = "HWDRCValidation/".toList ++ today ++ '/' :: (hp ++ '-' :: lp) := by
  unfold root
  generalize "HWDRCValidation/".toList = top
  simp only [List.append_assoc, List.cons_append]

theorem dataFolder_inj {today today' : Text} {pair pair' : Text × Text} (member : pair ∈ pairs)
    (member' : pair' ∈ pairs) {label label' : Label} (inside : label ∈ labels) (inside' : label' ∈ labels)
    (same : root today pair.1 pair.2 ++ label.text ++ "/hp".toList =
      root today' pair'.1 pair'.2 ++ label'.text ++ "/hp".toList) : today = today' ∧ pair = pair' ∧ label = label' := by
  have plain : ∀ pair ∈ pairs, '-' ∉ pair.1 ∧ '-' ∉ pair.2 ∧ '/' ∉ pair.1 ++ '-' :: pair.2 := by
    intro pair member
    obtain ⟨hpIn, lpIn⟩ := mem_pairs.mp member
    obtain ⟨hpDash, hpSlash, -⟩ := names_plain pair.1 (List.mem_append_left _ hpIn)
    obtain ⟨lpDash, lpSlash, -⟩ := names_plain pair.2 (List.mem_append_right _ lpIn)
    exact ⟨hpDash, lpDash, by simp [hpSlash, lpSlash]⟩
  -- The path is taken apart from its end, where no name has a slash.
  have paths := List.append_cancel_right same
  rw [Label.text_eq, Label.text_eq] at paths
  have subCases := suffix_eq_of_sep (slash_not_mem_subCase label inside) (slash_not_mem_subCase label' inside') paths
  rw [subCases] at paths
  have roots := List.append_cancel_right paths
  rw [root_eq, root_eq] at roots
  have names := suffix_eq_of_sep (plain pair member).2.2 (plain pair' member').2.2 roots
  rw [names] at roots
  have days := List.append_cancel_left (List.append_cancel_right roots)
  rw [List.append_cons_inj_of_notMem (plain pair member).1 (plain pair member).2.1] at names
  exact ⟨days, Prod.ext names.1 names.2.2, subCase_inj inside inside' subCases⟩

section Readings

variable {Node : Type} {outcome : Job × Machine Node → Option Rat} {lpScores : Text → Option Rat}
  {held : Text → Option (Job × Machine Node)} {path : Text} {run : Job × Machine Node}

theorem holds_lastEntry (runs : List (Job × Machine Node)) :
    Holds runs (lastEntry (runs.map fun run => (run.1.dataFolder, run))) := by
  have known : ∀ folder, folder ∈ (runs.map fun run => (run.1.dataFolder, run)).map Prod.fst ↔
      ∃ run ∈ runs, run.1.dataFolder = folder := by
    intro folder
    rw [List.map_map, List.mem_map]
    rfl
  constructor
  · intro run member
    obtain ⟨last, -, held⟩ := exists_lastEntry ((known _).mpr ⟨run, member, rfl⟩)
    rw [held]
    rfl
  · intro folder run held
    have named : folder ∈ (runs.map fun run => (run.1.dataFolder, run)).map Prod.fst := by
      by_contra absent
      rw [lastEntry_of_not_mem absent] at held
      cases held
    obtain ⟨last, entry, held'⟩ := exists_lastEntry named
    obtain rfl := Option.some.inj (held.symm.trans held')
    obtain ⟨_, there, same⟩ := List.mem_map.mp entry
    obtain ⟨here, rfl⟩ := Prod.mk.inj same
    exact ⟨there, here⟩

theorem readings_nonNegative (nonNegative : ∀ run score, outcome run = some score → 0 ≤ score) :
    (readings outcome held lpScores path).NonNegative := by
  intro subCase score read
  obtain ⟨run, -, scored⟩ := Option.bind_eq_some_iff.mp read
  exact nonNegative run score scored

theorem value_readings {level : Nat}
    (here : held (path ++ '/' :: Label.subCase (.rdt level) ++ "/hp".toList) = some run) :
    (readings outcome held lpScores path).value level = worth outcome run := by
  have folder : mbaFolder level = Label.subCase (.rdt level) := rfl
  simp only [Readings.value, readings, folder, here, Option.bind_some, worth]

theorem hwdrcValue_readings
    (here : held (path ++ '/' :: Label.subCase .hwdrc ++ "/hp".toList) = some run) :
    (readings outcome held lpScores path).hwdrcValue = worth outcome run := by
  have folder : "03_hwdrc".toList = Label.subCase .hwdrc := rfl
  simp only [Readings.hwdrcValue, readings, folder, here, Option.bind_some, worth]

theorem passed_iff_worth {pare : PerformancePare} {passed : Bool} (verdict : pare.passed = .ok passed)
    (legal : pare.readings.NonNegative) {drc : Job × Machine Node} {limited : Nat → Job × Machine Node}
    (values : ∀ level ∈ levels, pare.readings.value level = worth outcome (limited level))
    (controlled : pare.readings.hwdrcValue = worth outcome drc) :
    passed = true ↔ ∃ best ∈ levels,
      0.9 * worth outcome (limited 10) ≤ worth outcome (limited best) ∧
      (∀ level ∈ levels, best < level → worth outcome (limited level) < 0.9 * worth outcome (limited 10)) ∧
      Within (worth outcome drc) (worth outcome (limited best)) := by
  have iff := passed_iff_largest legal
  rw [verdict, Except.ok.injEq, values 10 (by decide), controlled] at iff
  rw [iff]
  refine exists_congr fun best => and_congr_right fun inside => ?_
  rw [values best inside]
  refine and_congr_right fun _ => and_congr_left fun _ => forall₂_congr fun level member => ?_
  rw [values level member]

end Readings

theorem measured_append {Node : Type} (step : Machine Node → Command → Machine Node) (m : Machine Node)
    (actions later : List (ScriptAction Command Job)) :
    ∃ m', measured step m (actions ++ later) = measured step m actions ++ measured step m' later := by
  induction actions generalizing m with
  | nil => exact ⟨m, rfl⟩
  | cons action rest ih =>
      cases action with
      | command command => exact ih (step m command)
      | call job =>
          obtain ⟨m', same⟩ := ih m
          refine ⟨m', ?_⟩
          rw [List.cons_append, measured, measured, same, List.cons_append]
      | spawn | await | stop => exact ih m

section Campaign

variable {Node : Type} [DecidableEq Node] {home : Nat → Node} (full : Table → Text)

theorem issued_scriptOf (date : Nat → Text) (desc : Text) (ratio : Nat) (ht : Text) {pair : Text × Text}
    (member : pair ∈ pairs) :
    (runScript date (scriptOf desc ratio ht pair).rows).issued =
      (runs (configured (Reporter.splitCores desc ratio ht).1 (Reporter.splitCores desc ratio ht).2 pair.1 pair.2)
        date pair.1 pair.2).flatMap Round.actions := by
  obtain ⟨hpIn, lpIn⟩ := mem_pairs.mp member
  obtain ⟨-, -, hpPlain, hpMore⟩ := names_plain pair.1 (List.mem_append_left _ hpIn)
  obtain ⟨-, -, lpPlain, lpMore⟩ := names_plain pair.2 (List.mem_append_right _ lpIn)
  exact issued_runScript date _ _ hpPlain lpPlain hpMore lpMore

variable {desc : Text} {ratio : Nat} {ht : Text} (reached : ∀ node, node = home 1 ∨ node = home 57)
  (apart : Disjoint (Reporter.coreSet (Reporter.splitCores desc ratio ht).1)
    (Reporter.coreSet (Reporter.splitCores desc ratio ht).2))
  {executions : List Execution} (written : ∀ execution ∈ executions, execution.pair ∈ pairs)

include reached apart written

theorem ran_campaign (m : Machine Node) :
    List.Forall₂
      (fun item => Ran full (Reporter.splitCores desc ratio ht).1 (Reporter.splitCores desc ratio ht).2
        (item.1.date item.2.call) item.1.pair.1 item.1.pair.2 item.2)
      (executions.flatMap fun execution => labels.map (Prod.mk execution))
      (measured (Machine.apply home full) m (campaign desc ratio ht executions)) := by
  obtain ⟨hpPos, lpPos⟩ := splitCores_pos desc ratio ht
  induction executions generalizing m with
  | nil => exact .nil
  | cons execution rest ih =>
      rw [List.forall_mem_cons] at written
      obtain ⟨m', same⟩ := measured_append (Machine.apply home full) m
        (runScript execution.date (scriptOf desc ratio ht execution.pair).rows).issued (campaign desc ratio ht rest)
      have cut : campaign desc ratio ht (execution :: rest) =
          (runScript execution.date (scriptOf desc ratio ht execution.pair).rows).issued ++
            campaign desc ratio ht rest := rfl
      rw [cut, same, List.flatMap_cons]
      apply List.rel_append
      · rw [List.forall₂_map_left_iff, issued_scriptOf execution.date desc ratio ht written.1]
        exact ran_runs full execution.date execution.pair.1 execution.pair.2 reached hpPos lpPos apart m
      · exact ih written.2 m'

variable {m : Machine Node} {held : Text → Option (Job × Machine Node)}
  (holds : Holds (measured (Machine.apply home full) m (campaign desc ratio ht executions)) held)

include holds

theorem exists_held {execution : Execution} (member : execution ∈ executions) {label : Label}
    (inside : label ∈ labels) :
    ∃ run ∈ measured (Machine.apply home full) m (campaign desc ratio ht executions),
      Ran full (Reporter.splitCores desc ratio ht).1 (Reporter.splitCores desc ratio ht).2
        (execution.date label.call) execution.pair.1 execution.pair.2 label run ∧
      held (root (execution.date label.call) execution.pair.1 execution.pair.2 ++ '/' :: label.subCase ++
        "/hp".toList) = some run := by
  have all := ran_campaign full reached apart written m
  generalize measured (Machine.apply home full) m _ = runs at all holds ⊢
  have listed : (execution, label) ∈ executions.flatMap fun execution => labels.map (Prod.mk execution) :=
    List.mem_flatMap.mpr ⟨execution, member, List.mem_map_of_mem inside⟩
  obtain ⟨run, here, ran⟩ := forall₂_exists_right all listed
  rw [← label.text_eq, ← ran.dataFolder]
  obtain ⟨found, same⟩ := Option.isSome_iff_exists.mp (holds.found run here)
  obtain ⟨there, folder⟩ := holds.made _ _ same
  refine ⟨found, there, ?_, same⟩
  -- It may be the run of another execution, but then of the same pair and label on the same day.
  obtain ⟨⟨execution', label'⟩, listed', ran'⟩ := forall₂_exists_left all there
  obtain ⟨_, member', labelled⟩ := List.mem_flatMap.mp listed'
  obtain ⟨_, inside', again⟩ := List.mem_map.mp labelled
  obtain ⟨rfl, rfl⟩ := Prod.mk.inj again
  rw [ran.dataFolder, ran'.dataFolder] at folder
  obtain ⟨today, pair, rfl⟩ := dataFolder_inj (written _ member') (written _ member) inside' inside folder
  dsimp only at ran'
  rwa [today, pair] at ran'

theorem exists_judged {outcome : Job × Machine Node → Option Rat}
    (nonNegative : ∀ run score, outcome run = some score → 0 ≤ score) {lpScores : Text → Option Rat} {today : Text}
    {pair : Text × Text} (early : ∃ execution ∈ executions, execution.pair = pair ∧ execution.date 0 = today)
    (late : ∃ execution ∈ executions, execution.pair = pair ∧ execution.date 1 = today) {pare : PerformancePare}
    (same : pare.readings = readings outcome held lpScores (root today pair.1 pair.2))
    {passed : Bool} (verdict : pare.passed = .ok passed) :
    ∃ drc ∈ measured (Machine.apply home full) m (campaign desc ratio ht executions),
      ∃ limited : Nat → Job × Machine Node,
        (∀ level ∈ levels,
          limited level ∈ measured (Machine.apply home full) m (campaign desc ratio ht executions)) ∧
        Judged outcome full (Reporter.coreSet (Reporter.splitCores desc ratio ht).1)
          (Reporter.coreSet (Reporter.splitCores desc ratio ht).2) pair.1 passed drc limited := by
  obtain ⟨execution, member, rfl, rfl⟩ := late
  obtain ⟨drc, drcIn, drcRan, drcHeld⟩ := exists_held full reached apart written holds member
    (List.mem_append_right _ (by simp) : Label.hwdrc ∈ labels)
  simp only [Label.call] at drcRan drcHeld
  obtain ⟨execution', member', samePair, sameDay⟩ := early
  have : Nonempty (Job × Machine Node) := ⟨drc⟩
  have limitedHeld : ∀ level ∈ levels, _ := fun level inside =>
    exists_held full reached apart written holds member'
      (List.mem_append_left _ (List.mem_map_of_mem inside) : Label.rdt level ∈ labels)
  simp only [Label.call, samePair, sameDay] at limitedHeld
  choose! limited limitedIn limitedRan limitedHeld using limitedHeld
  refine ⟨drc, drcIn, limited, limitedIn, ?_, drcRan.suits, ?_, ?_, ?_⟩
  · rw [drcRan.job, runHp]
  · exact fun level inside => (limitedRan level inside).suits
  · intro level inside
    rw [(limitedRan level inside).job, drcRan.job]
    rfl
  · refine passed_iff_worth verdict (same ▸ readings_nonNegative nonNegative) (fun level inside => ?_) ?_
    · rw [same, value_readings (limitedHeld level inside)]
    · rw [same, hwdrcValue_readings drcHeld]

end Campaign

/-- Two sockets, with core 57 on the second one. -/
def twoSockets (core : Nat) : Bool := decide (57 ≤ core)

/-- Runs that all score the same. -/
def steady (_ : Job × Machine Bool) : Option Rat := some 1

/-- One script on one day, on a machine on which nothing was set up. -/
def oneScript : List Execution := [⟨("specjbb".toList, "rn50".toList), fun _ => "WW46.7".toList⟩]

def oneScriptRuns : List (Job × Machine Bool) :=
  measured (Machine.step twoSockets anyRequest) ⟨fun _ _ => 0, fun _ => 0, fun _ _ => []⟩
    (campaign (Reporter.siblingDesc 0 4 8) 50 "on".toList oneScript)

end KvmWorkload.Womix
