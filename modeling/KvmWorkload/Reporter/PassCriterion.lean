import KvmWorkload.Lib.Exec
import KvmWorkload.Lib.Lists
import KvmWorkload.Lib.Fields
import Mathlib.Tactic.Linarith
import Mathlib.Tactic.NormNum

/-! # The pass criterion

`list_results` of hwdrc_pass_criterion.py compares the high-priority score under
HWDRC with the score at the best MBA level.  A score that cannot be read is the
number 0, and as such it takes part in the search for the best level and in the
comparison.
-/

namespace KvmWorkload.Reporter.PassCriterion

/-- What stops the script. -/
inductive PyError where
  | valueError
  | attributeError
  deriving DecidableEq

/-- `VARATION`. -/
def varation : Rat × Rat := (0.95, 1.05)

/-- `SLO`. -/
def slo : Rat := 0.9

structure Score where
  hp : Rat
  lp : Rat
  tag : Text

/-- `Score.__eq__`. -/
def Score.eq (self other : Score) : Bool :=
  decide (self.hp * varation.2 ≥ other.hp * varation.1) && decide (other.hp * varation.2 ≥ self.hp * varation.1)

/-- The comparison asks its right side for a score. -/
def Score.eqOptional (self : Score) : Option Score → Except PyError Bool
  | none => .error .attributeError
  | some other => .ok (self.eq other)

/-- What the workloads' readers find in the `hp` and `lp` folders of a sub-case; `none` when a
    reader raises, or when there is none for the workload. -/
structure Readings where
  hp : Text → Option Rat
  lp : Text → Option Rat

/-- `PerformancePare`: the two workloads that the folder's name gives. -/
structure PerformancePare where
  hp : Text
  lp : Text
  readings : Readings

/-- `PerformancePare.__init__`, where the name must have two parts. -/
def performancePare (basename : Text) (readings : Readings) : Except PyError PerformancePare :=
  match basename.splitOn '-' with
  | [hp, lp] => .ok { hp, lp, readings }
  | _ => .error .valueError

namespace PerformancePare

variable (pare : PerformancePare)

/-- `PerformancePare.__str__`. -/
def str : Text := pare.hp ++ " + ".toList ++ pare.lp

/-- `PerformancePare.scores`, with 0 for what cannot be read. -/
def scores (subCase : Text) : Score where
  hp := (pare.readings.hp subCase).getD 0
  lp := (pare.readings.lp subCase).getD 0
  tag := pare.str ++ " @".toList ++ subCase

def base : Score := pare.scores "00_non".toList

def hwdrc : Score := pare.scores "03_hwdrc".toList

end PerformancePare

/-- The folder of an MBA level. -/
def mbaFolder (mba : Nat) : Text := "01_rdt_MBA".toList ++ decimal mba

/-- `range(10, 100, 10)`. -/
def levels : List Nat := List.range' 10 9 10

namespace PerformancePare

variable (pare : PerformancePare)

def mbaScores (mba : Nat) : Score := pare.scores (mbaFolder mba)

/-- `MAX_MBA`. -/
def maxMba : Score := pare.mbaScores 10

/-- `mba.hp >= self.MAX_MBA.hp * SLO`. -/
def goodEnough (mba : Score) : Bool := decide (mba.hp ≥ pare.maxMba.hp * slo)

/-- `OPT_MBA`: `best` is replaced when it is `None` or the level is good enough. -/
def optMba : Option Score := (levels.map pare.mbaScores).foldl (keepLast pare.goodEnough) none

/-- `wl_pare.HWDRC == wl_pare.OPT_MBA`. -/
def passed : Except PyError Bool := pare.hwdrc.eqOptional pare.optMba

end PerformancePare

/-- What `list_results` prints of one pair. -/
structure Report where
  pare : Text
  passed : Bool
  scores : List Score

/-- The body of the loop in `list_results`. -/
def reportOf (folder : Text × Readings) : Except PyError Report := do
  let wlPare ← performancePare folder.1 folder.2
  let passed ← wlPare.passed
  return { pare := wlPare.str
           passed
           scores := wlPare.base :: wlPare.hwdrc :: levels.map wlPare.mbaScores }

/-- `list_results` on the folders that `os.listdir` gives. -/
def listResults (folders : List (Text × Readings)) : Except PyError (List Report) := folders.mapM reportOf

/-- The verdict's tolerance on two scores. -/
def Within (a b : Rat) : Prop := 0.95 * b ≤ 1.05 * a ∧ 0.95 * a ≤ 1.05 * b

theorem Score.eq_iff (self other : Score) : self.eq other = true ↔ Within self.hp other.hp := by
  simp only [Score.eq, Bool.and_eq_true, decide_eq_true_eq, ge_iff_le, Within, varation, mul_comm]

/-- The number that an MBA level takes part with. -/
def Readings.value (readings : Readings) (level : Nat) : Rat := (readings.hp (mbaFolder level)).getD 0

/-- The number that HWDRC takes part with. -/
def Readings.hwdrcValue (readings : Readings) : Rat := (readings.hp "03_hwdrc".toList).getD 0

theorem Readings.value_of_some {readings : Readings} {level : Nat} {score : Rat}
    (read : readings.hp (mbaFolder level) = some score) : readings.value level = score := by
  rw [Readings.value, read, Option.getD_some]

theorem Readings.value_of_none {readings : Readings} {level : Nat} (unread : readings.hp (mbaFolder level) = none) :
    readings.value level = 0 := by
  rw [Readings.value, unread, Option.getD_none]

theorem Readings.hwdrcValue_of_some {readings : Readings} {score : Rat}
    (read : readings.hp "03_hwdrc".toList = some score) : readings.hwdrcValue = score := by
  rw [Readings.hwdrcValue, read, Option.getD_some]

theorem Readings.hwdrcValue_of_none {readings : Readings} (unread : readings.hp "03_hwdrc".toList = none) :
    readings.hwdrcValue = 0 := by
  rw [Readings.hwdrcValue, unread, Option.getD_none]

/-- No score is negative. -/
def Readings.NonNegative (readings : Readings) : Prop :=
  ∀ subCase score, readings.hp subCase = some score → 0 ≤ score

variable {readings : Readings}

theorem Readings.NonNegative.value (nonNegative : readings.NonNegative) (level : Nat) :
    0 ≤ readings.value level := by
  cases read : readings.hp (mbaFolder level) with
  | none => rw [Readings.value_of_none read]
  | some score =>
      rw [Readings.value_of_some read]
      exact nonNegative _ score read

theorem Readings.NonNegative.hwdrcValue (nonNegative : readings.NonNegative) :
    0 ≤ readings.hwdrcValue := by
  cases read : readings.hp "03_hwdrc".toList with
  | none => rw [Readings.hwdrcValue_of_none read]
  | some score =>
      rw [Readings.hwdrcValue_of_some read]
      exact nonNegative _ score read

theorem hwdrc_hp (pare : PerformancePare) : pare.hwdrc.hp = pare.readings.hwdrcValue := rfl

theorem mbaScores_hp (pare : PerformancePare) (level : Nat) :
    (pare.mbaScores level).hp = pare.readings.value level := rfl

theorem levels_sorted : levels.Pairwise (· < ·) := by decide

theorem le_ninety : ∀ level ∈ levels, level ≤ 90 := by decide

/-- The level whose score the search ends with is the largest one that is good enough. -/
theorem optMba_eq (pare : PerformancePare) (nonNegative : pare.readings.NonNegative) :
    ∃ best ∈ levels, pare.optMba = some (pare.mbaScores best) ∧
      0.9 * pare.readings.value 10 ≤ pare.readings.value best ∧
      ∀ level ∈ levels, best < level → pare.readings.value level < 0.9 * pare.readings.value 10 := by
  have enough : ∀ level, pare.goodEnough (pare.mbaScores level) = true ↔
      0.9 * pare.readings.value 10 ≤ pare.readings.value level := by
    intro level
    rw [PerformancePare.goodEnough, decide_eq_true_eq, ge_iff_le, mul_comm, slo,
      PerformancePare.maxMba, mbaScores_hp, mbaScores_hp]
  have first : pare.goodEnough (pare.mbaScores 10) = true := by
    have positive := nonNegative.value 10
    rw [enough]
    linarith
  obtain ⟨best, member, held, good, others⟩ := foldl_keepLast_of_sorted first levels_sorted
  refine ⟨best, member, held, (enough best).mp good, ?_⟩
  intro later inside above
  rw [← not_le, ← enough, others later inside above]
  decide

/-- The score at the largest MBA level whose score can be read and is at least 0.9 times `m`. -/
def Best (readings : Readings) (m b : Rat) : Prop :=
  ∃ level ∈ levels, readings.hp (mbaFolder level) = some b ∧ 0.9 * m ≤ b ∧
    ∀ later ∈ levels, level < later → ∀ score, readings.hp (mbaFolder later) = some score → score < 0.9 * m

/-- The pair passes: HWDRC and the reference can be read, and HWDRC is within the tolerance of the
    best level. -/
def Passes (readings : Readings) : Prop :=
  ∃ h m b, readings.hp "03_hwdrc".toList = some h ∧ readings.hp (mbaFolder 10) = some m ∧
    Best readings m b ∧ Within h b

theorem Best.unique {m b b' : Rat} (best : Best readings m b) (best' : Best readings m b') : b = b' := by
  obtain ⟨level, member, read, good, largest⟩ := best
  obtain ⟨level', member', read', good', largest'⟩ := best'
  rcases lt_trichotomy level level' with below | rfl | above
  · exact absurd (largest level' member' below b' read') (not_lt.mpr good')
  · exact Option.some.inj (read.symm.trans read')
  · exact absurd (largest' level member above b read) (not_lt.mpr good)

theorem within_zero_left {b : Rat} (positive : 0 ≤ b) : Within 0 b ↔ b = 0 := by
  constructor
  · intro within
    have upper := within.1
    linarith
  · rintro rfl
    norm_num [Within]

theorem within_zero_right {a : Rat} (positive : 0 ≤ a) : Within a 0 ↔ a = 0 := by
  constructor
  · intro within
    have upper := within.2
    linarith
  · rintro rfl
    norm_num [Within]

theorem passed_iff_within {pare : PerformancePare} {best : Nat}
    (held : pare.optMba = some (pare.mbaScores best)) :
    pare.passed = .ok true ↔ Within pare.readings.hwdrcValue (pare.readings.value best) := by
  rw [PerformancePare.passed, held, Score.eqOptional, Except.ok.injEq, Score.eq_iff, hwdrc_hp,
    mbaScores_hp]

theorem passed_iff_largest {pare : PerformancePare} (nonNegative : pare.readings.NonNegative) :
    pare.passed = .ok true ↔ ∃ best ∈ levels, 0.9 * pare.readings.value 10 ≤ pare.readings.value best ∧
      (∀ level ∈ levels, best < level → pare.readings.value level < 0.9 * pare.readings.value 10) ∧
      Within pare.readings.hwdrcValue (pare.readings.value best) := by
  obtain ⟨best, member, held, good, largest⟩ := optMba_eq pare nonNegative
  rw [passed_iff_within held]
  constructor
  · exact fun within => ⟨best, member, good, largest, within⟩
  · rintro ⟨best', member', good', largest', within⟩
    rcases lt_trichotomy best best' with below | rfl | above
    · exact absurd good' (not_le.mpr (largest best' member' below))
    · exact within
    · exact absurd good (not_le.mpr (largest' best member above))

theorem passed_of_positive {pare : PerformancePare} (nonNegative : pare.readings.NonNegative) {m : Rat}
    (reference : pare.readings.hp (mbaFolder 10) = some m) (positive : 0 < m) :
    ∃ b, 0 < b ∧ Best pare.readings m b ∧ (pare.passed = .ok true ↔ Within pare.readings.hwdrcValue b) := by
  obtain ⟨best, member, held, good, largest⟩ := optMba_eq pare nonNegative
  rw [Readings.value_of_some reference] at good largest
  have above : 0 < pare.readings.value best := by linarith
  refine ⟨pare.readings.value best, above, ⟨best, member, ?_, good, ?_⟩, passed_iff_within held⟩
  · cases read : pare.readings.hp (mbaFolder best) with
    | none =>
        rw [Readings.value_of_none read] at above
        exact absurd above (lt_irrefl 0)
    | some b => rw [Readings.value_of_some read]
  · intro later inside larger score read
    have small := largest later inside larger
    rwa [Readings.value_of_some read] at small

/-- With the reference 0 every level is good enough, read or not, and the last one is taken. -/
theorem passed_of_zero {pare : PerformancePare} (nonNegative : pare.readings.NonNegative)
    (zero : pare.readings.value 10 = 0) :
    pare.passed = .ok true ↔ Within pare.readings.hwdrcValue (pare.readings.value 90) := by
  obtain ⟨best, member, held, -, largest⟩ := optMba_eq pare nonNegative
  obtain rfl : best = 90 := by
    rcases (le_ninety best member).lt_or_eq with below | last
    · have small := largest 90 (by decide) below
      have positive := nonNegative.value 90
      rw [zero] at small
      linarith
    · exact last
  exact passed_iff_within held

theorem exists_best (nonNegative : readings.NonNegative) {m : Rat}
    (reference : readings.hp (mbaFolder 10) = some m) : ∃ b, Best readings m b := by
  have positive := nonNegative _ m reference
  let accept (level : Nat) : Bool := (readings.hp (mbaFolder level)).any fun score => decide (0.9 * m ≤ score)
  have first : accept 10 = true := by
    simp only [accept, reference, Option.any_some, decide_eq_true_eq]
    linarith
  obtain ⟨best, member, -, good, others⟩ := foldl_keepLast_of_sorted (f := id) first levels_sorted
  obtain ⟨b, read, enough⟩ : ∃ b, readings.hp (mbaFolder best) = some b ∧ 0.9 * m ≤ b := by
    simpa [accept, Option.any_eq_true] using good
  refine ⟨b, best, member, read, enough, ?_⟩
  intro later inside larger score found
  have rejected := others later inside larger
  simpa [accept, found] using rejected

/-- Where the verdict that is printed agrees with the one that is meant.  Only a positive reference
    score keeps the zeros of unreadable results out of the search. -/
def RightlyJudged (readings : Readings) : Prop :=
  match readings.hp (mbaFolder 10), readings.hp "03_hwdrc".toList with
  | none, _ => ¬ Within readings.hwdrcValue (readings.value 90)
  | some m, none => 0 < m ∨ 0 < readings.value 90
  | some m, some h => 0 < m ∨ (readings.hp (mbaFolder 90)).isSome = true ∨
      ∀ b, Best readings m b → (h = 0 ↔ Within h b)

theorem passes_iff {h m : Rat} (hwdrc : readings.hp "03_hwdrc".toList = some h)
    (reference : readings.hp (mbaFolder 10) = some m) {b : Rat} (best : Best readings m b) :
    Passes readings ↔ Within h b := by
  constructor
  · rintro ⟨h', m', b', read, read', best', within⟩
    rw [hwdrc] at read
    rw [reference] at read'
    cases read
    cases read'
    rwa [best.unique best']
  · exact fun within => ⟨h, m, b, hwdrc, reference, best, within⟩

theorem not_passes_of_hwdrc (hwdrc : readings.hp "03_hwdrc".toList = none) : ¬ Passes readings := by
  rintro ⟨h, m, b, read, -⟩
  rw [hwdrc] at read
  cases read

theorem not_passes_of_reference (reference : readings.hp (mbaFolder 10) = none) : ¬ Passes readings := by
  rintro ⟨h, m, b, -, read, -⟩
  rw [reference] at read
  cases read

theorem best_ninety (nonNegative : readings.NonNegative) {b : Rat}
    (read : readings.hp (mbaFolder 90) = some b) : Best readings 0 b := by
  refine ⟨90, by decide, read, by simpa using nonNegative _ b read, ?_⟩
  intro later member larger
  exact absurd larger (not_lt.mpr (le_ninety later member))

section Verdicts

variable {pare : PerformancePare} (nonNegative : pare.readings.NonNegative)

include nonNegative

theorem passed_iff_passes_of_positive {m : Rat} (reference : pare.readings.hp (mbaFolder 10) = some m)
    (positive : 0 < m) : pare.passed = .ok true ↔ Passes pare.readings := by
  obtain ⟨b, above, best, verdict⟩ := passed_of_positive nonNegative reference positive
  rw [verdict]
  cases hwdrc : pare.readings.hp "03_hwdrc".toList with
  | none =>
      rw [Readings.hwdrcValue_of_none hwdrc, within_zero_left above.le]
      exact iff_of_false above.ne' (not_passes_of_hwdrc hwdrc)
  | some h => rw [Readings.hwdrcValue_of_some hwdrc, passes_iff hwdrc reference best]

theorem passed_iff_passes_of_zero {h : Rat} (reference : pare.readings.hp (mbaFolder 10) = some 0)
    (hwdrc : pare.readings.hp "03_hwdrc".toList = some h) :
    (pare.passed = .ok true ↔ Passes pare.readings) ↔
      (pare.readings.hp (mbaFolder 90)).isSome = true ∨ ∀ b, Best pare.readings 0 b → (h = 0 ↔ Within h b) := by
  obtain ⟨b, best⟩ := exists_best nonNegative reference
  rw [passed_of_zero nonNegative (Readings.value_of_some reference), Readings.hwdrcValue_of_some hwdrc,
    passes_iff hwdrc reference best]
  cases last : pare.readings.hp (mbaFolder 90) with
  | some b' =>
      have same := best.unique (best_ninety nonNegative last)
      rw [Readings.value_of_some last, same]
      exact iff_of_true Iff.rfl (.inl rfl)
  | none =>
      rw [Readings.value_of_none last, within_zero_right (nonNegative _ h hwdrc)]
      simp only [Option.isSome_none, Bool.false_eq_true, false_or]
      constructor
      · intro agree b' best'
        rwa [← best.unique best']
      · exact fun agree => agree b best

theorem passed_iff_passes_iff : (pare.passed = .ok true ↔ Passes pare.readings) ↔ RightlyJudged pare.readings := by
  rw [RightlyJudged]
  cases reference : pare.readings.hp (mbaFolder 10) with
  | none =>
      rw [passed_of_zero nonNegative (Readings.value_of_none reference),
        iff_false_right (not_passes_of_reference reference)]
  | some m =>
      rcases (nonNegative _ m reference).lt_or_eq with positive | zero
      · have right := passed_iff_passes_of_positive nonNegative reference positive
        cases pare.readings.hp "03_hwdrc".toList with
        | none => exact iff_of_true right (.inl positive)
        | some h => exact iff_of_true right (.inl positive)
      · subst zero
        cases hwdrc : pare.readings.hp "03_hwdrc".toList with
        | none =>
            rw [passed_of_zero nonNegative (Readings.value_of_some reference), Readings.hwdrcValue_of_none hwdrc,
              within_zero_left (nonNegative.value 90), iff_false_right (not_passes_of_hwdrc hwdrc)]
            simp only [lt_irrefl, false_or, lt_iff_le_and_ne, nonNegative.value 90, true_and, ne_comm]
        | some h =>
            rw [passed_iff_passes_of_zero nonNegative reference hwdrc]
            simp only [lt_irrefl, false_or]

end Verdicts

/-- A folder of results: its name gives two workloads, and no score in it is negative. -/
structure Folder (folder : Text × Readings) : Prop where
  named : (folder.1.splitOn '-').length = 2
  nonNegative : folder.2.NonNegative

theorem exists_report {folder : Text × Readings} (usable : Folder folder) :
    ∃ report, reportOf folder = .ok report ∧
      ∃ pare : PerformancePare, pare.readings = folder.2 ∧ pare.passed = .ok report.passed := by
  obtain ⟨hp, lp, parts⟩ := List.length_eq_two.mp usable.named
  let pare : PerformancePare := { hp, lp, readings := folder.2 }
  have made : performancePare folder.1 folder.2 = .ok pare := by rw [performancePare, parts]
  obtain ⟨best, -, held, -⟩ := optMba_eq pare usable.nonNegative
  have verdict : pare.passed = .ok (pare.hwdrc.eq (pare.mbaScores best)) := by
    rw [PerformancePare.passed, held, Score.eqOptional]
  let report : Report :=
    { pare := pare.str
      passed := pare.hwdrc.eq (pare.mbaScores best)
      scores := pare.base :: pare.hwdrc :: levels.map pare.mbaScores }
  refine ⟨report, ?_, pare, rfl, verdict⟩
  rw [reportOf, made, except_bind_ok]
  refine ⟨pare, rfl, ?_⟩
  rw [verdict, except_bind_ok]
  exact ⟨_, rfl, rfl⟩

theorem listResults_reports {folders : List (Text × Readings)} (usable : ∀ folder ∈ folders, Folder folder) :
    ∃ reports, listResults folders = .ok reports ∧
      List.Forall₂ (fun folder report => ∃ pare : PerformancePare, pare.readings = folder.2 ∧
        pare.passed = .ok report.passed) folders reports := by
  simp only [listResults, except_mapM_ok]
  induction folders with
  | nil => exact ⟨[], .nil, .nil⟩
  | cons folder folders ih =>
      obtain ⟨reports, listed, verdicts⟩ := ih fun folder member => usable folder (List.mem_cons_of_mem _ member)
      obtain ⟨report, here, verdict⟩ := exists_report (usable folder List.mem_cons_self)
      exact ⟨report :: reports, .cons here listed, .cons verdict verdicts⟩

/-- For which pairs `list_results` prints `True` exactly when the pair passes. -/
theorem listResults_passed_iff {folders : List (Text × Readings)} (usable : ∀ folder ∈ folders, Folder folder)
    {i : Nat} {folder : Text × Readings} (here : folders[i]? = some folder) :
    ((∃ reports report, listResults folders = .ok reports ∧ reports[i]? = some report ∧ report.passed = true) ↔
        Passes folder.2) ↔
      RightlyJudged folder.2 := by
  obtain ⟨reports, listed, verdicts⟩ := listResults_reports usable
  obtain ⟨report, there, pare, same, verdict⟩ := forall₂_getElem? verdicts here
  have nonNegative := (usable folder (List.mem_of_getElem? here)).nonNegative
  rw [← same] at nonNegative ⊢
  rw [← passed_iff_passes_iff nonNegative, verdict, Except.ok.injEq]
  refine iff_congr ?_ Iff.rfl
  constructor
  · rintro ⟨reports', report', listed', there', passed⟩
    cases listed.symm.trans listed'
    cases there.symm.trans there'
    exact passed
  · exact fun passed => ⟨reports, report, listed, there, passed⟩

/-- Results of a run in which HWDRC keeps up with MBA level 30. -/
def measured : Readings where
  hp subCase :=
    if subCase = "03_hwdrc".toList then some 95
    else if subCase = mbaFolder 10 then some 100
    else if subCase = mbaFolder 30 then some 91
    else none
  lp _ := none

theorem measured_nonNegative : measured.NonNegative := by
  intro subCase score read
  simp only [measured] at read
  split_ifs at read <;> cases read <;> norm_num

theorem listResults_passed_measured :
    ((∃ reports report, listResults [("mlc-rn50".toList, measured)] = .ok reports ∧
        reports[0]? = some report ∧ report.passed = true) ↔ Passes measured) ∧
      RightlyJudged measured := by
  have usable : ∀ folder ∈ [("mlc-rn50".toList, measured)], Folder folder := by
    intro folder member
    cases List.mem_singleton.mp member
    exact ⟨by decide, measured_nonNegative⟩
  have judged : RightlyJudged measured := Or.inl (by norm_num)
  exact ⟨(listResults_passed_iff usable (i := 0) rfl).mpr judged, judged⟩

/-- Results of a run of which nothing was written. -/
def unread : Readings where
  hp _ := none
  lp _ := none

/-- Two scores that are missing are 0 both, and the pair is reported as passed. -/
theorem listResults_passed_unread :
    (∃ reports report, listResults [("mlc-rn50".toList, unread)] = .ok reports ∧
        reports[0]? = some report ∧ report.passed = true) ∧
      ¬ Passes unread := by
  have usable : ∀ folder ∈ [("mlc-rn50".toList, unread)], Folder folder := by
    intro folder member
    cases List.mem_singleton.mp member
    exact ⟨by decide, nofun⟩
  refine ⟨?_, not_passes_of_hwdrc rfl⟩
  obtain ⟨reports, listed, verdicts⟩ := listResults_reports usable
  obtain ⟨report, there, pare, same, verdict⟩ := forall₂_getElem? verdicts (i := 0) rfl
  refine ⟨reports, report, listed, there, ?_⟩
  have nonNegative : pare.readings.NonNegative := by
    rw [same]
    exact nofun
  rw [← Except.ok.injEq (ε := PyError), ← verdict, passed_of_zero nonNegative (by rw [same]; rfl), same]
  exact (within_zero_left le_rfl).mpr rfl

end KvmWorkload.Reporter.PassCriterion
