import KvmWorkload.Lib.ShellArith

/-! # Which mechanism a mode runs with

The mode of a co-run is compared inside `(( ))`, where the words of a mode are
variables and its dashes subtract.  What a mode is taken for depends on the
values of these variables.
-/

namespace KvmWorkload.NutanixTestcases

open ShellArith

/-- The script's variables that the co-run uses. -/
structure Globals where
  hpWorkload : Text
  lpWorkload : Text
  hpCoreRange : Text
  lpCoreRange : Text
  hpVmCores : Text
  lpVmCores : Text
  sstEnable : Text

/-- What the co-run calls, in order. -/
inductive Command where
  /-- `run.sh -S setup`, with `-A` when the VMs are not to be pinned. -/
  | setup (noAffinity : Bool) (cores workloads : Text)
  | restartVms
  | sstConfig
  | configResctrlMba
  | configResctrlHwdrc
  | startFrequencyMonitoring (hpFile lpFile : Text)
  | startPqosMonitoring (hpFile : Text)
  | run (files : Text)
  | stopFrequencyMonitoring
  | processSstData (hpFile lpFile : Text)
  | stopPqosMonitoring
  | destroyVms
  | disableResctrl
  deriving DecidableEq

def resctrlMba : Text := "RESCTRL-MBA".toList

def resctrlHwdrc : Text := "RESCTRL-HWDRC".toList

/-- `$mode == "RESCTRL-MBA" || $mode == "RESCTRL-HWDRC"`. -/
def eitherTest (mode : Text) : Text :=
  ' ' :: (mode ++ " == ".toList ++ resctrlMba ++ " || ".toList ++ (mode ++ " == ".toList ++ resctrlHwdrc))

/-- `$mode == "RESCTRL-MBA"`. -/
def mbaTest (mode : Text) : Text := ' ' :: (mode ++ " == ".toList ++ resctrlMba ++ [' '])

/-- `$mode == "RESCTRL-HWDRC"`. -/
def hwdrcTest (mode : Text) : Text := ' ' :: (mode ++ " == ".toList ++ resctrlHwdrc ++ [' '])

section Corun

variable (env : Env) (g : Globals) (mode : Text)

def hpFile : Text :=
  ['_'].intercalate [g.hpWorkload, g.lpWorkload, g.hpCoreRange, g.lpCoreRange, "sst-".toList ++ g.sstEnable, mode]

def lpFile : Text :=
  ['_'].intercalate [g.lpWorkload, g.hpWorkload, g.lpCoreRange, g.hpCoreRange, "sst-".toList ++ g.sstEnable, mode]

/-- The `if` and `elif` that configure resctrl. -/
def configResctrl : List Command :=
  if holds env (mbaTest mode) then [.configResctrlMba]
  else if holds env (hwdrcTest mode) then [.configResctrlHwdrc]
  else []

def hpLpCorun : List Command :=
  [.setup (holds env (eitherTest mode)) (g.hpVmCores ++ ',' :: g.lpVmCores) (g.hpWorkload ++ ',' :: g.lpWorkload),
    .restartVms] ++
  (if arith env g.sstEnable = some 1 then [.sstConfig] else []) ++
  configResctrl env mode ++
  [.startFrequencyMonitoring (hpFile g mode) (lpFile g mode),
    .startPqosMonitoring (hpFile g mode),
    .run (hpFile g mode ++ ',' :: lpFile g mode),
    .stopFrequencyMonitoring,
    .processSstData (hpFile g mode) (lpFile g mode),
    .stopPqosMonitoring,
    .destroyVms]

/-- `hp_lp_corun_resctrl`, which gives up on any other name. -/
def hpLpCorunResctrl (name : Text) : Option (List Command) :=
  if name = "mba".toList then some (hpLpCorun env g resctrlMba ++ [.disableResctrl])
  else if name = "hwdrc".toList then some (hpLpCorun env g resctrlHwdrc ++ [.disableResctrl])
  else none

end Corun

/-- A word of letters and dashes.  Two adjacent dashes are no subtraction but the shell's decrement. -/
structure ModeWord (mode : Text) : Prop where
  nonempty : mode ≠ []
  letters : ∀ c ∈ mode, c.isAlpha = true ∨ c = '-'
  single : SingleDashes mode

/-- The co-run of a mode does what the mode's name says. -/
structure Dispatched (mode : Text) (commands : List Command) : Prop where
  mba : .configResctrlMba ∈ commands ↔ mode = resctrlMba
  hwdrc : .configResctrlHwdrc ∈ commands ↔ mode = resctrlHwdrc
  free : (∃ cores workloads, .setup true cores workloads ∈ commands) ↔ mode = resctrlMba ∨ mode = resctrlHwdrc

/-- The environments in which a mode is taken for what it is. -/
def Distinguished (env : Env) (mode : Text) : Prop :=
  let mba := env.difference "RESCTRL".toList "MBA".toList
  let hwdrc := env.difference "RESCTRL".toList "HWDRC".toList
  if mode = resctrlMba then mba.isSome = true
  else if mode = resctrlHwdrc then mba.isSome = true ∧ hwdrc.isSome = true ∧ mba ≠ hwdrc
  else ∀ n, arith env mode = some n → mba ≠ some n ∧ hwdrc ≠ some n

theorem ModeWord.plain {mode : Text} (word : ModeWord mode) : Plain mode where
  chars c member := by
    refine (word.letters c member).imp (fun letter => ?_) id
    rw [isWordChar, Char.isAlphanum, letter]
    rfl
  single := word.single

theorem isName_of_all {x : Text} (nonempty : x ≠ []) (wordChars : x.all isWordChar = true)
    (letter : x.head?.any Char.isDigit = false) : IsName x :=
  ⟨nonempty, List.all_eq_true.mp wordChars, letter⟩

theorem isName_resctrl : IsName "RESCTRL".toList := isName_of_all (by decide) (by decide) (by decide)

theorem isName_mba : IsName "MBA".toList := isName_of_all (by decide) (by decide) (by decide)

theorem isName_hwdrc : IsName "HWDRC".toList := isName_of_all (by decide) (by decide) (by decide)

theorem modeWord_of_names {x y : Text} (name : IsName x) (name' : IsName y)
    (letters : (x ++ '-' :: y).all (fun c => c.isAlpha || c == '-') = true) : ModeWord (x ++ '-' :: y) where
  nonempty := by simp
  letters c member := by simpa using List.all_eq_true.mp letters c member
  single := (name.plain name').single

theorem modeWord_resctrlMba : ModeWord resctrlMba := modeWord_of_names isName_resctrl isName_mba (by decide)

theorem modeWord_resctrlHwdrc : ModeWord resctrlHwdrc := modeWord_of_names isName_resctrl isName_hwdrc (by decide)

theorem arith_resctrlMba (env : Env) : arith env resctrlMba = env.difference "RESCTRL".toList "MBA".toList :=
  arith_difference isName_resctrl isName_mba env

theorem arith_resctrlHwdrc (env : Env) :
    arith env resctrlHwdrc = env.difference "RESCTRL".toList "HWDRC".toList :=
  arith_difference isName_resctrl isName_hwdrc env

section Tests

variable {env : Env} {mode : Text}

theorem holds_blank (text : Text) : holds env (' ' :: text) = holds env text := by
  rw [holds, holds, arith, arith, tokens_blank]

theorem any_ofBool {p : Prop} [Decidable p] : (some (ofBool p)).any (· ≠ 0) = true ↔ p := by
  rw [Option.any_some, decide_eq_true_iff, ofBool_ne_zero, decide_eq_true_iff]

theorem holds_equation {other : Text} (plain : Plain mode) (plain' : Plain other) :
    holds env (' ' :: (mode ++ " == ".toList ++ other ++ [' '])) = true ↔
      ∃ n, arith env mode = some n ∧ arith env other = some n := by
  rw [holds_blank, holds, arith_equation plain plain']
  cases arith env mode with
  | none => simp
  | some m =>
      cases arith env other with
      | none => simp
      | some n =>
          rw [Option.bind_some, Option.map_some, any_ofBool]
          exact ⟨fun same => ⟨m, rfl, congrArg some same.symm⟩, fun ⟨_, left, right⟩ =>
            Option.some.inj (left.trans right.symm)⟩

theorem mbaTest_iff (word : ModeWord mode) :
    holds env (mbaTest mode) = true ↔ ∃ n, arith env mode = some n ∧ arith env resctrlMba = some n :=
  holds_equation word.plain modeWord_resctrlMba.plain

theorem hwdrcTest_iff (word : ModeWord mode) :
    holds env (hwdrcTest mode) = true ↔ ∃ n, arith env mode = some n ∧ arith env resctrlHwdrc = some n :=
  holds_equation word.plain modeWord_resctrlHwdrc.plain

theorem eitherTest_iff (word : ModeWord mode) :
    holds env (eitherTest mode) = true ↔
      ∃ n, arith env mode = some n ∧ ∃ m, arith env resctrlMba = some m ∧
        (n = m ∨ arith env resctrlHwdrc = some n) := by
  rw [eitherTest, holds_blank, holds,
    arith_or_equations word.plain modeWord_resctrlMba.plain modeWord_resctrlHwdrc.plain (by decide)]
  cases arith env mode with
  | none => simp
  | some n =>
      cases arith env resctrlMba with
      | none => simp
      | some m =>
          by_cases same : n = m
          · simp [same]
          · cases arith env resctrlHwdrc with
            | none => simp [same]
            | some k =>
                rw [Option.bind_some, Option.bind_some, if_neg same, Option.map_some, any_ofBool]
                constructor
                · rintro rfl
                  exact ⟨n, rfl, m, rfl, .inr rfl⟩
                · rintro ⟨_, ⟨⟩, _, ⟨⟩, first | second⟩
                  · exact absurd first same
                  · exact (Option.some.inj second).symm

end Tests

section Commands

variable {env : Env} {g : Globals} {mode : Text}

theorem configResctrlMba_mem : .configResctrlMba ∈ hpLpCorun env g mode ↔ holds env (mbaTest mode) = true := by
  rw [hpLpCorun, configResctrl]
  split <;> split <;> simp_all

theorem configResctrlHwdrc_mem :
    .configResctrlHwdrc ∈ hpLpCorun env g mode ↔
      ¬ holds env (mbaTest mode) = true ∧ holds env (hwdrcTest mode) = true := by
  rw [hpLpCorun, configResctrl]
  split <;> split <;> simp_all

theorem setup_mem :
    (∃ cores workloads, .setup true cores workloads ∈ hpLpCorun env g mode) ↔ holds env (eitherTest mode) = true := by
  rw [hpLpCorun, configResctrl]
  split <;> split <;> simp_all

theorem dispatched_iff_tests (word : ModeWord mode) :
    Dispatched mode (hpLpCorun env g mode) ↔
      ((∃ n, arith env mode = some n ∧ arith env resctrlMba = some n) ↔ mode = resctrlMba) ∧
      ((¬ (∃ n, arith env mode = some n ∧ arith env resctrlMba = some n) ∧
          ∃ n, arith env mode = some n ∧ arith env resctrlHwdrc = some n) ↔ mode = resctrlHwdrc) ∧
      ((∃ n, arith env mode = some n ∧ ∃ m, arith env resctrlMba = some m ∧
          (n = m ∨ arith env resctrlHwdrc = some n)) ↔ mode = resctrlMba ∨ mode = resctrlHwdrc) := by
  rw [← mbaTest_iff word, ← hwdrcTest_iff word, ← eitherTest_iff word]
  constructor
  · intro right
    exact ⟨configResctrlMba_mem.symm.trans right.mba, configResctrlHwdrc_mem.symm.trans right.hwdrc,
      setup_mem.symm.trans right.free⟩
  · rintro ⟨mba, hwdrc, free⟩
    exact ⟨configResctrlMba_mem.trans mba, configResctrlHwdrc_mem.trans hwdrc, setup_mem.trans free⟩

theorem dispatched_mba : Dispatched resctrlMba (hpLpCorun env g resctrlMba) ↔ (arith env resctrlMba).isSome = true := by
  rw [dispatched_iff_tests modeWord_resctrlMba, Option.isSome_iff_exists]
  constructor
  · rintro ⟨mba, -, -⟩
    obtain ⟨n, value, -⟩ := mba.mpr rfl
    exact ⟨n, value⟩
  · rintro ⟨n, value⟩
    have self : ∃ n, arith env resctrlMba = some n ∧ arith env resctrlMba = some n := ⟨n, value, value⟩
    refine ⟨iff_of_true self rfl, iff_of_false (fun both => both.1 self) (by decide), ?_⟩
    exact iff_of_true ⟨n, value, n, value, .inl rfl⟩ (.inl rfl)

theorem dispatched_hwdrc :
    Dispatched resctrlHwdrc (hpLpCorun env g resctrlHwdrc) ↔
      (arith env resctrlMba).isSome = true ∧ (arith env resctrlHwdrc).isSome = true ∧
        arith env resctrlMba ≠ arith env resctrlHwdrc := by
  rw [dispatched_iff_tests modeWord_resctrlHwdrc, Option.isSome_iff_exists, Option.isSome_iff_exists]
  constructor
  · rintro ⟨mba, -, free⟩
    obtain ⟨n, hwdrc, m, value, -⟩ := free.mpr (.inr rfl)
    refine ⟨⟨m, value⟩, ⟨n, hwdrc⟩, fun same => ?_⟩
    exact absurd (mba.mp ⟨n, hwdrc, same.trans hwdrc⟩) (by decide)
  · rintro ⟨⟨m, mba⟩, ⟨n, hwdrc⟩, differ⟩
    have other : ¬ ∃ n, arith env resctrlHwdrc = some n ∧ arith env resctrlMba = some n := by
      rintro ⟨k, left, right⟩
      exact differ (right.trans left.symm)
    refine ⟨iff_of_false other (by decide), iff_of_true ⟨other, n, hwdrc, hwdrc⟩ rfl, ?_⟩
    exact iff_of_true ⟨n, hwdrc, m, mba, .inr hwdrc⟩ (.inr rfl)

theorem dispatched_other (word : ModeWord mode) (notMba : mode ≠ resctrlMba) (notHwdrc : mode ≠ resctrlHwdrc) :
    Dispatched mode (hpLpCorun env g mode) ↔
      ∀ n, arith env mode = some n → arith env resctrlMba ≠ some n ∧ arith env resctrlHwdrc ≠ some n := by
  rw [dispatched_iff_tests word]
  constructor
  · rintro ⟨mba, hwdrc, -⟩ n value
    have noMba : arith env resctrlMba ≠ some n := fun same => notMba (mba.mp ⟨n, value, same⟩)
    refine ⟨noMba, fun same => notHwdrc (hwdrc.mp ⟨?_, n, value, same⟩)⟩
    exact fun both => notMba (mba.mp both)
  · intro apart
    refine ⟨iff_of_false ?_ notMba, iff_of_false ?_ notHwdrc, iff_of_false ?_ (not_or.mpr ⟨notMba, notHwdrc⟩)⟩
    · rintro ⟨n, value, same⟩
      exact (apart n value).1 same
    · rintro ⟨-, n, value, same⟩
      exact (apart n value).2 same
    · rintro ⟨n, value, m, mba, rfl | same⟩
      · exact (apart n value).1 mba
      · exact (apart n value).2 same

/-- When a mode is dispatched as its name says. -/
theorem dispatched_iff (word : ModeWord mode) (env : Env) (g : Globals) :
    Dispatched mode (hpLpCorun env g mode) ↔ Distinguished env mode := by
  rw [Distinguished, ← arith_resctrlMba, ← arith_resctrlHwdrc]
  by_cases mba : mode = resctrlMba
  · rw [if_pos mba, mba, dispatched_mba]
  · rw [if_neg mba]
    by_cases hwdrc : mode = resctrlHwdrc
    · rw [if_pos hwdrc, hwdrc, dispatched_hwdrc]
    · rw [if_neg hwdrc, dispatched_other word mba hwdrc]

end Commands

def sampleGlobals : Globals where
  hpWorkload := "redis-hp".toList
  lpWorkload := "mlc-lp".toList
  hpCoreRange := "17-32".toList
  lpCoreRange := "1-16".toList
  hpVmCores := "16".toList
  lpVmCores := "16".toList
  sstEnable := "0".toList

/-- An environment in which the parts of the two names have different values. -/
def numbered : Env := fun x =>
  if x = "MBA".toList then some (.number 1) else if x = "HWDRC".toList then some (.number 2) else none

theorem dispatched_numbered : Dispatched resctrlHwdrc (hpLpCorun numbered sampleGlobals resctrlHwdrc) := by
  have distinguished : Distinguished numbered resctrlHwdrc := by
    rw [Distinguished, if_neg (by decide), if_pos rfl]
    exact ⟨rfl, rfl, by decide⟩
  exact (dispatched_iff modeWord_resctrlHwdrc numbered sampleGlobals).mpr distinguished

/-- Where no variable is set every word is 0, and RESCTRL-HWDRC is run with MBA. -/
theorem hwdrc_configures_mba :
    ModeWord resctrlHwdrc ∧
      hpLpCorunResctrl (fun _ => none) sampleGlobals "hwdrc".toList =
        some (hpLpCorun (fun _ => none) sampleGlobals resctrlHwdrc ++ [.disableResctrl]) ∧
      .configResctrlMba ∈ hpLpCorun (fun _ => none) sampleGlobals resctrlHwdrc ∧
      ¬ Dispatched resctrlHwdrc (hpLpCorun (fun _ => none) sampleGlobals resctrlHwdrc) := by
  have mba : .configResctrlMba ∈ hpLpCorun (fun _ => none) sampleGlobals resctrlHwdrc := by
    rw [configResctrlMba_mem, mbaTest_iff modeWord_resctrlHwdrc, arith_resctrlMba, arith_resctrlHwdrc]
    exact ⟨0, rfl, rfl⟩
  refine ⟨modeWord_resctrlHwdrc, ?_, mba, fun right => absurd (right.mba.mp mba) (by decide)⟩
  rw [hpLpCorunResctrl, if_neg (by decide), if_pos rfl]

end KvmWorkload.NutanixTestcases
