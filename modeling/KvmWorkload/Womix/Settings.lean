import KvmWorkload.Lib.Classes
import KvmWorkload.Womix.Process

/-! # Under which settings the validation cases are measured

The folder of a run says how the machine is meant to be set up while it is
measured.  The settings are those of pqos and of the DRC registers, and they are
followed from any state of the machine through a whole script.
-/

namespace KvmWorkload.Womix

open Mailbox

/-- The tables of pqos that are set. -/
inductive Table where
  | llc
  | mba
  deriving DecidableEq

/-- What pqos and the DRC registers of the sockets hold. -/
structure Machine (Node : Type) where
  drc : Node → Registers
  classes : Classes Table

/-- pqos reads a list of cores as `from_desc` does, but refuses an empty one. -/
def coresOf (cores : Text) : Finset Nat := if cores = [] then ∅ else Reporter.coreSet (Reporter.fromDesc cores)

/-- What a command has pqos do. -/
def Command.classCommand : Command → Option (ClassCommand Table)
  | .pqosReset => some .reset
  | .pqosAssociate cos cores => some (.associate (readDecimal cos) (coresOf cores))
  | .pqosLlc cos mask => some (.allocate .llc (readDecimal cos) mask)
  | .pqosMba cos value => some (.allocate .mba (readDecimal cos) value)
  | .umountResctrl | .drc .. | .hook .. => none

section Machine

variable {Node : Type} [DecidableEq Node] (home : Nat → Node)

/-- A command on a machine whose classes a step of pqos changes. -/
def Machine.stepWith (pqos : Classes Table → ClassCommand Table → Classes Table) (m : Machine Node)
    (command : Command) : Machine Node where
  drc :=
    match command with
    | .drc coreId command => send home m.drc (coreId, command)
    | _ => m.drc
  classes := command.classCommand.elim m.classes (pqos m.classes)

def Machine.step (tool : ClassTool Table) (m : Machine Node) (command : Command) : Machine Node :=
  m.stepWith home tool.step command

/-- A command that pqos accepts, if it is one for pqos. -/
def Machine.apply (full : Table → Text) (m : Machine Node) (command : Command) : Machine Node :=
  m.stepWith home (ClassCommand.apply full) command

/-- The settings made one after the other. -/
def Machine.settle (full : Table → Text) (m : Machine Node) (commands : List Command) : Machine Node :=
  commands.foldl (Machine.apply home full) m

/-- The jobs in the foreground, each with the machine that it starts on. -/
def measured (step : Machine Node → Command → Machine Node) :
    Machine Node → List (ScriptAction Command Job) → List (Job × Machine Node)
  | _, [] => []
  | m, .command command :: rest => measured step (step m command) rest
  | m, .call job :: rest => (job, m) :: measured step m rest
  | m, _ :: rest => measured step m rest

end Machine

/-- pqos accepts what a script asks of it. -/
def Accepted (tool : ClassTool Table) (actions : List (ScriptAction Command Job)) : Prop :=
  ∀ command, .command command ∈ actions → ∀ request, command.classCommand = some request →
    tool.accepts request = true

theorem measured_accepted {Node : Type} [DecidableEq Node] (home : Nat → Node) {tool : ClassTool Table}
    {actions : List (ScriptAction Command Job)} (accepted : Accepted tool actions) (m : Machine Node) :
    measured (Machine.step home tool) m actions = measured (Machine.apply home tool.full) m actions := by
  induction actions generalizing m with
  | nil => rfl
  | cons action rest ih =>
      have later : Accepted tool rest := fun command member => accepted command (List.mem_cons_of_mem _ member)
      cases action with
      | command command =>
          have same : m.step home tool command = m.apply home tool.full command := by
            have granted := accepted command List.mem_cons_self
            unfold Machine.step Machine.apply Machine.stepWith
            cases asked : command.classCommand with
            | none => rfl
            | some request =>
                have effect : tool.step m.classes request = request.apply tool.full m.classes :=
                  if_pos (granted request asked)
                rw [Option.elim_some, Option.elim_some, effect]
          rw [measured, measured, ih later, same]
      | call job => rw [measured, measured, ih later]
      | spawn | await | stop => exact ih later m

inductive Label where
  /-- `01_rdt_MBA$LP_MBA`. -/
  | rdt (lpMba : Nat)
  | non
  | hpOnly
  | hwdrc
  | hpOnlyHwdrc

def Label.text : Label → Text
  | .rdt lpMba => "/01_rdt_MBA".toList ++ decimal lpMba
  | .non => "/00_non".toList
  | .hpOnly => "/05_hponly".toList
  | .hwdrc => "/03_hwdrc".toList
  | .hpOnlyHwdrc => "/04_hponly-hwdrc".toList

/-- The runs of a script. -/
def labels : List Label := lpMbas.map .rdt ++ [.non, .hpOnly, .hwdrc, .hpOnlyHwdrc]

section Suits

variable {Node : Type}

/-- Nothing is controlled. -/
structure Uncontrolled (full : Table → Text) (m : Machine Node) : Prop where
  drcOff : ∀ node, m.drc node .memclosEn = 0x0
  full : ∀ core table, m.classes.of table core = full table

/-- The bandwidth of the low-priority cores is limited. -/
structure Limited (full : Table → Text) (hp lp : Finset Nat) (lpCat lpMba : Text) (m : Machine Node) : Prop where
  drcOff : ∀ node, m.drc node .memclosEn = 0x0
  hp : ∀ core ∈ hp, ∀ table, m.classes.of table core = full table
  lp : ∀ core ∈ lp, m.classes.of .llc core = lpCat ∧ m.classes.of .mba core = lpMba

/-- DRC controls the bandwidth: high-priority cores are in memory class 0 and low-priority ones in 3. -/
structure Controlled (full : Table → Text) (hp lp : Finset Nat) (m : Machine Node) : Prop where
  drcOn : ∀ node, m.drc node = (defaultSettings 0x01800610).value
  hp : ∀ core ∈ hp, ∀ node, memClassOf (m.drc node .closToMemclos) (m.classes.assoc core) = 0
  lp : ∀ core ∈ lp, ∀ node, memClassOf (m.drc node .closToMemclos) (m.classes.assoc core) = 3
  full : ∀ core table, m.classes.of table core = full table

def Label.Suits (full : Table → Text) (hp lp : Finset Nat) (m : Machine Node) : Label → Prop
  | .non | .hpOnly => Uncontrolled full m
  | .rdt lpMba => Limited full hp lp "0x7fff".toList (decimal lpMba) m
  | .hwdrc | .hpOnlyHwdrc => Controlled full hp lp m

end Suits

section Settle

variable {Node : Type} [DecidableEq Node] (home : Nat → Node) (full : Table → Text) (m : Machine Node)

theorem settle_append (commands later : List Command) :
    m.settle home full (commands ++ later) = (m.settle home full commands).settle home full later := List.foldl_append

theorem settle_nil : m.settle home full [] = m := rfl

theorem settle_cons (command : Command) (rest : List Command) :
    m.settle home full (command :: rest) = (m.apply home full command).settle home full rest := rfl

theorem settle_drc (script : DrcScript) :
    m.settle home full (script.map fun call => .drc call.1 call.2) = { m with drc := sendAll home m.drc script } := by
  rw [Machine.settle, List.foldl_map]
  induction script generalizing m with
  | nil => rfl
  | cons call rest ih =>
      rw [List.foldl_cons, ih]
      rfl

theorem settle_initialSettings :
    m.settle home full initialSettings =
      { drc := sendAll home m.drc (eachSocket 57 [.disable])
        classes := ⟨fun _ => 0, fun table _ => full table⟩ } := rfl

variable (hp0 lp0 : Nat) (hp lp : Text)

theorem settle_setRdt (lpMba : Text) :
    m.settle home full (setRdt (Function.update (configured hp0 lp0 hp lp) .lpMba lpMba)) =
      { drc := sendAll home m.drc (eachSocket 57 [.disable])
        classes :=
          { assoc := fun core =>
              if core ∈ coresOf (Reporter.str hp0) then 4 else if core ∈ coresOf (Reporter.str lp0) then 7 else 0
            value
              | .llc => Function.update (fun _ => full .llc) 7 "0x7fff".toList
              | .mba => Function.update (fun _ => full .mba) 7 lpMba } } := by
  rw [setRdt, settle_append, settle_initialSettings]
  refine congrArg (Machine.mk _) (congrArg (Classes.mk _) (funext fun table => ?_))
  cases table <;> rfl

theorem settle_setHwdrc :
    m.settle home full (setHwdrc (configured hp0 lp0 hp lp)) =
      { drc := sendAll home (sendAll home m.drc (eachSocket 57 [.disable]))
          (eachSocket 57 [.settingsUpdate (defaultSettings 0x01800610), .regDump])
        classes :=
          { assoc := fun core =>
              if core ∈ coresOf (Reporter.str lp0) then 7
              else if core ∈ coresOf (Reporter.str hp0) then 4
              else if core ∈ coresOf initHpCores then 4
              else if core ∈ coresOf initLpCores then 7
              else 0
            value := fun table _ => full table } } := by
  rw [setHwdrc, settle_append, settle_append, settle_initialSettings, hwdrcIcx2SXccInitToDefaultPqos, settle_append]
  have four : readDecimal ['4'] = 4 := by decide
  have seven : readDecimal ['7'] = 7 := by decide
  simp only [settle_cons, settle_drc, settle_nil, Machine.apply, Machine.stepWith, Command.classCommand,
    Option.elim_some, ClassCommand.apply, Option.elim_none, configured_hpCos, configured_hpCores, configured_lpCos,
    configured_lpCores, four, seven]

end Settle

/-- A description is never read as the empty set. -/
theorem fromDesc_pos (desc : Text) : 0 < Reporter.fromDesc desc := by
  rw [Reporter.fromDesc]
  generalize desc.foldl Reporter.Scan.step _ = st
  apply Reporter.pos_of_mem_coreSet (i := st.tmp)
  rw [Reporter.Scan.finish, Reporter.coreSet_or, Finset.mem_union]
  right
  cases st.start with
  | none => simp [Reporter.setMask_none, Reporter.coreSet_setMask]
  | some start => simp [Reporter.coreSet_setMask]

theorem splitCores_pos (desc : Text) (ratio : Nat) (ht : Text) :
    0 < (Reporter.splitCores desc ratio ht).1 ∧ 0 < (Reporter.splitCores desc ratio ht).2 := by
  rw [Reporter.splitCores]
  split_ifs
  · exact ⟨fromDesc_pos _, fromDesc_pos _⟩
  · exact ⟨fromDesc_pos _, fromDesc_pos _⟩

/-- The printed set is the one that pqos associates. -/
theorem coresOf_str {mask : Nat} (pos : 0 < mask) : coresOf (Reporter.str mask) = Reporter.coreSet mask := by
  rw [coresOf, if_neg, Reporter.fromDesc_str pos]
  intro empty
  have one : mask = 1 := by rw [← Reporter.fromDesc_str pos, empty, Reporter.fromDesc_nil]
  rw [one] at empty
  exact absurd empty (by decide)

section Measured

variable {Node : Type} [DecidableEq Node] (home : Nat → Node) (full : Table → Text)

theorem measured_commands (m : Machine Node) (commands : List Command) (rest : List (ScriptAction Command Job)) :
    measured (Machine.apply home full) m (commands.map .command ++ rest) =
      measured (Machine.apply home full) (m.settle home full commands) rest := by
  induction commands generalizing m with
  | nil => rfl
  | cons command commands ih => exact ih (m.apply home full command)

theorem measured_run (m : Machine Node) (env : Env) (settings : List Command) (hp lp path : Text)
    (rest : List (ScriptAction Command Job)) :
    measured (Machine.apply home full) m ((measuredRun env settings hp lp path).actions ++ rest) =
      (runHp env hp path, m.settle home full settings) ::
        measured (Machine.apply home full) (m.settle home full settings) rest := by
  rw [Round.actions, measuredRun, List.append_assoc, measured_commands, settle_append]
  cases decide (env .keepLpRunning = ['1']) <;> rfl

end Measured

section Suited

variable {Node : Type} [DecidableEq Node] {home : Nat → Node} (reached : ∀ node, node = home 1 ∨ node = home 57)
  (full : Table → Text) {hp0 lp0 : Nat} (m : Machine Node)

include reached

theorem drcOff_disable (sockets : Node → Registers) (node : Node) :
    sendAll home sockets (eachSocket 57 [.disable]) node .memclosEn = 0x0 := by
  rw [sendAll_eachSocket_disable, if_pos (reached node), Function.update_self]

theorem uncontrolled_initialSettings : Uncontrolled full (m.settle home full initialSettings) := by
  rw [settle_initialSettings]
  exact ⟨drcOff_disable reached m.drc, fun _ _ => rfl⟩

variable (hpPos : 0 < hp0) (lpPos : 0 < lp0) (apart : Disjoint (Reporter.coreSet hp0) (Reporter.coreSet lp0))

include hpPos lpPos apart

theorem limited_setRdt (hp lp lpMba : Text) :
    Limited full (Reporter.coreSet hp0) (Reporter.coreSet lp0) "0x7fff".toList lpMba
      (m.settle home full (setRdt (Function.update (configured hp0 lp0 hp lp) .lpMba lpMba))) := by
  rw [settle_setRdt, coresOf_str hpPos, coresOf_str lpPos]
  refine ⟨drcOff_disable reached m.drc, fun core inside table => ?_, fun core inside => ?_⟩
  · simp only [Classes.of, if_pos inside]
    cases table <;> rfl
  · simp only [Classes.of, if_neg (Finset.disjoint_right.mp apart inside), if_pos inside]
    exact ⟨rfl, rfl⟩

theorem controlled_setHwdrc (hp lp : Text) :
    Controlled full (Reporter.coreSet hp0) (Reporter.coreSet lp0)
      (m.settle home full (setHwdrc (configured hp0 lp0 hp lp))) := by
  rw [settle_setHwdrc, coresOf_str hpPos, coresOf_str lpPos]
  have on : ∀ node, sendAll home (sendAll home m.drc (eachSocket 57 [.disable]))
      (eachSocket 57 [.settingsUpdate (defaultSettings 0x01800610), .regDump]) node =
        (defaultSettings 0x01800610).value := by
    intro node
    rw [sendAll_eachSocket_update, if_pos (reached node)]
  refine ⟨on, fun core inside node => ?_, fun core inside node => ?_, fun _ _ => rfl⟩
  · simp only [on, if_neg (Finset.disjoint_left.mp apart inside), if_pos inside]
    decide
  · simp only [on, if_pos inside]
    decide

end Suited

/-- The call of `date` that names the folder of a run: that of `mba_scaling`, or that of `workload_pair`. -/
def Label.call : Label → Nat
  | .rdt _ => 0
  | _ => 1

section AsLabelled

variable {Node : Type} [DecidableEq Node]

/-- A run is measured under the settings that its folder says. -/
structure AsLabelled (full : Table → Text) (hp lp : Finset Nat) (folder : Nat → Text) (label : Label)
    (run : Job × Machine Node) : Prop where
  folder : run.1.dataFolder = folder label.call ++ label.text ++ "/hp".toList
  suits : label.Suits full hp lp run.2

section Measured

variable (home : Nat → Node) (full : Table → Text) (env : Env) (today hp lp : Text)

/-- A run of `mba_scaling`, on a machine in any state. -/
def RdtMeasured (lpMba : Nat) (run : Job × Machine Node) : Prop :=
  ∃ m : Machine Node, run =
    (runHp env hp (root today hp lp ++ Label.text (.rdt lpMba)),
     m.settle home full (setRdt (Function.update env .lpMba (decimal lpMba))))

/-- The four runs of `workload_pair`. -/
def pairMeasured (m : Machine Node) : List (Job × Machine Node) :=
  [(runHp env hp (root today hp lp ++ Label.text .non), m.settle home full initialSettings),
   (runHp env hp (root today hp lp ++ Label.text .hpOnly), m.settle home full initialSettings),
   (runHp env hp (root today hp lp ++ Label.text .hwdrc),
    (m.settle home full initialSettings).settle home full (setHwdrc env)),
   (runHp env hp (root today hp lp ++ Label.text .hpOnlyHwdrc),
    (m.settle home full initialSettings).settle home full (setHwdrc env))]

theorem measured_pairRuns (m : Machine Node) :
    measured (Machine.apply home full) m ((pairRuns env today hp lp).flatMap Round.actions) =
      pairMeasured home full env today hp lp m := by
  simp only [pairRuns, List.flatMap_cons, List.flatMap_nil, measured_run, settle_nil]
  rfl

theorem measured_rdtRuns (mbas : List Nat) (m : Machine Node) (rest : List (ScriptAction Command Job)) :
    ∃ before m', List.Forall₂ (RdtMeasured home full env today hp lp) mbas before ∧
      measured (Machine.apply home full) m ((mbas.map (rdtRun env today hp lp)).flatMap Round.actions ++ rest) =
        before ++ measured (Machine.apply home full) m' rest := by
  induction mbas generalizing m with
  | nil => exact ⟨[], m, .nil, rfl⟩
  | cons lpMba mbas ih =>
      obtain ⟨before, m', runs, same⟩ :=
        ih (m.settle home full (setRdt (Function.update env .lpMba (decimal lpMba))))
      refine ⟨_ :: before, m', .cons ⟨m, rfl⟩ runs, ?_⟩
      rw [List.map_cons, List.flatMap_cons, List.append_assoc, rdtRun, measured_run, same, List.cons_append,
        List.append_assoc]
      rfl

theorem measured_runs (date : Nat → Text) (m : Machine Node) :
    ∃ before m', List.Forall₂ (RdtMeasured home full env (date 0) hp lp) lpMbas before ∧
      measured (Machine.apply home full) m ((runs env date hp lp).flatMap Round.actions) =
        before ++ pairMeasured home full env (date 1) hp lp m' := by
  obtain ⟨before, m', rdt, same⟩ := measured_rdtRuns home full env (date 0) hp lp lpMbas m
    ((pairRuns env (date 1) hp lp).flatMap Round.actions)
  refine ⟨before, m', rdt, ?_⟩
  rw [runs, List.flatMap_append, same, measured_pairRuns]

end Measured

/-- A run of a script into the folders of a day: its job, and the settings that its folder says. -/
structure Ran (full : Table → Text) (hp0 lp0 : Nat) (today hp lp : Text) (label : Label) (run : Job × Machine Node) :
    Prop where
  job : run.1 = runHp (configured hp0 lp0 hp lp) hp (root today hp lp ++ label.text)
  suits : label.Suits full (Reporter.coreSet hp0) (Reporter.coreSet lp0) run.2

omit [DecidableEq Node] in
theorem Ran.dataFolder {full : Table → Text} {hp0 lp0 : Nat} {today hp lp : Text} {label : Label}
    {run : Job × Machine Node} (ran : Ran full hp0 lp0 today hp lp label run) :
    run.1.dataFolder = root today hp lp ++ label.text ++ "/hp".toList := by
  rw [ran.job, runHp]

variable {home : Nat → Node}

theorem ran_runs (full : Table → Text) (date : Nat → Text) (hp lp : Text)
    (reached : ∀ node, node = home 1 ∨ node = home 57) {hp0 lp0 : Nat} (hpPos : 0 < hp0) (lpPos : 0 < lp0)
    (apart : Disjoint (Reporter.coreSet hp0) (Reporter.coreSet lp0)) (m : Machine Node) :
    List.Forall₂ (fun label => Ran full hp0 lp0 (date label.call) hp lp label) labels
      (measured (Machine.apply home full) m ((runs (configured hp0 lp0 hp lp) date hp lp).flatMap Round.actions)) := by
  obtain ⟨before, m', rdt, same⟩ := measured_runs home full (configured hp0 lp0 hp lp) hp lp date m
  have plain := uncontrolled_initialSettings reached full m'
  have drc := controlled_setHwdrc reached full (m'.settle home full initialSettings) hpPos lpPos apart hp lp
  rw [same, labels]
  apply List.rel_append
  · rw [List.forall₂_map_left_iff]
    refine rdt.imp ?_
    rintro lpMba run ⟨m, rfl⟩
    exact ⟨rfl, limited_setRdt reached full m hpPos lpPos apart hp lp (decimal lpMba)⟩
  · exact .cons ⟨rfl, plain⟩ (.cons ⟨rfl, plain⟩ (.cons ⟨rfl, drc⟩ (.cons ⟨rfl, drc⟩ .nil)))

variable {full : Table → Text} {date : Nat → Text} {hp lp : Text}

theorem reached_of_asLabelled {cores cores' : Finset Nat} {folder : Nat → Text} {hp0 lp0 : Nat}
    (right : ∀ start : Machine Node, List.Forall₂ (AsLabelled full cores cores' folder) labels
      (measured (Machine.apply home full) start ((runs (configured hp0 lp0 hp lp) date hp lp).flatMap Round.actions)))
    (node : Node) : node = home 1 ∨ node = home 57 := by
  by_contra missed
  have cut : (runs (configured hp0 lp0 hp lp) date hp lp).flatMap Round.actions =
      (rdtRun (configured hp0 lp0 hp lp) (date 0) hp lp 10).actions ++
        ((runs (configured hp0 lp0 hp lp) date hp lp).drop 1).flatMap Round.actions := rfl
  have first := right ⟨fun _ _ => 1, fun _ => 0, fun _ _ => []⟩
  rw [cut, rdtRun, measured_run, show labels = .rdt 10 :: labels.tail from rfl] at first
  obtain ⟨suits, -⟩ := List.forall₂_cons.mp first
  have off := suits.suits.drcOff node
  rw [settle_setRdt] at off
  change sendAll home _ _ node .memclosEn = 0x0 at off
  rw [sendAll_eachSocket_disable, if_neg missed] at off
  exact absurd off (show ¬ (1 : BitVec 32) = 0x0 by decide)

theorem apart_of_asLabelled {folder : Nat → Text} {hp0 lp0 : Nat} (lpPos : 0 < lp0) {m : Machine Node}
    (right : List.Forall₂ (AsLabelled full (Reporter.coreSet hp0) (Reporter.coreSet lp0) folder) labels
      (measured (Machine.apply home full) m ((runs (configured hp0 lp0 hp lp) date hp lp).flatMap Round.actions))) :
    Disjoint (Reporter.coreSet hp0) (Reporter.coreSet lp0) := by
  obtain ⟨before, m', rdt, same⟩ := measured_runs home full (configured hp0 lp0 hp lp) hp lp date m
  have last := List.forall₂_drop lpMbas.length right
  rw [same, List.drop_left' rdt.length_eq.symm, pairMeasured,
    show labels.drop lpMbas.length = [.non, .hpOnly, .hwdrc, .hpOnlyHwdrc] from rfl] at last
  obtain ⟨-, last⟩ := List.forall₂_cons.mp last
  obtain ⟨-, last⟩ := List.forall₂_cons.mp last
  obtain ⟨drc, -⟩ := List.forall₂_cons.mp last
  rw [Finset.disjoint_left]
  intro core high low
  have none := drc.suits.hp core high (home 1)
  rw [drc.suits.drcOn (home 1), settle_setHwdrc, coresOf_str lpPos] at none
  simp only [if_pos low] at none
  exact absurd none (by decide)

end AsLabelled

/-- When pqos accepts the commands of the generated scripts, every run of every script is measured under
    the settings that its folder says, from every state of the machine, exactly when the two core sets are
    disjoint and the cores 1 and 57 are on all sockets. -/
theorem generated_asLabelled_iff {Node : Type} [DecidableEq Node] (home : Nat → Node) (tool : ClassTool Table)
    (date : Nat → Text) (desc : Text) (ratio : Nat) (ht : Text)
    (accepted : ∀ script ∈ Reporter.main desc ratio ht, Accepted tool (runScript date script.rows).issued) :
    (∀ script ∈ Reporter.main desc ratio ht, ∃ folder : Nat → Text, ∀ start : Machine Node,
        List.Forall₂
          (AsLabelled tool.full (Reporter.coreSet (Reporter.splitCores desc ratio ht).1)
            (Reporter.coreSet (Reporter.splitCores desc ratio ht).2) folder)
          labels (measured (Machine.step home tool) start (runScript date script.rows).issued)) ↔
      Disjoint (Reporter.coreSet (Reporter.splitCores desc ratio ht).1)
        (Reporter.coreSet (Reporter.splitCores desc ratio ht).2) ∧
      ∀ node, node = home 1 ∨ node = home 57 := by
  obtain ⟨hpPos, lpPos⟩ := splitCores_pos desc ratio ht
  constructor
  · intro right
    obtain ⟨script, written⟩ : ∃ script, script ∈ Reporter.main desc ratio ht :=
      ⟨_, List.mem_flatMap.mpr ⟨_, List.mem_cons_self, List.mem_map.mpr ⟨_, List.mem_cons_self, rfl⟩⟩⟩
    obtain ⟨hp, -, lp, -, -, issued⟩ := issued_main date written
    obtain ⟨folder, right⟩ := right script written
    simp only [measured_accepted home (accepted script written)] at right
    rw [issued] at right
    exact ⟨apart_of_asLabelled lpPos (right ⟨fun _ _ => 0, fun _ => 0, fun _ _ => []⟩), reached_of_asLabelled right⟩
  · rintro ⟨apart, reached⟩ script written
    obtain ⟨hp, -, lp, -, -, issued⟩ := issued_main date written
    refine ⟨fun call => root (date call) hp lp, fun start => ?_⟩
    rw [measured_accepted home (accepted script written), issued]
    exact (ran_runs tool.full date hp lp reached hpPos lpPos apart start).imp fun _ _ ran =>
      ⟨ran.dataFolder, ran.suits⟩

/-- A pqos that refuses nothing. -/
def anyRequest : ClassTool Table := ⟨fun _ => true, fun _ => "0x7fff".toList⟩

theorem disjoint_siblings :
    Disjoint (Reporter.coreSet (Reporter.splitCores (Reporter.siblingDesc 0 4 8) 50 "on".toList).1)
      (Reporter.coreSet (Reporter.splitCores (Reporter.siblingDesc 0 4 8) 50 "on".toList).2) := by
  obtain ⟨high, low⟩ := @Reporter.coreSet_splitCores_siblingDesc 0 4 8 50 "on".toList (by decide) (by decide)
    (by decide) (by decide) (by decide)
  rw [high, low]
  exact (Reporter.siblingSplit_of_cut (by decide) (by decide)).disjoint

theorem generated_asLabelled_siblings :
    ∃ script ∈ Reporter.main (Reporter.siblingDesc 0 4 8) 50 "on".toList, ∃ folder : Nat → Text,
      ∀ start : Machine Unit, List.Forall₂
        (AsLabelled anyRequest.full
          (Reporter.coreSet (Reporter.splitCores (Reporter.siblingDesc 0 4 8) 50 "on".toList).1)
          (Reporter.coreSet (Reporter.splitCores (Reporter.siblingDesc 0 4 8) 50 "on".toList).2) folder)
        labels (measured (Machine.step (fun _ => ()) anyRequest) start
          (runScript (fun _ => "WW46.7".toList) script.rows).issued) := by
  have all := (generated_asLabelled_iff (fun _ => ()) anyRequest (fun _ => "WW46.7".toList) _ _ _
    fun _ _ _ _ _ _ => rfl).mpr ⟨disjoint_siblings, fun _ => .inl rfl⟩
  have first : Reporter.creatScript "mlc_benchmark".toList "mlc_benchmark".toList _ ∈
      Reporter.main (Reporter.siblingDesc 0 4 8) 50 "on".toList :=
    List.mem_flatMap.mpr ⟨_, List.mem_cons_self, List.mem_map.mpr ⟨_, List.mem_cons_self, rfl⟩⟩
  exact ⟨_, first, all _ first⟩

end KvmWorkload.Womix
