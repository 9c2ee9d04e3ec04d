import KvmWorkload.Lib.Interleaving
import KvmWorkload.Lib.Lists
import KvmWorkload.RunTestcases.Resctrl
import KvmWorkload.RunTestcases.VmNames

/-! # Control groups for workloads on the host

`hp_lp_corun_host_resctrl` starts run_in_host.sh beside itself and then makes a
control group for each workload.  The process ids are meant to be handed over in
files, one for each range of cores.  run_in_host.sh names its file by a variable
that it never sets, so both scripts use different files.
-/

namespace KvmWorkload.RunTestcases.HostResctrl

/-- The files with process ids in the working directory, and what is under /sys/fs/resctrl. -/
structure Host where
  files : Text → Option Nat
  fs : Resctrl
  /-- The mask of a group for an L2 cache. -/
  l2 : Text → Nat → Option Text

inductive Action where
  /-- `echo $pid > file`. -/
  | echoPid (file : Text) (pid : Nat)
  | mkdir (group : Text)
  /-- `echo "L2:$cache_id=$mask" > schemata`. -/
  | setL2 (group : Text) (cacheId : Nat) (mask : Text)
  /-- `cat file > tasks`. -/
  | catTasks (file group : Text)

/-- What `cat` prints.  A name that starts with a dash is taken for an option. -/
def Host.cat (host : Host) (file : Text) : Option Nat :=
  if file.head? = some '-' then none else host.files file

def step (host : Host) : Action → Host
  | .echoPid file pid => { host with files := Function.update host.files file (some pid) }
  | .mkdir group => { host with fs := host.fs.mkdir group }
  | .setL2 group cacheId mask =>
      { host with l2 := Function.update host.l2 group (Function.update (host.l2 group) cacheId (some mask)) }
  | .catTasks file group =>
      match host.cat file with
      | some pid => { host with fs := host.fs.moveTask group pid }
      | none => host

/-- `$core_range` of run_in_host.sh. -/
def coreRange : Text := []

/-- The loop of run_in_host.sh; both branches start a workload in the background and write its id. -/
def runInHost (wlCoreRange : Text) (pid : Nat → Nat) : List Action :=
  (commaWords wlCoreRange).zipIdx.map fun entry => .echoPid (coreRange ++ ".txt".toList) (pid entry.2)

/-- What the other script reads. -/
structure Config where
  l2cCacheWaysEnable : Bool
  l2cCosWl : Text
  l2cCosWays : Text
  vmCoreRange : List CoreRange
  /-- /sys/devices/system/cpu/cpu*/cache/index2/id. -/
  cacheId : Nat → Nat

namespace Config

variable (config : Config)

/-- `$start_core-$end_core.txt`; both are empty without an entry. -/
def pidFile (i : Nat) : Text := (config.vmCoreRange[i]?.elim ['-'] CoreRange.text) ++ ".txt".toList

/-- The cores of the inner loop; an empty variable counts as 0. -/
def cores (i : Nat) : List Nat :=
  config.vmCoreRange[i]?.elim [0] fun range => List.range' range.lo (range.hi + 1 - range.lo)

def closDir (clos : Text) : Text := "clos".toList ++ clos

/-- One turn of the loop over the classes. -/
def turn (i : Nat) (clos : Text) : List Action :=
  .mkdir (closDir clos) ::
    (config.cores i).map (fun core => .setL2 (closDir clos) (config.cacheId core) ((commaWords config.l2cCosWays).getD i [])) ++
    [.catTasks (config.pidFile i) (closDir clos)]

/-- The classes that get a turn, with their positions. -/
def turns : List (Text × Nat) := if config.l2cCacheWaysEnable then (commaWords config.l2cCosWl).zipIdx else []

def assign : List Action := config.turns.flatMap fun entry => config.turn entry.2 entry.1

/-- The directories there are when all turns are over. -/
def groups (fs : Resctrl) : List Text := ((config.turns.map fun entry => closDir entry.1).foldl Resctrl.mkdir fs).groups

/-- The tasks that the files of an earlier time list, with the groups they are for.  A class without a
    directory takes none. -/
def leftovers (host : Host) : List (Nat × Text) :=
  config.turns.filterMap fun entry =>
    if (config.groups host.fs).contains (closDir entry.1) then
      (host.cat (config.pidFile entry.2)).map fun pid => (pid, closDir entry.1)
    else none

end Config

inductive Script where
  | runInHost
  | assign
  deriving DecidableEq

def program (config : Config) (wlCoreRange : Text) (pid : Nat → Nat) : Script → List Action
  | .runInHost => runInHost wlCoreRange pid
  | .assign => config.assign

def run (host : Host) (events : List (Script × Action)) : Host := events.foldl (fun host event => step host event.2) host

theorem foldl_setL2 (group : Text) (cacheId : Nat → Nat) (mask : Text) (cores : List Nat) (host : Host) :
    ∃ l2, (cores.map fun core => Action.setL2 group (cacheId core) mask).foldl step host = { host with l2 := l2 } := by
  induction cores generalizing host with
  | nil => exact ⟨host.l2, rfl⟩
  | cons core cores ih =>
      obtain ⟨l2, rest⟩ := ih (step host (.setL2 group (cacheId core) mask))
      exact ⟨l2, rest⟩

/-- The same directories, and as many more to come. -/
def SameDirs (fs fs' : Resctrl) : Prop := fs.groups = fs'.groups ∧ fs.room = fs'.room

theorem SameDirs.mkdir {fs fs' : Resctrl} (same : SameDirs fs fs') (name : Text) :
    SameDirs (fs.mkdir name) (fs'.mkdir name) := by
  obtain ⟨groups, room⟩ := same
  unfold Resctrl.mkdir
  rw [groups, room]
  split
  · exact ⟨groups, room⟩
  · exact ⟨rfl, rfl⟩

theorem SameDirs.foldl_mkdir {fs fs' : Resctrl} (same : SameDirs fs fs') (names : List Text) :
    SameDirs (names.foldl Resctrl.mkdir fs) (names.foldl Resctrl.mkdir fs') := by
  induction names generalizing fs fs' with
  | nil => exact same
  | cons name names ih => exact ih (same.mkdir name)

theorem sameDirs_moveTask (fs : Resctrl) (name : Text) (task : Nat) : SameDirs (fs.moveTask name task) fs := by
  rw [Resctrl.moveTask]
  split <;> exact ⟨rfl, rfl⟩

theorem foldl_mkdir_of_full {fs : Resctrl} (full : fs.room = 0) (names : List Text) :
    names.foldl Resctrl.mkdir fs = fs := by
  induction names with
  | nil => rfl
  | cons name names ih =>
      have failed : fs.mkdir name = fs := if_pos (.inl full)
      rw [List.foldl_cons, failed, ih]

theorem mem_foldl_mkdir {fs : Resctrl} {name : Text} (there : name ∈ fs.groups) (names : List Text) :
    name ∈ (names.foldl Resctrl.mkdir fs).groups := by
  induction names generalizing fs with
  | nil => exact there
  | cons other names ih =>
      refine ih ?_
      rw [Resctrl.mkdir]
      split
      · exact there
      · exact List.mem_append_left _ there

theorem mem_mkdir_iff (fs : Resctrl) (name : Text) (names : List Text) :
    name ∈ (fs.mkdir name).groups ↔ name ∈ ((name :: names).foldl Resctrl.mkdir fs).groups := by
  refine ⟨fun there => mem_foldl_mkdir there names, fun there => ?_⟩
  by_contra missing
  have failed : fs.room = 0 ∨ name ∈ fs.groups := by
    by_contra possible
    refine missing ?_
    rw [Resctrl.mkdir, if_neg possible]
    exact List.mem_append_right _ List.mem_cons_self
  have same : fs.mkdir name = fs := if_pos failed
  rw [same] at missing
  rw [foldl_mkdir_of_full (failed.resolve_right missing)] at there
  exact missing there

theorem step_catTasks {group : Text} (named : group ≠ []) (file : Text) (host : Host) :
    (step host (.catTasks file group)).files = host.files ∧
      SameDirs (step host (.catTasks file group)).fs host.fs ∧
      (step host (.catTasks file group)).fs.group =
        applySettings (if group ∈ host.fs.groups then (host.cat file).map fun pid => (pid, group) else none).toList
          host.fs.group := by
  rw [step]
  cases host.cat file with
  | none => exact ⟨rfl, ⟨rfl, rfl⟩, by rw [Option.map_none, ite_self]; rfl⟩
  | some pid =>
      refine ⟨rfl, sameDirs_moveTask .., ?_⟩
      dsimp only
      by_cases made : group ∈ host.fs.groups
      · rw [Resctrl.moveTask, if_pos (.inr made), if_pos made]
        funext task
        simp [applySettings, Function.update_apply]
      · rw [Resctrl.moveTask, if_neg (not_or.mpr ⟨named, made⟩), if_neg made]
        rfl

theorem foldl_turn (config : Config) (i : Nat) (clos : Text) (host : Host) :
    ((config.turn i clos).foldl step host).files = host.files ∧
      SameDirs ((config.turn i clos).foldl step host).fs (host.fs.mkdir (Config.closDir clos)) ∧
      ((config.turn i clos).foldl step host).fs.group =
        applySettings
          (if Config.closDir clos ∈ (host.fs.mkdir (Config.closDir clos)).groups then
            (host.cat (config.pidFile i)).map fun pid => (pid, Config.closDir clos)
          else none).toList
          host.fs.group := by
  have named : Config.closDir clos ≠ [] := by simp [Config.closDir]
  rw [Config.turn, List.cons_append, List.foldl_cons, List.foldl_append]
  obtain ⟨l2, masks⟩ := foldl_setL2 (Config.closDir clos) config.cacheId ((commaWords config.l2cCosWays).getD i [])
    (config.cores i) (step host (.mkdir (Config.closDir clos)))
  rw [masks, List.foldl_cons, List.foldl_nil, ← (mkdir_kept host.fs (Config.closDir clos)).2]
  exact step_catTasks named (config.pidFile i) { step host (.mkdir (Config.closDir clos)) with l2 := l2 }

theorem foldl_turns (config : Config) {groups : List Text} (turns : List (Text × Nat)) (host : Host)
    (all : ((turns.map fun entry => Config.closDir entry.1).foldl Resctrl.mkdir host.fs).groups = groups) :
    ((turns.flatMap fun entry => config.turn entry.2 entry.1).foldl step host).fs.group =
      applySettings
        (turns.filterMap fun entry =>
          if groups.contains (Config.closDir entry.1) then
            (host.cat (config.pidFile entry.2)).map fun pid => (pid, Config.closDir entry.1)
          else none)
        host.fs.group := by
  induction turns generalizing host with
  | nil => rfl
  | cons entry turns ih =>
      obtain ⟨files, dirs, group⟩ := foldl_turn config entry.2 entry.1 host
      have made : Config.closDir entry.1 ∈ (host.fs.mkdir (Config.closDir entry.1)).groups ↔
          Config.closDir entry.1 ∈ groups := by
        rw [mem_mkdir_iff, ← all]
        rfl
      have cat : ∀ file, Host.cat ((config.turn entry.2 entry.1).foldl step host) file = host.cat file := by
        intro file
        rw [Host.cat, Host.cat, files]
      have rest := ih ((config.turn entry.2 entry.1).foldl step host) ((dirs.foldl_mkdir _).1.trans all)
      simp only [made] at group
      simp only [cat] at rest
      rw [List.flatMap_cons, List.foldl_append, rest, group, List.filterMap_cons]
      by_cases there : Config.closDir entry.1 ∈ groups
      · rw [if_pos there, if_pos (List.contains_iff_mem.mpr there)]
        cases host.cat (config.pidFile entry.2) <;> rfl
      · rw [if_neg there, if_neg (mt List.contains_iff_mem.mp there)]
        rfl

/-- The host without the file that run_in_host.sh writes. -/
def besides (host : Host) : Host := { host with files := Function.update host.files (coreRange ++ ".txt".toList) none }

theorem pidFile_ne (config : Config) (i : Nat) : config.pidFile i ≠ coreRange ++ ".txt".toList := by
  intro same
  have empty := List.append_cancel_right same
  cases found : config.vmCoreRange[i]? with
  | none => simp [found, coreRange] at empty
  | some range => simp [found, coreRange, CoreRange.text, rangeText] at empty

theorem cat_besides (config : Config) (i : Nat) (host : Host) :
    (besides host).cat (config.pidFile i) = host.cat (config.pidFile i) := by
  have other : (besides host).files (config.pidFile i) = host.files (config.pidFile i) :=
    Function.update_of_ne (pidFile_ne config i) ..
  rw [Host.cat, Host.cat, other]

theorem leftovers_besides (config : Config) (host : Host) :
    config.leftovers (besides host) = config.leftovers host := by
  simp only [Config.leftovers, cat_besides]
  rfl

theorem besides_echo (pid : Nat) (host : Host) :
    besides (step host (.echoPid (coreRange ++ ".txt".toList) pid)) = besides host := by
  simp [step, besides]

theorem besides_turn {config : Config} {i : Nat} {clos : Text} {action : Action} (member : action ∈ config.turn i clos)
    (host : Host) : besides (step host action) = step (besides host) action := by
  simp only [Config.turn, List.cons_append, List.mem_cons, List.mem_append, List.mem_map, List.not_mem_nil,
    or_false] at member
  obtain rfl | ⟨core, -, rfl⟩ | rfl := member
  · rfl
  · rfl
  · rw [step, step, cat_besides]
    cases host.cat (config.pidFile i) <;> rfl

/-- However the two scripts overlap, the groups are those of the files left by earlier runs.  The
    process ids of this run have no part in it. -/
theorem hostResctrl_group (config : Config) (wlCoreRange : Text) (pid : Nat → Nat) {events : List (Script × Action)}
    (order : Interleaves [.runInHost, .assign] (program config wlCoreRange pid) events) (host : Host) (task : Nat) :
    (run host events).fs.group task = (lastEntry (config.leftovers host) task).getD (host.fs.group task) := by
  have alone : besides (run host events) = config.assign.foldl step (besides host) := by
    rw [run, ← show _ = config.assign from order.each .assign (by decide)]
    apply view_foldl
    · rintro ⟨script, action⟩ member rfl host
      obtain ⟨entry, -, inside⟩ := List.mem_flatMap.mp (order.mem member)
      exact besides_turn inside host
    · rintro ⟨script, action⟩ member other host
      cases script with
      | assign => exact absurd rfl other
      | runInHost =>
          obtain ⟨entry, -, rfl⟩ := List.mem_map.mp (order.mem member)
          exact besides_echo _ host
  calc (run host events).fs.group task
      = (config.assign.foldl step (besides host)).fs.group task := by rw [← alone]; rfl
    _ = applySettings (config.leftovers (besides host)) host.fs.group task := by
        rw [Config.assign, foldl_turns config config.turns (besides host) rfl]; rfl
    _ = (lastEntry (config.leftovers (besides host)) task).getD (host.fs.group task) :=
        applySettings_apply ..
    _ = (lastEntry (config.leftovers host) task).getD (host.fs.group task) := by
        rw [leftovers_besides]

/-- Two classes, for the ranges that `init_vm_core_range` gives. -/
def twoClasses : Config where
  l2cCacheWaysEnable := true
  l2cCosWl := "1,2".toList
  l2cCosWays := "0x00ff,0xff00".toList
  vmCoreRange := initVmCoreRange
  cacheId := id

/-- A host on which a file for the second range was left. -/
def usedHost : Host where
  files := Function.update (fun _ => none) "30-59.txt".toList (some 4242)
  fs := .mounted twoDomains
  l2 := fun _ _ => none

/-- The old process is moved to the second class, and a new one stays where it is. -/
theorem usedHost_groups :
    (run usedHost (oneByOne [.runInHost, .assign]
      (program twoClasses "redis:0-29,mlc:30-59".toList (5000 + ·)))).fs.group 4242 = "clos2".toList ∧
    (run usedHost (oneByOne [.runInHost, .assign]
      (program twoClasses "redis:0-29,mlc:30-59".toList (5000 + ·)))).fs.group 5001 = [] := by
  have order := oneByOne_interleaves (by decide : [Script.runInHost, .assign].Nodup)
    (program twoClasses "redis:0-29,mlc:30-59".toList (5000 + ·))
  have left : twoClasses.leftovers usedHost = [(4242, "clos2".toList)] := by decide +kernel
  rw [hostResctrl_group _ _ _ order, hostResctrl_group _ _ _ order, left]
  exact ⟨rfl, rfl⟩

end KvmWorkload.RunTestcases.HostResctrl
