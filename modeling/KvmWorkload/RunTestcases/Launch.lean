import KvmWorkload.Lib.PyText
import KvmWorkload.RunTestcases.VmNames
import KvmWorkload.VmCloudInit.Needs

/-! # From a configuration to the VMs

run_testcases.sh calls run.sh, which parses its command line with `getopts` and
calls vm_cloud-init.py, which fills in its globals and generates the commands.
The flag that decides whether VMs are pinned changes its sense on the way: `-A`
turns pinning off.
-/

namespace KvmWorkload.RunTestcases

open VmCloudInit

/-- The variables of run.sh that its command line sets. -/
structure RunVars where
  target : Text
  stage : Text
  nCpusPerVm : Text
  workloadPerVm : Text
  vmConfig : Text
  fileSuffix : Text
  resDir : Text
  cpuAffinity : Nat

namespace RunVars

def initial : RunVars := ⟨[], [], [], [], [], [], [], 1⟩

/-- The arms of `case $opt` for the options that take a value. -/
def assign (vars : RunVars) (optarg : Text) : Char → Option RunVars
  | 'T' => some { vars with target := optarg }
  | 'S' => some { vars with stage := optarg }
  | 'C' => some { vars with nCpusPerVm := optarg }
  | 'W' => some { vars with workloadPerVm := optarg }
  | 'F' => some { vars with vmConfig := optarg }
  | 'O' => some { vars with fileSuffix := optarg }
  | 'D' => some { vars with resDir := optarg }
  | _ => none

/-- `handle_args`: `getopts "AT:S:C:W:F:O:D:"` over the words; `none` is `exit 1`.

    In a word, letters `A` may stand in front of another option; the value of an option is the rest
    of its word or else the next word.  The first word that is no option ends the loop. -/
def handleArgs (vars : RunVars) : List Text → Option RunVars
  | ('-' :: letter :: letters) :: words =>
      if letter = '-' ∧ letters = [] then some vars
      else
        let vars := if letter = 'A' then { vars with cpuAffinity := 0 } else vars
        match (letter :: letters).dropWhile (· = 'A'), words with
        | [], words => handleArgs vars words
        | [_], [] => none
        | [opt], optarg :: words => (vars.assign optarg opt).bind fun vars => handleArgs vars words
        | opt :: optarg, words => (vars.assign optarg opt).bind fun vars => handleArgs vars words
  | _ => some vars

end RunVars

/-- The command line of vm_cloud-init.py. -/
structure PyArgs where
  cpusPerVm : Text
  workloadPerVm : Text
  cpuAffinity : Bool
  vmConfig : Text

/-- A word that argparse takes for the value of an option. -/
def isValue (word : Text) : Bool := word.head?.any (· ≠ '-')

/-- `setup_vm`; `none` when argparse refuses the command line. -/
def setupVm (vars : RunVars) : Option PyArgs :=
  if isValue vars.nCpusPerVm ∧ isValue vars.workloadPerVm ∧ isValue vars.vmConfig then
    some ⟨vars.nCpusPerVm, vars.workloadPerVm, vars.cpuAffinity ≠ 0, vars.vmConfig⟩
  else none

/-- `main` of run.sh, as far as vm_cloud-init.py is called: stage `setup`, target `vm`. -/
def runSh (words : List Text) : Option PyArgs :=
  (RunVars.initial.handleArgs words).bind fun vars =>
    if vars.stage = "setup".toList ∧ vars.target = "vm".toList then setupVm vars else none

/-- The part of a configuration that describes the VMs.  No value can be taken for an option. -/
structure LaunchConfig where
  vmCores : List Nat
  vmWorkloads : List Workload
  vmConfig : Word
  vmCores_ne : vmCores ≠ []
  vmWorkloads_ne : vmWorkloads ≠ []
  workload_undashed : ∀ wl ∈ vmWorkloads, wl.text.head? ≠ some '-'
  config_undashed : vmConfig.text.head? ≠ some '-'

namespace LaunchConfig

def vmCoresText (config : LaunchConfig) : Text := [','].intercalate (config.vmCores.map decimal)

def vmNamesText (config : LaunchConfig) : Text :=
  initVmNames ([','].intercalate (config.vmWorkloads.map Workload.text))
    (initVmCoreRange.map CoreRange.text)

end LaunchConfig

/-- `${VM_CORE_RANGE[i]}`, empty behind the end of the array. -/
def vmCoreRange (i : Nat) : Text := ((initVmCoreRange.map CoreRange.text)[i]?).getD []

/-- The functions of run_testcases.sh that launch VMs. -/
inductive Mode where
  | solo
  | withoutCos
  | mba
  | cpat
  | resctrlMba
  | hwdrc
  | resctrlHwdrc
  deriving DecidableEq

/-- The modes that go on to `pqos -a` with the entries of `VM_CORE_RANGE`. -/
def Mode.UsesPqos (mode : Mode) : Prop := mode = .mba ∨ mode = .cpat ∨ mode = .hwdrc

/-- The unquoted `$value`: no word at all when it is empty. -/
def expand (value : Text) : List Text := if value = [] then [] else [value]

def dashed (opt : Char) : Text := ['-', opt]

/-- `-T vm -S setup -C $cores -W $names`. -/
def setupOptions (cores names : Text) : List Text :=
  [dashed 'T', "vm".toList, dashed 'S', "setup".toList] ++
    dashed 'C' :: expand cores ++ dashed 'W' :: expand names

/-- The words behind `./run.sh`. -/
def setupCall (config : LaunchConfig) : Mode → List Text
  | .solo =>
      dashed 'A' :: setupOptions (cut ',' 1 config.vmCoresText) (cut ',' 1 config.vmNamesText)
  | .withoutCos | .mba | .cpat | .hwdrc =>
      dashed 'A' :: setupOptions config.vmCoresText config.vmNamesText ++
        dashed 'F' :: expand config.vmConfig.text
  | .resctrlMba =>
      setupOptions config.vmCoresText config.vmNamesText ++ dashed 'F' :: expand config.vmConfig.text
  | .resctrlHwdrc => dashed 'A' :: setupOptions config.vmCoresText config.vmNamesText

/-- The CPUs of NUMA node 0, as `lscpu` lists them. -/
structure Node0 where
  first : CoreRange
  rest : List CoreRange
  ordered : first.lo ≤ first.hi
  /-- How far `lscpu` indents the list. -/
  blanks : Nat

def CoreRange.item (range : CoreRange) : Text :=
  if range.lo = range.hi then decimal range.lo else range.text

def Node0.listing (node0 : Node0) : Text :=
  List.replicate node0.blanks ' ' ++ [','].intercalate ((node0.first :: node0.rest).map CoreRange.item)

/-- The line of `lscpu` that `grep node0` finds. -/
def Node0.line (node0 : Node0) : Text := "NUMA node0 CPU(s)".toList ++ ':' :: node0.listing

/-- `lscpu | grep node0 | cut -d: -f2 | cut -d, -f1`, stripped. -/
def numacpuRange (node0 : Node0) : Text := strip (cut ',' 1 (cut ':' 2 node0.line))

/-- `int(text)` for a run of digits. -/
def pyInt (text : Text) : Option Int :=
  if text ≠ [] ∧ text.all Char.isDigit then some (readDecimal text) else none

/-- `Tile_Map` with `Tile_Map["SOCKET0"]["5G"]` set. -/
def mainTileMap (fiveG : Int) : List (Nat × Tiles) := [(0, fiveGTiles fiveG), (1, fiveGTiles 0)]

/-- The globals as `__main__` leaves them; `found` holds what is read from the machine and from the
    configuration file, and `none` is a `ValueError`. -/
def mainEnv (found : Env) (node0 : Node0) (args : PyArgs) : Option Env :=
  ((args.cpusPerVm.splitOn ',').mapM pyInt).map fun cpusPerVm =>
    { found with
      tileMap := mainTileMap cpusPerVm.length
      distinctSockets := by simp [mainTileMap]
      cpusPerVm := cpusPerVm
      workloadPerVm := args.workloadPerVm.splitOn ','
      cpuAffinity := args.cpuAffinity
      node0Range := numacpuRange node0 }

/-- The commands that `run_test` writes to virt-install-cmds.sh, if it is called. -/
def writtenCommands (env : Env) : Option (List VirtInstall) :=
  if isVmAvailable env then (finalState (generateCommands env)).map St.testCommands else none

/-- `__main__`. -/
def vmCloudInit (found : Env) (node0 : Node0) (args : PyArgs) : Option (List VirtInstall) :=
  (mainEnv found node0 args).bind writtenCommands

/-- The VMs that a mode launches, in the order of their commands. -/
def launched (found : Env) (node0 : Node0) (config : LaunchConfig) (mode : Mode) : List VirtInstall :=
  ((runSh (setupCall config mode)).bind (vmCloudInit found node0)).getD []

@[simp] theorem RunVars.handleArgs_nil (vars : RunVars) : vars.handleArgs [] = some vars := rfl

@[simp] theorem RunVars.handleArgs_affinity (vars : RunVars) (words : List Text) :
    vars.handleArgs (dashed 'A' :: words) = { vars with cpuAffinity := 0 }.handleArgs words := by
  simp [handleArgs, dashed]

theorem RunVars.handleArgs_option (vars : RunVars) {opt : Char} (takes : opt ≠ 'A') (dash : opt ≠ '-')
    (optarg : Text) (words : List Text) :
    vars.handleArgs (dashed opt :: optarg :: words) =
      (vars.assign optarg opt).bind fun vars => vars.handleArgs words := by
  simp [handleArgs, dashed, takes, dash]

theorem expand_of_ne {value : Text} (nonempty : value ≠ []) : expand value = [value] := if_neg nonempty

theorem isValue_intercalate {words : List Text} (nonempty : words ≠ [])
    (values : ∀ word ∈ words, isValue word = true) : isValue ([','].intercalate words) = true := by
  match words, nonempty with
  | [word], _ => simpa using values word
  | (c :: word) :: second :: rest, _ => simpa [isValue] using values (c :: word) List.mem_cons_self
  | [] :: second :: rest, _ => exact absurd (values [] List.mem_cons_self) (by decide)

theorem ne_nil_of_isValue {word : Text} (value : isValue word = true) : word ≠ [] := by
  rintro rfl
  exact absurd value (by decide)

theorem isValue_of_head {word : Text} (nonempty : word ≠ []) (undashed : word.head? ≠ some '-') :
    isValue word = true := by
  cases word with
  | nil => exact absurd rfl nonempty
  | cons c word => simpa [isValue] using undashed

theorem handleArgs_setupOptions (vars : RunVars) {cores names : Text} (someCores : cores ≠ [])
    (someNames : names ≠ []) (words : List Text) :
    vars.handleArgs (setupOptions cores names ++ words) =
      RunVars.handleArgs { vars with
        target := "vm".toList
        stage := "setup".toList
        nCpusPerVm := cores
        workloadPerVm := names } words := by
  rw [setupOptions, expand_of_ne someCores, expand_of_ne someNames]
  simp [RunVars.handleArgs_option, RunVars.assign]

theorem LaunchConfig.vmCoresText_splitOn (config : LaunchConfig) :
    config.vmCoresText.splitOn ',' = config.vmCores.map decimal := by
  refine List.splitOn_intercalate ',' ?_ (by simpa using config.vmCores_ne)
  intro text member
  obtain ⟨size, -, rfl⟩ := List.mem_map.mp member
  exact not_mem_decimal (by decide)

theorem LaunchConfig.isValue_vmCoresText (config : LaunchConfig) : isValue config.vmCoresText = true := by
  refine isValue_intercalate (by simpa using config.vmCores_ne) fun text member => ?_
  obtain ⟨size, -, rfl⟩ := List.mem_map.mp member
  refine isValue_of_head (decimal_ne_nil size) fun dash => ?_
  exact not_mem_decimal (n := size) (by decide) (List.mem_of_mem_head? dash)

/-- The names, one for each workload; from the third on they have no range. -/
def LaunchConfig.vmNames (config : LaunchConfig) : List Text :=
  config.vmWorkloads.zipIdx.map fun (wl, i) => wl.text ++ ':' :: vmCoreRange i

theorem comma_not_mem_vmCoreRange (i : Nat) : ',' ∉ vmCoreRange i := by
  rw [vmCoreRange, List.getElem?_map]
  cases initVmCoreRange[i]? with
  | none => exact List.not_mem_nil
  | some range => exact CoreRange.not_mem_text (by decide) (by decide)

theorem LaunchConfig.vmNamesText_eq (config : LaunchConfig) :
    config.vmNamesText = [','].intercalate config.vmNames := by
  rw [vmNamesText, initVmNames, commaWords_workloads, vmNames, List.zipIdx_map, List.map_map]
  rfl

theorem LaunchConfig.vmNames_ne (config : LaunchConfig) : config.vmNames ≠ [] := by
  simpa [vmNames] using config.vmWorkloads_ne

theorem LaunchConfig.vmNamesText_splitOn (config : LaunchConfig) :
    config.vmNamesText.splitOn ',' = config.vmNames := by
  rw [vmNamesText_eq]
  refine List.splitOn_intercalate ',' (fun text member => ?_) config.vmNames_ne
  obtain ⟨⟨wl, i⟩, -, rfl⟩ := List.mem_map.mp member
  simp [wl.comma_not_mem_text, comma_not_mem_vmCoreRange]

theorem LaunchConfig.isValue_vmNamesText (config : LaunchConfig) : isValue config.vmNamesText = true := by
  rw [vmNamesText_eq]
  refine isValue_intercalate config.vmNames_ne fun text member => ?_
  obtain ⟨⟨wl, i⟩, inside, rfl⟩ := List.mem_map.mp member
  have undashed := config.workload_undashed wl (List.fst_mem_of_mem_zipIdx inside)
  refine isValue_of_head (by simp) ?_
  rw [List.head?_append_of_ne_nil _ wl.text_ne_nil]
  exact undashed

theorem LaunchConfig.isValue_vmConfig (config : LaunchConfig) : isValue config.vmConfig.text = true :=
  isValue_of_head config.vmConfig.nonempty config.config_undashed

theorem handleArgs_withConfig (config : LaunchConfig) (vars : RunVars) :
    vars.handleArgs (setupOptions config.vmCoresText config.vmNamesText ++
        dashed 'F' :: expand config.vmConfig.text) =
      some { vars with
        target := "vm".toList
        stage := "setup".toList
        nCpusPerVm := config.vmCoresText
        workloadPerVm := config.vmNamesText
        vmConfig := config.vmConfig.text } := by
  rw [handleArgs_setupOptions _ (ne_nil_of_isValue config.isValue_vmCoresText)
      (ne_nil_of_isValue config.isValue_vmNamesText),
    expand_of_ne config.vmConfig.nonempty, RunVars.handleArgs_option _ (by decide) (by decide)]
  rfl

theorem setupVm_withConfig (config : LaunchConfig) {vars : RunVars}
    (cores : vars.nCpusPerVm = config.vmCoresText) (names : vars.workloadPerVm = config.vmNamesText)
    (file : vars.vmConfig = config.vmConfig.text) :
    setupVm vars = some ⟨config.vmCoresText, config.vmNamesText, vars.cpuAffinity ≠ 0,
      config.vmConfig.text⟩ := by
  rw [setupVm, cores, names, file,
    if_pos ⟨config.isValue_vmCoresText, config.isValue_vmNamesText, config.isValue_vmConfig⟩]

/-- The modes that name a configuration file reach vm_cloud-init.py, and with `-A` they do so
    without `--cpu_affinity`. -/
theorem runSh_setupCall (config : LaunchConfig) {mode : Mode} (notSolo : mode ≠ .solo)
    (notHwdrc : mode ≠ .resctrlHwdrc) :
    runSh (setupCall config mode) =
      some ⟨config.vmCoresText, config.vmNamesText, mode = .resctrlMba, config.vmConfig.text⟩ := by
  cases mode with
  | solo => exact absurd rfl notSolo
  | resctrlHwdrc => exact absurd rfl notHwdrc
  | withoutCos | mba | cpat | hwdrc =>
      rw [runSh, setupCall, List.cons_append, RunVars.handleArgs_affinity, handleArgs_withConfig,
        Option.bind_some, if_pos ⟨rfl, rfl⟩, setupVm_withConfig config rfl rfl rfl]
      rfl
  | resctrlMba =>
      rw [runSh, setupCall, handleArgs_withConfig, Option.bind_some, if_pos ⟨rfl, rfl⟩,
        setupVm_withConfig config rfl rfl rfl]
      rfl

theorem pyInt_decimal (n : Nat) : pyInt (decimal n) = some (n : Int) := by
  rw [pyInt, if_pos ⟨decimal_ne_nil n, all_isDigit_decimal n⟩, readDecimal_decimal]

theorem mapM_pyInt_decimal (sizes : List Nat) :
    (sizes.map decimal).mapM pyInt = some (sizes.map fun (n : Nat) => (n : Int)) := by
  induction sizes with
  | nil => rfl
  | cons n sizes ih => simp [List.mapM_cons, pyInt_decimal, ih]

/-- What `generate_commands` reads when it is called for a configuration. -/
def LaunchConfig.env (config : LaunchConfig) (found : Env) (node0 : Node0) (pinned : Bool) : Env :=
  { found with
    tileMap := mainTileMap config.vmCores.length
    distinctSockets := by simp [mainTileMap]
    cpusPerVm := config.vmCores.map fun (n : Nat) => (n : Int)
    workloadPerVm := config.vmNames
    cpuAffinity := pinned
    node0Range := numacpuRange node0 }

theorem mainEnv_eq (config : LaunchConfig) (found : Env) (node0 : Node0) (pinned : Bool) (file : Text) :
    mainEnv found node0 ⟨config.vmCoresText, config.vmNamesText, pinned, file⟩ =
      some (config.env found node0 pinned) := by
  simp only [mainEnv, config.vmCoresText_splitOn, mapM_pyInt_decimal, config.vmNamesText_splitOn,
    Option.map_some, List.length_map]
  rfl

theorem launched_eq (config : LaunchConfig) (found : Env) (node0 : Node0) {mode : Mode}
    (notSolo : mode ≠ .solo) (notHwdrc : mode ≠ .resctrlHwdrc) :
    launched found node0 config mode =
      (writtenCommands (config.env found node0 (mode = .resctrlMba))).getD [] := by
  rw [launched, runSh_setupCall config notSolo notHwdrc, Option.bind_some, vmCloudInit, mainEnv_eq,
    Option.bind_some]

theorem CoreRange.not_mem_item {range : CoreRange} {c : Char} (dash : c ≠ '-')
    (digit : c.isDigit = false) : c ∉ range.item := by
  rw [item]
  split_ifs
  · exact not_mem_decimal digit
  · exact not_mem_text dash digit

theorem CoreRange.mem_cpuList_item {range : CoreRange} {cpu : Nat} :
    cpu ∈ cpuList range.item ↔ range.lo ≤ cpu ∧ cpu ≤ range.hi := by
  rw [item]
  split_ifs with single
  · rw [mem_cpuList_decimal]
    omega
  · exact mem_cpuList_rangeText

theorem Node0.listing_eq (node0 : Node0) :
    node0.listing = [','].intercalate
      ((List.replicate node0.blanks ' ' ++ node0.first.item) :: node0.rest.map CoreRange.item) := by
  rw [listing]
  cases node0.rest <;> simp

theorem Node0.colon_not_mem_listing (node0 : Node0) : ':' ∉ node0.listing := by
  rw [listing, List.mem_append, not_or]
  refine ⟨fun blank => absurd (List.eq_of_mem_replicate blank) (by decide), fun member => ?_⟩
  obtain ⟨item, inside, found⟩ := exists_of_mem_intercalate (by decide) member
  obtain ⟨range, -, rfl⟩ := List.mem_map.mp inside
  exact CoreRange.not_mem_item (by decide) (by decide) found

theorem CoreRange.printable_item (range : CoreRange) : ∀ c ∈ range.item, isSpace c = false := by
  intro c member
  by_cases digit : c.isDigit = true
  · exact isSpace_of_isDigit digit
  · by_cases dash : c = '-'
    · subst dash
      decide
    · exact absurd member (CoreRange.not_mem_item dash (by simpa using digit))

theorem Node0.cut_line (node0 : Node0) : cut ':' 2 node0.line = node0.listing := by
  have label : ':' ∉ "NUMA node0 CPU(s)".toList := by decide
  exact cut_two label node0.colon_not_mem_listing

theorem numacpuRange_eq (node0 : Node0) : numacpuRange node0 = node0.first.item := by
  have commas : ∀ w ∈ (List.replicate node0.blanks ' ' ++ node0.first.item) ::
      node0.rest.map CoreRange.item, ',' ∉ w := by
    have item : ∀ range : CoreRange, ',' ∉ range.item := fun _ =>
      CoreRange.not_mem_item (by decide) (by decide)
    simp [item]
  have first : cut ',' 1 node0.listing = List.replicate node0.blanks ' ' ++ node0.first.item := by
    rw [cut_one, Node0.listing_eq, List.splitOn_intercalate ',' commas (by simp), List.head?_cons,
      Option.getD_some]
  rw [numacpuRange, node0.cut_line, first]
  exact strip_indented node0.first.printable_item node0.blanks

end KvmWorkload.RunTestcases
