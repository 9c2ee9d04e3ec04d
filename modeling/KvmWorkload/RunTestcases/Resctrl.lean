import KvmWorkload.Lib.Fields
import KvmWorkload.Lib.Radix
import Mathlib.Data.List.Pairwise

/-! # Resource control groups

`config_resctrl_mba` and `config_resctrl_hwdrc` of run_testcases.sh create
control groups under /sys/fs/resctrl and write the tasks of the running VMs
into them.  A task is in one group; a write to a group's tasks file moves it.
The tasks are taken from the file that libvirt keeps for a running VM, by a
pipeline that finds the threads of the virtual CPUs but not the main process.
-/

namespace KvmWorkload.RunTestcases

/-- What the kernel knows of the machine. -/
structure ResctrlMachine where
  /-- How many groups there are classes of service for, beside the root group. -/
  room : Nat
  /-- The L3 domains, which a schemata line is addressed to. -/
  domains : List Nat
  /-- The bandwidth set for a percentage; some are refused. -/
  throttle : Nat → Option Nat
  /-- The bandwidth of a new group. -/
  full : Nat

/-- The mounted file system.  The group of a task is named by its directory; the root group, in
    which every task starts, has the empty name. -/
structure Resctrl where
  groups : List Text
  /-- How many more groups can be made. -/
  room : Nat
  /-- The bandwidth of a group on a domain. -/
  bandwidth : Text → Nat → Nat
  group : Nat → Text

/-- The domain and the value of a line `MB:domain=value`. -/
def readSchemata (line : Text) : Option (Nat × Nat) :=
  match line.splitOn ':' with
  | [resource, setting] =>
      match setting.splitOn '=' with
      | [domain, value] =>
          if resource = "MB".toList then (readRadix 10 domain).bind fun d => (readRadix 10 value).map (d, ·)
          else none
      | _ => none
  | _ => none

namespace Resctrl

/-- A fresh mount. -/
def mounted (machine : ResctrlMachine) : Resctrl where
  groups := []
  room := machine.room
  bandwidth := fun _ _ => machine.full
  group := fun _ => []

/-- It fails when the directory is there and when no class of service is left. -/
def mkdir (fs : Resctrl) (name : Text) : Resctrl :=
  if fs.room = 0 ∨ name ∈ fs.groups then fs
  else { fs with groups := fs.groups ++ [name], room := fs.room - 1 }

/-- `echo line > /sys/fs/resctrl/name/schemata`.  A line for an unknown domain is refused. -/
def writeSchemata (machine : ResctrlMachine) (fs : Resctrl) (name line : Text) : Resctrl :=
  match readSchemata line with
  | some (domain, value) =>
      match machine.throttle value with
      | some bandwidth =>
          if name ∈ fs.groups ∧ domain ∈ machine.domains then
            { fs with
              bandwidth := fun g d => if g = name ∧ d = domain then bandwidth else fs.bandwidth g d }
          else fs
      | none => fs
  | none => fs

/-- Without the directory the redirection fails; with an empty name the file is that of the root
    group. -/
def moveTask (fs : Resctrl) (name : Text) (task : Nat) : Resctrl :=
  if name = [] ∨ name ∈ fs.groups then
    { fs with group := fun t => if t = task then name else fs.group t }
  else fs

/-- `echo process > /sys/fs/resctrl/name/tasks`.  The kernel takes nothing but a number. -/
def writeTask (fs : Resctrl) (name process : Text) : Resctrl :=
  match readRadix 10 process with
  | some task => fs.moveTask name task
  | none => fs

end Resctrl

/-- The quote that libvirt puts around a value. -/
def quote : Char := Char.ofNat 39

def xmlAttribute (name value : Text) : Text := name ++ '=' :: quote :: (value ++ [quote])

/-- A line of the file below its first one. -/
inductive StatusLine where
  | vcpu (id pid : Nat)
  | other (line : Text)

def StatusLine.text : StatusLine → Text
  | .vcpu id pid =>
      "    ".toList ++ [' '].intercalate
        ["<vcpu".toList, xmlAttribute "id".toList (decimal id),
          xmlAttribute "pid".toList (decimal pid) ++ "/>".toList]
  | .other line => line

def StatusLine.thread : StatusLine → Option Nat
  | .vcpu _ pid => some pid
  | .other _ => none

/-- Process ids stand in the lines of the virtual CPUs only. -/
def StatusLine.Clean : StatusLine → Prop
  | .vcpu _ _ => True
  | .other line => ¬ "pid".toList <:+: line

/-- A running VM, with what is in /var/run/libvirt/qemu/$name.xml. -/
structure Vm where
  name : Text
  /-- Why it runs, such as `booted`. -/
  reason : Text
  pid : Nat
  lines : List StatusLine
  word : reason ≠ [] ∧ ∀ c ∈ reason, c.isAlpha = true
  clean : ∀ line ∈ lines, line.Clean
  running : lines.filterMap StatusLine.thread ≠ []

namespace Vm

/-- The threads of the virtual CPUs. -/
def vcpus (vm : Vm) : List Nat := vm.lines.filterMap StatusLine.thread

def tasks (vm : Vm) : List Nat := vm.pid :: vm.vcpus

/-- The line of the main process: `<domstatus state=.. reason=.. pid=..>`. -/
def domstatus (vm : Vm) : Text :=
  [' '].intercalate
    ["<domstatus".toList, xmlAttribute "state".toList "running".toList, xmlAttribute "reason".toList vm.reason,
      xmlAttribute "pid".toList (decimal vm.pid) ++ ">".toList]

def xml (vm : Vm) : List Text := vm.domstatus :: vm.lines.map StatusLine.text

end Vm

/-- `cat $vm_name.xml | grep pid | awk '{print $3}' | cut -d\' -f2`, as the words of a loop. -/
def pidList (xml : List Text) : List Text :=
  (xml.filter (contains "pid".toList)).flatMap fun line => wordsOf isBlank (cut quote 2 (field 3 line))

/-- The inner loops: what is found of one VM is written to one group. -/
def writeVm (name : Text) (fs : Resctrl) (vm : Vm) : Resctrl :=
  (pidList vm.xml).foldl (fun fs process => fs.writeTask name process) fs

/-- An entry `cos=value` of `MBA_COS_VAL`. -/
structure MbaEntry where
  cos : Nat
  value : Nat

def MbaEntry.text (entry : MbaEntry) : Text := decimal entry.cos ++ '=' :: decimal entry.value

/-- The group `mclos$clos`. -/
def mclos (clos : Text) : Text := "mclos".toList ++ clos

/-- The loop over `MBA_COS_VAL`: groups are numbered by the position of their entry. -/
def createLoop (machine : ResctrlMachine) : List Text → Nat → Resctrl → Resctrl
  | [], _, fs => fs
  | cosVal :: rest, clos, fs =>
      createLoop machine rest (clos + 1)
        ((fs.mkdir (mclos (decimal clos))).writeSchemata machine (mclos (decimal clos)) ("MB:".toList ++ cosVal))

/-- `config_resctrl_mba`, with the names that `virsh list --name` printed. -/
def configResctrlMba (machine : ResctrlMachine) (mbaCosVal mbaCosWl : Text) (vmNameList : List Vm) : Resctrl :=
  let fs := createLoop machine (commaWords mbaCosVal) 0 (.mounted machine)
  (commaWords mbaCosWl).foldl
    (fun fs clos => vmNameList.foldl (writeVm (mclos clos)) fs) fs

/-- The groups that the init script creates. -/
def hwdrcGroups : List Text :=
  ["C01".toList, "C02".toList, "C03".toList, "C04".toList, "C05".toList, "C06".toList, "C07".toList,
   "C08".toList, "C09".toList, "C10".toList, "C11".toList, "C12".toList, "C13".toList, "C14".toList]

/-- `init_resctrl` of resctrl_config.inc.sh. -/
def initResctrl (machine : ResctrlMachine) : Resctrl := hwdrcGroups.foldl Resctrl.mkdir (.mounted machine)

/-- The value of an arithmetic expression of numbers and commas: that of its last operand. -/
def commaValue (text : Text) : Nat := ((text.splitOn ',').getLast?.map readDecimal).getD 0

/-- The words of an unquoted expansion, `${list}`. -/
def blankWords (list : Text) : List Text := (list.splitOn ' ').filter (· ≠ [])

/-- One turn of the loop over `${HWDRC_COS_WL}`. -/
def closName (clos : Text) : Text :=
  if commaValue clos ≥ 10 then "C".toList ++ clos else "C0".toList ++ clos

/-- `config_resctrl_hwdrc`.  The list is not split at its commas. -/
def configResctrlHwdrc (machine : ResctrlMachine) (hwdrcCosWl : Text) (vmNameList : List Vm) : Resctrl :=
  let closList := (blankWords hwdrcCosWl).map closName
  vmNameList.zipIdx.foldl (fun fs (vm, index) => writeVm (closList.getD index []) fs vm) (initResctrl machine)

/-- A VM with its entries in the two COS lists. -/
structure ConfiguredVm where
  vm : Vm
  mbaCos : Nat
  hwdrcCos : Nat

/-- The configured VMs, and the order in which `virsh` lists them. -/
structure Setup where
  configured : List ConfiguredVm
  listed : List Vm
  order : listed.Perm (configured.map ConfiguredVm.vm)
  distinct : (listed.flatMap Vm.tasks).Nodup

/-- The comma-separated list of one COS for each VM. -/
def cosText (cosWl : List Nat) : Text := [','].intercalate (cosWl.map decimal)

/-- `MBA_COS_VAL`. -/
def valText (entries : List MbaEntry) : Text := [','].intercalate (entries.map MbaEntry.text)

def Setup.mbaCosWl (setup : Setup) : List Nat := setup.configured.map ConfiguredVm.mbaCos

def Setup.hwdrcCosWl (setup : Setup) : List Nat := setup.configured.map ConfiguredVm.hwdrcCos

def mbaGroup (cos : Nat) : Text := mclos (decimal cos)

/-- The group that stands for a COS of the HWDRC list. -/
def hwdrcGroup (cos : Nat) : Text :=
  if cos ≥ 10 then "C".toList ++ decimal cos else "C0".toList ++ decimal cos

/-- The tasks of every VM are in the group of the VM's COS, which was created and has on every domain
    the value that `MBA_COS_VAL` gives to this COS. -/
def MbaAssigned (machine : ResctrlMachine) (tasks : Vm → List Nat) (setup : Setup) (entries : List MbaEntry)
    (fs : Resctrl) : Prop :=
  ∀ vm ∈ setup.configured,
    (∀ task ∈ tasks vm.vm, fs.group task = mbaGroup vm.mbaCos) ∧ mbaGroup vm.mbaCos ∈ fs.groups ∧
      ∃ entry ∈ entries, entry.cos = vm.mbaCos ∧ ∀ domain ∈ machine.domains,
        machine.throttle entry.value = some (fs.bandwidth (mbaGroup vm.mbaCos) domain)

/-- The tasks of every VM are in the group of the VM's COS, which was created. -/
def HwdrcAssigned (tasks : Vm → List Nat) (setup : Setup) (fs : Resctrl) : Prop :=
  ∀ vm ∈ setup.configured,
    (∀ task ∈ tasks vm.vm, fs.group task = hwdrcGroup vm.hwdrcCos) ∧ hwdrcGroup vm.hwdrcCos ∈ fs.groups

/-- The bandwidth that the line of an entry leaves on a domain of a new group. -/
def MbaEntry.leaves (machine : ResctrlMachine) (entry : MbaEntry) (domain : Nat) : Nat :=
  if domain = entry.cos then (machine.throttle entry.value).getD machine.full else machine.full

theorem solid_xmlAttribute {name value : Text} (left : ∀ c ∈ name, isBlank c = false)
    (right : ∀ c ∈ value, isBlank c = false) : ∀ c ∈ xmlAttribute name value, isBlank c = false := by
  intro c member
  simp only [xmlAttribute, List.mem_append, List.mem_cons, List.not_mem_nil, or_false] at member
  obtain inside | rfl | rfl | inside | rfl := member
  · exact left c inside
  · rfl
  · rfl
  · exact right c inside
  · rfl

theorem cut_xmlAttribute {name value : Text} (left : quote ∉ name) (right : quote ∉ value) (rest : Text) :
    cut quote 2 (xmlAttribute name value ++ rest) = value := by
  have shape : xmlAttribute name value ++ rest = (name ++ ['=']) ++ quote :: (value ++ quote :: rest) := by
    simp [xmlAttribute]
  have front : quote ∉ name ++ ['='] := by
    simp only [List.mem_append, List.mem_singleton, not_or]
    exact ⟨left, by decide⟩
  rw [cut, if_pos (by rw [shape]; simp), shape, List.splitOn_append_cons_self, List.splitOn_append_cons_self,
    splitOn_of_not_mem front, splitOn_of_not_mem right]
  rfl

theorem solid_of_isAlphanum {text : Text} (plain : ∀ c ∈ text, c.isAlphanum = true) :
    (∀ c ∈ text, isBlank c = false) ∧ quote ∉ text := by
  refine ⟨fun c member => ?_, fun member => absurd (plain quote member) (by decide)⟩
  have blank : c ≠ ' ' := fun same => absurd (plain c member) (by rw [same]; decide)
  have tab : c ≠ '\t' := fun same => absurd (plain c member) (by rw [same]; decide)
  simp [isBlank, blank, tab]

theorem isAlphanum_of_mem_decimal (n : Nat) : ∀ c ∈ decimal n, c.isAlphanum = true := by
  intro c member
  exact isAlphanum_of_isDigit (isDigit_of_mem_decimal member)

theorem solid_of_all {text : Text} (checked : (text.all fun c => !isBlank c) = true) : ∀ c ∈ text, isBlank c = false :=
  fun c member => by simpa using List.all_eq_true.mp checked c member

theorem solid_pid (pid : Nat) {rest : Text} (solid : ∀ c ∈ rest, isBlank c = false) :
    ∀ c ∈ xmlAttribute "pid".toList (decimal pid) ++ rest, isBlank c = false := by
  intro c member
  rcases List.mem_append.mp member with inside | inside
  · exact solid_xmlAttribute (solid_of_all (by decide)) (solid_of_isAlphanum (isAlphanum_of_mem_decimal pid)).1 c inside
  · exact solid c inside

theorem field_vcpu (id pid : Nat) :
    field 3 (StatusLine.vcpu id pid).text = xmlAttribute "pid".toList (decimal pid) ++ "/>".toList := by
  rw [field, StatusLine.text, wordsOf_blanks_append (List.all_eq_true.mp (by decide)), wordsOf_intercalate rfl]
  · rfl
  · simp only [List.mem_cons, List.not_mem_nil, or_false, forall_eq_or_imp, forall_eq]
    refine ⟨⟨by decide, solid_of_all (by decide)⟩, ⟨by simp [xmlAttribute], ?_⟩, by simp [xmlAttribute],
      solid_pid pid (solid_of_all (by decide))⟩
    exact solid_xmlAttribute (solid_of_all (by decide)) (solid_of_isAlphanum (isAlphanum_of_mem_decimal id)).1

namespace Vm

variable (vm : Vm)

theorem reason_isAlphanum : ∀ c ∈ vm.reason, c.isAlphanum = true := by
  intro c member
  simp [Char.isAlphanum, vm.word.2 c member]

theorem field_domstatus : field 3 vm.domstatus = xmlAttribute "reason".toList vm.reason := by
  rw [field, domstatus, wordsOf_intercalate rfl]
  · rfl
  · simp only [List.mem_cons, List.not_mem_nil, or_false, forall_eq_or_imp, forall_eq]
    refine ⟨⟨by decide, solid_of_all (by decide)⟩, ⟨by decide, solid_of_all (by decide)⟩, ⟨by simp [xmlAttribute], ?_⟩,
      by simp [xmlAttribute], solid_pid vm.pid (solid_of_all (by decide))⟩
    exact solid_xmlAttribute (solid_of_all (by decide)) (solid_of_isAlphanum vm.reason_isAlphanum).1

theorem contains_domstatus : contains "pid".toList vm.domstatus = true := by
  rw [contains_iff]
  refine ⟨"<domstatus ".toList ++ xmlAttribute "state".toList "running".toList ++ ' ' ::
    xmlAttribute "reason".toList vm.reason ++ [' '], '=' :: quote :: decimal vm.pid ++ quote :: ">".toList, ?_⟩
  simp [domstatus, xmlAttribute]

end Vm

theorem contains_vcpu (id pid : Nat) : contains "pid".toList (StatusLine.vcpu id pid).text = true := by
  rw [contains_iff]
  refine ⟨"    <vcpu ".toList ++ xmlAttribute "id".toList (decimal id) ++ [' '],
    '=' :: quote :: decimal pid ++ quote :: "/>".toList, ?_⟩
  simp [StatusLine.text, xmlAttribute]

theorem wordsOf_value {value : Text} (more : value ≠ []) (plain : ∀ c ∈ value, c.isAlphanum = true) {name : Text}
    (clean : quote ∉ name) (rest : Text) :
    wordsOf isBlank (cut quote 2 (xmlAttribute name value ++ rest)) = [value] := by
  obtain ⟨solid, right⟩ := solid_of_isAlphanum plain
  rw [cut_xmlAttribute clean right, wordsOf_of_solid solid more]

theorem pidList_lines {lines : List StatusLine} (clean : ∀ line ∈ lines, line.Clean) :
    pidList (lines.map StatusLine.text) = (lines.filterMap StatusLine.thread).map decimal := by
  induction lines with
  | nil => rfl
  | cons line rest ih =>
      obtain ⟨here, later⟩ := List.forall_mem_cons.mp clean
      rw [List.map_cons, pidList, List.filter_cons]
      cases line with
      | vcpu id pid =>
          rw [if_pos (contains_vcpu id pid), List.flatMap_cons, field_vcpu,
            wordsOf_value (decimal_ne_nil pid) (isAlphanum_of_mem_decimal pid) (by decide)]
          exact congrArg (decimal pid :: ·) (ih later)
      | other line =>
          have absent : ¬ contains "pid".toList (StatusLine.other line).text = true := by
            rw [contains_iff]
            exact here
          rw [if_neg absent]
          exact ih later

theorem Vm.pidList_xml (vm : Vm) : pidList vm.xml = vm.reason :: vm.vcpus.map decimal := by
  have first : wordsOf isBlank (cut quote 2 (xmlAttribute "reason".toList vm.reason)) = [vm.reason] := by
    rw [← List.append_nil (xmlAttribute _ _), wordsOf_value vm.word.1 vm.reason_isAlphanum (by decide)]
  rw [xml, pidList, List.filter_cons, if_pos vm.contains_domstatus, List.flatMap_cons, vm.field_domstatus, first]
  exact congrArg (vm.reason :: ·) (pidList_lines vm.clean)

theorem Vm.readRadix_reason (vm : Vm) : readRadix 10 vm.reason = none := by
  obtain ⟨more, letters⟩ := vm.word
  obtain ⟨c, rest, shape⟩ := List.exists_cons_of_ne_nil more
  rw [shape]
  exact readRadix_of_isAlpha (letters c (by rw [shape]; exact List.mem_cons_self)) rest

theorem writeVm_eq (name : Text) (fs : Resctrl) (vm : Vm) :
    writeVm name fs vm = vm.vcpus.foldl (fun fs task => fs.moveTask name task) fs := by
  have refused : fs.writeTask name vm.reason = fs := by
    rw [Resctrl.writeTask, vm.readRadix_reason]
  rw [writeVm, vm.pidList_xml, List.foldl_cons, refused, List.foldl_map]
  simp only [Resctrl.writeTask, readRadix_decimal]

/-- A group that a task can be written to. -/
def Resctrl.Writable (fs : Resctrl) (name : Text) : Prop := name = [] ∨ name ∈ fs.groups

theorem Resctrl.moveTask_groups (fs : Resctrl) (name : Text) (task : Nat) :
    (fs.moveTask name task).groups = fs.groups ∧ (fs.moveTask name task).bandwidth = fs.bandwidth := by
  rw [moveTask]
  split <;> exact ⟨rfl, rfl⟩

/-- Writing changes no group directory. -/
theorem writeVm_groups (name : Text) (fs : Resctrl) (vm : Vm) :
    (writeVm name fs vm).groups = fs.groups ∧ (writeVm name fs vm).bandwidth = fs.bandwidth := by
  rw [writeVm_eq]
  induction vm.vcpus generalizing fs with
  | nil => exact ⟨rfl, rfl⟩
  | cons task rest ih =>
      obtain ⟨groups, bandwidth⟩ := fs.moveTask_groups name task
      rw [List.foldl_cons, (ih _).1, (ih _).2]
      exact ⟨groups, bandwidth⟩

theorem writeVm_group {name : Text} {fs : Resctrl} (writable : fs.Writable name) (vm : Vm) (task : Nat) :
    (writeVm name fs vm).group task = if task ∈ vm.vcpus then name else fs.group task := by
  rw [writeVm_eq]
  induction vm.vcpus generalizing fs with
  | nil => simp
  | cons first rest ih =>
      have moved : fs.moveTask name first =
          { fs with group := fun t => if t = first then name else fs.group t } := if_pos writable
      have still : (fs.moveTask name first).Writable name := by rw [moved]; exact writable
      rw [List.foldl_cons, ih still, moved]
      by_cases here : task = first
      · simp [here]
      · simp [here]

theorem writeVm_of_not_writable {name : Text} {fs : Resctrl} (missing : ¬ fs.Writable name) (vm : Vm) :
    writeVm name fs vm = fs := by
  rw [writeVm_eq]
  induction vm.vcpus with
  | nil => rfl
  | cons task rest ih =>
      have failed : fs.moveTask name task = fs := if_neg missing
      rw [List.foldl_cons, failed, ih]

theorem writeVm_group_of_not_mem (name : Text) (fs : Resctrl) {vm : Vm} {task : Nat} (other : task ∉ vm.vcpus) :
    (writeVm name fs vm).group task = fs.group task := by
  by_cases writable : fs.Writable name
  · rw [writeVm_group writable, if_neg other]
  · rw [writeVm_of_not_writable writable]

theorem foldl_writeVm_groups (name : Text) (vms : List Vm) (fs : Resctrl) :
    (vms.foldl (writeVm name) fs).groups = fs.groups ∧
      (vms.foldl (writeVm name) fs).bandwidth = fs.bandwidth := by
  induction vms generalizing fs with
  | nil => exact ⟨rfl, rfl⟩
  | cons vm rest ih =>
      obtain ⟨groups, bandwidth⟩ := writeVm_groups name fs vm
      rw [List.foldl_cons, (ih _).1, (ih _).2]
      exact ⟨groups, bandwidth⟩

theorem foldl_writeVm_group {name : Text} {fs : Resctrl} (writable : fs.Writable name) {vms : List Vm}
    {vm : Vm} (member : vm ∈ vms) {task : Nat} (running : task ∈ vm.vcpus) :
    (vms.foldl (writeVm name) fs).group task = name := by
  have stays : ∀ (vms : List Vm) (fs : Resctrl), fs.Writable name → fs.group task = name →
      (vms.foldl (writeVm name) fs).group task = name := by
    intro vms
    induction vms with
    | nil => exact fun _ _ here => here
    | cons vm rest ih =>
        intro fs writable here
        refine ih _ ?_ ?_
        · rw [Resctrl.Writable, (writeVm_groups name fs vm).1]
          exact writable
        · rw [writeVm_group writable, here, ite_self]
  induction vms generalizing fs with
  | nil => cases member
  | cons first rest ih =>
      have still : (writeVm name fs first).Writable name := by
        rw [Resctrl.Writable, (writeVm_groups name fs first).1]
        exact writable
      rcases List.mem_cons.mp member with rfl | later
      · refine stays rest _ still ?_
        rw [writeVm_group writable, if_pos running]
      · exact ih still later

theorem foldl_writeVm_group_of_not_mem (name : Text) {vms : List Vm} {task : Nat}
    (other : ∀ vm ∈ vms, task ∉ vm.vcpus) (fs : Resctrl) :
    (vms.foldl (writeVm name) fs).group task = fs.group task := by
  induction vms generalizing fs with
  | nil => rfl
  | cons vm rest ih =>
      obtain ⟨here, later⟩ := List.forall_mem_cons.mp other
      rw [List.foldl_cons, ih later, writeVm_group_of_not_mem name fs here]

theorem Setup.pid_not_mem (setup : Setup) {vm : ConfiguredVm} (member : vm ∈ setup.configured) :
    ∀ other ∈ setup.listed, vm.vm.pid ∉ other.vcpus := by
  intro other inside found
  have here : vm.vm ∈ setup.listed := setup.order.mem_iff.mpr (List.mem_map_of_mem member)
  obtain ⟨each, apart⟩ := List.nodup_flatMap.mp setup.distinct
  by_cases same : vm.vm = other
  · rw [← same] at found
    exact (List.nodup_cons.mp (each vm.vm here)).1 found
  · have symmetric : Std.Symm (Function.onFun List.Disjoint Vm.tasks) := ⟨fun _ _ apart _ left right => apart right left⟩
    exact apart.forall here inside same List.mem_cons_self (List.mem_cons_of_mem _ found)

theorem mbaGroup_injective : Function.Injective mbaGroup :=
  fun _ _ same => decimal_injective (List.append_cancel_left same)

theorem readSchemata_entry (entry : MbaEntry) :
    readSchemata ("MB:".toList ++ entry.text) = some (entry.cos, entry.value) := by
  have equals : ∀ n, '=' ∉ decimal n := fun n => not_mem_decimal (by decide)
  have colon : ':' ∉ entry.text := by
    simp only [MbaEntry.text, List.mem_append, List.mem_cons, not_or]
    exact ⟨not_mem_decimal (by decide), by decide, not_mem_decimal (by decide)⟩
  have line : ("MB:".toList ++ entry.text).splitOn ':' = ["MB".toList, entry.text] := by
    rw [show "MB:".toList ++ entry.text = "MB".toList ++ ':' :: entry.text from rfl, List.splitOn_append_cons_self,
      splitOn_of_not_mem colon, splitOn_of_not_mem (by decide)]
    rfl
  have setting : entry.text.splitOn '=' = [decimal entry.cos, decimal entry.value] := by
    rw [MbaEntry.text, List.splitOn_append_cons_self, splitOn_of_not_mem (equals _), splitOn_of_not_mem (equals _)]
    rfl
  simp only [readSchemata, line, setting, if_true, readRadix_decimal]
  rfl

section Create

variable (machine : ResctrlMachine)

/-- The groups from a number on are not there and have lost no bandwidth. -/
def Fresh (clos : Nat) (fs : Resctrl) : Prop :=
  ∀ cos, clos ≤ cos → mbaGroup cos ∉ fs.groups ∧ ∀ domain, fs.bandwidth (mbaGroup cos) domain = machine.full

/-- One turn of the loop over `MBA_COS_VAL`. -/
def createTurn (clos : Nat) (entry : MbaEntry) (fs : Resctrl) : Resctrl :=
  (fs.mkdir (mbaGroup clos)).writeSchemata machine (mbaGroup clos) ("MB:".toList ++ entry.text)

variable {machine}

theorem writeSchemata_kept (machine : ResctrlMachine) (fs : Resctrl) (name line : Text) :
    (fs.writeSchemata machine name line).groups = fs.groups ∧ (fs.writeSchemata machine name line).room = fs.room ∧
      (fs.writeSchemata machine name line).group = fs.group ∧
      ∀ g ≠ name, (fs.writeSchemata machine name line).bandwidth g = fs.bandwidth g := by
  unfold Resctrl.writeSchemata
  split
  · split
    · split
      · refine ⟨rfl, rfl, rfl, fun g other => funext fun d => ?_⟩
        exact if_neg fun same => other same.1
      · exact ⟨rfl, rfl, rfl, fun _ _ => rfl⟩
    · exact ⟨rfl, rfl, rfl, fun _ _ => rfl⟩
  · exact ⟨rfl, rfl, rfl, fun _ _ => rfl⟩

theorem writeSchemata_entry {fs : Resctrl} {name : Text} (present : name ∈ fs.groups) (entry : MbaEntry)
    {domain : Nat} (known : domain ∈ machine.domains) :
    (fs.writeSchemata machine name ("MB:".toList ++ entry.text)).bandwidth name domain =
      if domain = entry.cos then (machine.throttle entry.value).getD (fs.bandwidth name domain)
      else fs.bandwidth name domain := by
  simp only [Resctrl.writeSchemata, readSchemata_entry]
  cases machine.throttle entry.value with
  | none => simp
  | some bandwidth =>
      dsimp only
      by_cases here : domain = entry.cos
      · rw [if_pos ⟨present, here ▸ known⟩, if_pos here]
        exact if_pos ⟨rfl, here⟩
      · rw [if_neg here]
        split
        · exact if_neg fun same => here same.2
        · rfl

theorem mkdir_kept (fs : Resctrl) (name : Text) :
    (fs.mkdir name).bandwidth = fs.bandwidth ∧ (fs.mkdir name).group = fs.group := by
  rw [Resctrl.mkdir]
  split <;> exact ⟨rfl, rfl⟩

theorem createTurn_kept (clos : Nat) (entry : MbaEntry) (fs : Resctrl) :
    (createTurn machine clos entry fs).group = fs.group ∧
      ∀ g ≠ mbaGroup clos, (createTurn machine clos entry fs).bandwidth g = fs.bandwidth g := by
  obtain ⟨-, -, group, others⟩ := writeSchemata_kept machine (fs.mkdir (mbaGroup clos)) (mbaGroup clos)
    ("MB:".toList ++ entry.text)
  obtain ⟨bandwidth, group'⟩ := mkdir_kept fs (mbaGroup clos)
  refine ⟨group.trans group', fun g other => ?_⟩
  rw [createTurn, others g other, bandwidth]

section Turn

variable {clos : Nat} {fs : Resctrl} (fresh : Fresh machine clos fs) (entry : MbaEntry)

include fresh

/-- Without a class of service a turn does nothing. -/
theorem createTurn_of_full (full : fs.room = 0) : createTurn machine clos entry fs = fs := by
  have failed : fs.mkdir (mbaGroup clos) = fs := if_pos (.inl full)
  rw [createTurn, failed, Resctrl.writeSchemata, readSchemata_entry]
  dsimp only
  split
  · exact if_neg fun present => (fresh clos le_rfl).1 present.1
  · rfl

theorem createTurn_groups (more : fs.room ≠ 0) :
    (createTurn machine clos entry fs).groups = fs.groups ++ [mbaGroup clos] ∧
      (createTurn machine clos entry fs).room = fs.room - 1 ∧
      ∀ domain ∈ machine.domains,
        (createTurn machine clos entry fs).bandwidth (mbaGroup clos) domain = entry.leaves machine domain := by
  have made : fs.mkdir (mbaGroup clos) = { fs with groups := fs.groups ++ [mbaGroup clos], room := fs.room - 1 } :=
    if_neg (not_or.mpr ⟨more, (fresh clos le_rfl).1⟩)
  obtain ⟨groups, room, -⟩ := writeSchemata_kept machine (fs.mkdir (mbaGroup clos)) (mbaGroup clos)
    ("MB:".toList ++ entry.text)
  refine ⟨?_, ?_, fun domain known => ?_⟩
  · rw [createTurn, groups, made]
  · rw [createTurn, room, made]
  · have present : mbaGroup clos ∈ (fs.mkdir (mbaGroup clos)).groups := by
      rw [made]
      exact List.mem_append_right _ List.mem_cons_self
    rw [createTurn, writeSchemata_entry present entry known, (mkdir_kept fs _).1, (fresh clos le_rfl).2,
      MbaEntry.leaves]

theorem Fresh.createTurn : Fresh machine (clos + 1) (createTurn machine clos entry fs) := by
  intro cos later
  have other : mbaGroup cos ≠ mbaGroup clos := fun same => by
    have := mbaGroup_injective same
    omega
  refine ⟨?_, fun domain => ?_⟩
  · by_cases full : fs.room = 0
    · rw [createTurn_of_full fresh entry full]
      exact (fresh cos (by omega)).1
    · rw [(createTurn_groups fresh entry full).1]
      simp [other, (fresh cos (by omega)).1]
  · rw [(createTurn_kept clos entry fs).2 _ other]
    exact (fresh cos (by omega)).2 domain

end Turn

theorem createLoop_cons (entry : MbaEntry) (rest : List MbaEntry) (clos : Nat) (fs : Resctrl) :
    createLoop machine ((entry :: rest).map MbaEntry.text) clos fs =
      createLoop machine (rest.map MbaEntry.text) (clos + 1) (createTurn machine clos entry fs) := rfl

theorem createLoop_group (entries : List MbaEntry) (clos : Nat) (fs : Resctrl) :
    (createLoop machine (entries.map MbaEntry.text) clos fs).group = fs.group := by
  induction entries generalizing clos fs with
  | nil => rfl
  | cons entry rest ih => rw [createLoop_cons, ih, (createTurn_kept clos entry fs).1]

theorem createLoop_earlier (entries : List MbaEntry) {clos : Nat} {fs : Resctrl} (fresh : Fresh machine clos fs)
    {cos : Nat} (earlier : cos < clos) :
    (mbaGroup cos ∈ (createLoop machine (entries.map MbaEntry.text) clos fs).groups ↔ mbaGroup cos ∈ fs.groups) ∧
      (createLoop machine (entries.map MbaEntry.text) clos fs).bandwidth (mbaGroup cos) =
        fs.bandwidth (mbaGroup cos) := by
  induction entries generalizing clos fs with
  | nil => exact ⟨Iff.rfl, rfl⟩
  | cons entry rest ih =>
      have other : mbaGroup cos ≠ mbaGroup clos := fun same => by
        have := mbaGroup_injective same
        omega
      obtain ⟨groups, bandwidth⟩ := ih (fresh.createTurn entry) (by omega)
      rw [createLoop_cons, groups, bandwidth, (createTurn_kept clos entry fs).2 _ other]
      refine ⟨?_, rfl⟩
      by_cases full : fs.room = 0
      · rw [createTurn_of_full fresh entry full]
      · rw [(createTurn_groups fresh entry full).1]
        simp [other]

theorem createLoop_later (entries : List MbaEntry) {clos : Nat} {fs : Resctrl} (fresh : Fresh machine clos fs)
    (i : Nat) :
    (mbaGroup (clos + i) ∈ (createLoop machine (entries.map MbaEntry.text) clos fs).groups ↔
        i < entries.length ∧ i < fs.room) ∧
      ∀ entry, entries[i]? = some entry → i < fs.room → ∀ domain ∈ machine.domains,
        (createLoop machine (entries.map MbaEntry.text) clos fs).bandwidth (mbaGroup (clos + i)) domain =
          entry.leaves machine domain := by
  induction entries generalizing clos fs i with
  | nil => simpa [createLoop] using (fresh (clos + i) (by omega)).1
  | cons first rest ih =>
      rw [createLoop_cons]
      cases i with
      | zero =>
          obtain ⟨groups, bandwidth⟩ := createLoop_earlier rest (fresh.createTurn first) (Nat.lt_succ_self clos)
          rw [Nat.add_zero clos, groups, bandwidth]
          by_cases full : fs.room = 0
          · rw [createTurn_of_full fresh first full]
            simp [full, (fresh clos le_rfl).1]
          · obtain ⟨made, -, left⟩ := createTurn_groups fresh first full
            rw [made]
            refine ⟨by simp [Nat.pos_of_ne_zero full], fun entry found _ => ?_⟩
            cases found
            exact left
      | succ i =>
          obtain ⟨groups, bandwidth⟩ := ih (fresh.createTurn first) i
          rw [Nat.add_right_comm, Nat.add_assoc] at groups bandwidth
          by_cases full : fs.room = 0
          · rw [createTurn_of_full fresh first full] at groups bandwidth ⊢
            rw [groups]
            simp [full]
          · rw [(createTurn_groups fresh first full).2.1] at groups bandwidth
            rw [groups, List.length_cons]
            refine ⟨by omega, fun entry found room => bandwidth entry found (by omega)⟩

theorem fresh_mounted (machine : ResctrlMachine) : Fresh machine 0 (.mounted machine) := fun _ _ => ⟨List.not_mem_nil, fun _ => rfl⟩

end Create

/-- The state in which the loop over `MBA_COS_VAL` leaves the file system. -/
def mbaMounted (machine : ResctrlMachine) (entries : List MbaEntry) : Resctrl :=
  createLoop machine (entries.map MbaEntry.text) 0 (.mounted machine)

theorem mbaMounted_groups (machine : ResctrlMachine) (entries : List MbaEntry) (cos : Nat) :
    mbaGroup cos ∈ (mbaMounted machine entries).groups ↔ cos < entries.length ∧ cos < machine.room := by
  have created := (createLoop_later entries (fresh_mounted machine) cos).1
  rwa [Nat.zero_add] at created

theorem mbaMounted_bandwidth {machine : ResctrlMachine} {entries : List MbaEntry} {cos : Nat} {created : MbaEntry}
    (found : entries[cos]? = some created) (room : cos < machine.room) {domain : Nat}
    (known : domain ∈ machine.domains) :
    (mbaMounted machine entries).bandwidth (mbaGroup cos) domain = created.leaves machine domain := by
  have left := (createLoop_later entries (fresh_mounted machine) cos).2 created found room domain known
  rwa [Nat.zero_add] at left

theorem commaWords_cosText (cosWl : List Nat) : commaWords (cosText cosWl) = cosWl.map decimal := by
  refine commaWords_intercalate fun word member => ?_
  obtain ⟨cos, -, rfl⟩ := List.mem_map.mp member
  exact ⟨not_mem_decimal (by decide), decimal_ne_nil cos⟩

theorem commaWords_valText (entries : List MbaEntry) :
    commaWords (valText entries) = entries.map MbaEntry.text := by
  refine commaWords_intercalate fun word member => ?_
  obtain ⟨entry, -, rfl⟩ := List.mem_map.mp member
  have comma : ∀ n, ',' ∉ decimal n := fun n => not_mem_decimal (by decide)
  exact ⟨by simp [MbaEntry.text, comma], by simp [MbaEntry.text]⟩

/-- The two nested loops of `config_resctrl_mba`, one turn for each COS of the list. -/
def moveTurns (listed : List Vm) (cosWl : List Nat) (fs : Resctrl) : Resctrl :=
  cosWl.foldl (fun fs cos => listed.foldl (writeVm (mbaGroup cos)) fs) fs

theorem configResctrlMba_eq (machine : ResctrlMachine) (entries : List MbaEntry) (cosWl : List Nat)
    (listed : List Vm) :
    configResctrlMba machine (valText entries) (cosText cosWl) listed =
      moveTurns listed cosWl (mbaMounted machine entries) := by
  rw [configResctrlMba, commaWords_valText, commaWords_cosText, List.foldl_map]
  rfl

theorem moveTurns_groups (listed : List Vm) (cosWl : List Nat) (fs : Resctrl) :
    (moveTurns listed cosWl fs).groups = fs.groups ∧
      (moveTurns listed cosWl fs).bandwidth = fs.bandwidth := by
  induction cosWl generalizing fs with
  | nil => exact ⟨rfl, rfl⟩
  | cons cos rest ih =>
      obtain ⟨groups, bandwidth⟩ := foldl_writeVm_groups (mbaGroup cos) listed fs
      exact ⟨(ih _).1.trans groups, (ih _).2.trans bandwidth⟩

theorem moveTurns_group {listed : List Vm} {first : List Nat} {last : Nat} {fs : Resctrl}
    (created : mbaGroup last ∈ fs.groups) {vm : Vm} (member : vm ∈ listed) {task : Nat}
    (running : task ∈ vm.vcpus) :
    (moveTurns listed (first ++ [last]) fs).group task = mbaGroup last := by
  rw [moveTurns, List.foldl_append]
  refine foldl_writeVm_group (.inr ?_) member running
  rw [← moveTurns, (moveTurns_groups listed first fs).1]
  exact created

theorem moveTurns_group_of_not_mem {listed : List Vm} {task : Nat} (other : ∀ vm ∈ listed, task ∉ vm.vcpus)
    (cosWl : List Nat) (fs : Resctrl) : (moveTurns listed cosWl fs).group task = fs.group task := by
  induction cosWl generalizing fs with
  | nil => rfl
  | cons cos rest ih => exact (ih _).trans (foldl_writeVm_group_of_not_mem _ other fs)

theorem Setup.exists_last {setup : Setup} {vm : ConfiguredVm} (member : vm ∈ setup.configured) :
    ∃ first, ∃ final ∈ setup.configured, setup.mbaCosWl = first ++ [final.mbaCos] := by
  have more : setup.configured ≠ [] := List.ne_nil_of_mem member
  refine ⟨setup.configured.dropLast.map ConfiguredVm.mbaCos, setup.configured.getLast more,
    List.getLast_mem more, ?_⟩
  rw [← List.map_singleton, ← List.map_append, List.dropLast_append_getLast, Setup.mbaCosWl]

/-- The group with the number of a COS is made, and the line written to it leaves on every domain what
    is configured for this COS.  The line is that of the entry at the position of the number. -/
def GroupReady (machine : ResctrlMachine) (entries : List MbaEntry) (cos : Nat) : Prop :=
  cos < machine.room ∧ ∃ created, entries[cos]? = some created ∧
    ∃ entry ∈ entries, entry.cos = cos ∧ ∀ domain ∈ machine.domains,
      machine.throttle entry.value = some (created.leaves machine domain)

theorem mba_vcpus_assigned_iff (machine : ResctrlMachine) (setup : Setup) (entries : List MbaEntry) :
    MbaAssigned machine Vm.vcpus setup entries
        (configResctrlMba machine (valText entries) (cosText setup.mbaCosWl) setup.listed) ↔
      ∀ cos ∈ setup.mbaCosWl, (∀ cos' ∈ setup.mbaCosWl, cos' = cos) ∧ GroupReady machine entries cos := by
  have listed : ∀ vm ∈ setup.configured, vm.vm ∈ setup.listed := fun vm member =>
    setup.order.mem_iff.mpr (List.mem_map_of_mem member)
  have kept := moveTurns_groups setup.listed setup.mbaCosWl (mbaMounted machine entries)
  rw [configResctrlMba_eq, MbaAssigned, kept.1, kept.2]
  constructor
  · intro assigned cos inside
    obtain ⟨vm, member, rfl⟩ := List.mem_map.mp inside
    obtain ⟨first, final, finalMember, shape⟩ := Setup.exists_last member
    -- Every thread is where the last turn put it, so every VM has the last COS.
    have same : ∀ vm ∈ setup.configured, vm.mbaCos = final.mbaCos := by
      intro vm member
      obtain ⟨task, running⟩ := List.exists_mem_of_ne_nil _ vm.vm.running
      have here := (assigned vm member).1 task running
      rw [shape, moveTurns_group (assigned final finalMember).2.1 (listed vm member) running] at here
      exact (mbaGroup_injective here).symm
    constructor
    · intro cos' inside'
      obtain ⟨vm', member', rfl⟩ := List.mem_map.mp inside'
      rw [same vm member, same vm' member']
    · obtain ⟨-, created, entry, entryMember, cos, value⟩ := assigned vm member
      obtain ⟨inside, room⟩ := (mbaMounted_groups machine entries _).mp created
      have found := List.getElem?_eq_getElem inside
      refine ⟨room, _, found, entry, entryMember, cos, fun domain known => ?_⟩
      rw [value domain known, mbaMounted_bandwidth found room known]
  · intro uniform vm member
    obtain ⟨only, room, created, found, entry, entryMember, cos, value⟩ := uniform _ (List.mem_map_of_mem member)
    have made := (mbaMounted_groups machine entries _).mpr ⟨(List.getElem?_eq_some_iff.mp found).1, room⟩
    refine ⟨fun task running => ?_, made, entry, entryMember, cos, fun domain known => ?_⟩
    · obtain ⟨first, final, finalMember, shape⟩ := Setup.exists_last member
      rw [shape, only _ (List.mem_map_of_mem finalMember)]
      exact moveTurns_group made (listed vm member) running
    · rw [value domain known, mbaMounted_bandwidth found room known]

theorem mba_assigned_iff (machine : ResctrlMachine) (setup : Setup) (entries : List MbaEntry) :
    MbaAssigned machine Vm.tasks setup entries
        (configResctrlMba machine (valText entries) (cosText setup.mbaCosWl) setup.listed) ↔
      setup.configured = [] := by
  constructor
  · intro assigned
    by_contra some_vm
    obtain ⟨vm, member⟩ := List.exists_mem_of_ne_nil _ some_vm
    have here := (assigned vm member).1 vm.vm.pid List.mem_cons_self
    rw [configResctrlMba_eq, moveTurns_group_of_not_mem (setup.pid_not_mem member), mbaMounted,
      createLoop_group] at here
    cases here
  · intro none vm member
    rw [none] at member
    cases member

theorem foldl_mkdir {names : List Text} (distinct : names.Nodup) {fs : Resctrl}
    (absent : ∀ name ∈ names, name ∉ fs.groups) :
    (names.foldl Resctrl.mkdir fs).groups = fs.groups ++ names.take fs.room ∧
      (names.foldl Resctrl.mkdir fs).group = fs.group := by
  induction names generalizing fs with
  | nil => simp
  | cons name rest ih =>
      obtain ⟨here, later⟩ := List.forall_mem_cons.mp absent
      obtain ⟨single, distinct'⟩ := List.nodup_cons.mp distinct
      rw [List.foldl_cons]
      cases room : fs.room with
      | zero =>
          have failed : fs.mkdir name = fs := if_pos (.inl room)
          obtain ⟨groups, group⟩ := ih distinct' later
          rw [failed, groups, room]
          exact ⟨by simp, group⟩
      | succ room' =>
          have made : fs.mkdir name = { fs with groups := fs.groups ++ [name], room := fs.room - 1 } :=
            if_neg (by simp [room, here])
          have absent' : ∀ other ∈ rest, other ∉ (fs.mkdir name).groups := by
            intro other member
            rw [made]
            simp [later other member, ne_of_mem_of_not_mem member single]
          obtain ⟨groups, group⟩ := ih distinct' absent'
          rw [groups, group, made]
          simp [room]

theorem initResctrl_groups (machine : ResctrlMachine) :
    (initResctrl machine).groups = hwdrcGroups.take machine.room ∧ (initResctrl machine).group = fun _ => [] := by
  have distinct : hwdrcGroups.Nodup := by decide
  exact foldl_mkdir distinct fun _ _ => List.not_mem_nil

theorem hwdrcGroup_mem (machine : ResctrlMachine) (cos : Nat) :
    hwdrcGroup cos ∈ (initResctrl machine).groups ↔ 1 ≤ cos ∧ cos ≤ 14 ∧ cos ≤ machine.room := by
  have width : ∀ name ∈ hwdrcGroups, name.length = 3 := by decide
  have table : ∀ cos < 100, hwdrcGroup cos ∈ hwdrcGroups ↔ 1 ≤ cos ∧ cos ≤ 14 := by decide
  have place : ∀ cos < 15, hwdrcGroups.idxOf (hwdrcGroup (cos + 1)) = min cos 14 := by decide
  rw [(initResctrl_groups machine).1]
  by_cases small : cos < 100
  · by_cases member : hwdrcGroup cos ∈ hwdrcGroups
    · obtain ⟨low, high⟩ := (table cos small).mp member
      have index := place (cos - 1) (by omega)
      rw [Nat.sub_add_cancel low] at index
      rw [List.mem_take_iff_idxOf_lt member, index]
      omega
    · have outside := mt (table cos small).mpr member
      refine iff_of_false (fun inside => member (List.mem_of_mem_take inside)) (by omega)
  · refine iff_of_false (fun member => small ?_) (by omega)
    have three := width _ (List.mem_of_mem_take member)
    rw [hwdrcGroup, if_pos (by omega), List.length_append] at three
    have two : (decimal cos).length ≤ 2 := by
      have letter : ("C".toList : Text).length = 1 := rfl
      omega
    exact (Nat.length_toDigits_le_iff (by omega) (by omega)).mp two

theorem blankWords_cosText {cosWl : List Nat} (more : cosWl ≠ []) :
    blankWords (cosText cosWl) = [cosText cosWl] := by
  have blank : ' ' ∉ cosText cosWl := by
    intro member
    obtain ⟨word, inside, here⟩ := exists_of_mem_intercalate (by decide) member
    obtain ⟨cos, -, rfl⟩ := List.mem_map.mp inside
    exact not_mem_decimal (by decide) here
  have some : cosText cosWl ≠ [] := by
    obtain ⟨cos, rest, rfl⟩ := List.exists_cons_of_ne_nil more
    cases rest <;> simp [cosText, decimal_ne_nil]
  rw [blankWords, splitOn_of_not_mem blank]
  simp [some]

theorem closName_not_mem {cosWl : List Nat} (two : 2 ≤ cosWl.length) :
    closName (cosText cosWl) ∉ hwdrcGroups ∧ closName (cosText cosWl) ≠ [] := by
  have comma : ',' ∈ closName (cosText cosWl) := by
    have inside : ',' ∈ cosText cosWl := mem_intercalate (by simpa using two)
    rw [closName]
    split <;> exact List.mem_append_right _ inside
  have clean : ∀ name ∈ hwdrcGroups, ',' ∉ name := by decide
  exact ⟨fun member => clean _ member comma, List.ne_nil_of_mem comma⟩

theorem closName_decimal (cos : Nat) : closName (decimal cos) = hwdrcGroup cos := by
  have comma : ',' ∉ decimal cos := not_mem_decimal (by decide)
  have value : commaValue (decimal cos) = cos := by
    rw [commaValue, splitOn_of_not_mem comma]
    exact readDecimal_decimal cos
  rw [closName, value, hwdrcGroup]

theorem hwdrcTurns_root {closList : List Text} (missing : ∀ name ∈ closList, name ∉ hwdrcGroups)
    (turns : List (Vm × Nat)) (fs : Resctrl) (groups : ∀ name ∈ fs.groups, name ∈ hwdrcGroups)
    (root : ∀ task, fs.group task = []) :
    ∀ task, (turns.foldl (fun fs turn => writeVm (closList.getD turn.2 []) fs turn.1) fs).group task = [] := by
  induction turns generalizing fs with
  | nil => exact root
  | cons turn rest ih =>
      refine ih _ ?_ fun task => ?_
      · rw [(writeVm_groups _ _ _).1]
        exact groups
      change (writeVm (closList.getD turn.2 []) fs turn.1).group task = []
      by_cases writable : fs.Writable (closList.getD turn.2 [])
      · have empty : closList.getD turn.2 [] = [] := by
          rcases writable with empty | member
          · exact empty
          · have inside := groups _ member
            by_contra some
            rw [List.getD_eq_getElem?_getD] at some inside
            cases found : closList[turn.2]? with
            | none => exact some (by rw [found]; rfl)
            | some name =>
                rw [found] at inside
                exact missing name (List.mem_of_getElem? found) inside
        rw [writeVm_group writable, empty, root, ite_self]
      · rw [writeVm_of_not_writable writable, root]

theorem configResctrlHwdrc_many (machine : ResctrlMachine) {cosWl : List Nat} (two : 2 ≤ cosWl.length)
    (listed : List Vm) (task : Nat) : (configResctrlHwdrc machine (cosText cosWl) listed).group task = [] := by
  have more : cosWl ≠ [] := List.ne_nil_of_length_pos (by omega)
  obtain ⟨groups, group⟩ := initResctrl_groups machine
  rw [configResctrlHwdrc, blankWords_cosText more]
  refine hwdrcTurns_root ?_ listed.zipIdx (initResctrl machine) ?_ (fun task => congrFun group task) task
  · simpa using (closName_not_mem two).1
  · rw [groups]
    exact fun name member => List.mem_of_mem_take member

theorem configResctrlHwdrc_one (machine : ResctrlMachine) (cos : Nat) (vm : Vm) :
    configResctrlHwdrc machine (cosText [cos]) [vm] = writeVm (hwdrcGroup cos) (initResctrl machine) vm := by
  have text : cosText [cos] = decimal cos := by simp [cosText]
  rw [configResctrlHwdrc, blankWords_cosText (by simp), text, ← closName_decimal]
  rfl

theorem hwdrcGroup_ne_nil (cos : Nat) : hwdrcGroup cos ≠ [] := by
  rw [hwdrcGroup]
  split <;> simp

theorem hwdrc_vcpus_assigned_iff (machine : ResctrlMachine) (setup : Setup) :
    HwdrcAssigned Vm.vcpus setup (configResctrlHwdrc machine (cosText setup.hwdrcCosWl) setup.listed) ↔
      ∀ cos ∈ setup.hwdrcCosWl, setup.hwdrcCosWl = [cos] ∧ 1 ≤ cos ∧ cos ≤ 14 ∧ cos ≤ machine.room := by
  obtain ⟨configured, listed, order, distinct⟩ := setup
  simp only [HwdrcAssigned, Setup.hwdrcCosWl]
  match configured with
  | [] => simp
  | [vm] =>
      obtain rfl : listed = [vm.vm] := List.perm_singleton.mp order
      rw [List.map_singleton, configResctrlHwdrc_one, (writeVm_groups _ _ _).1]
      simp only [List.forall_mem_singleton, hwdrcGroup_mem, true_and]
      constructor
      · exact fun assigned => assigned.2
      · intro range
        refine ⟨fun task running => ?_, range⟩
        rw [writeVm_group (.inr ((hwdrcGroup_mem machine _).mpr range)), if_pos running]
  | first :: second :: rest =>
      have two : 2 ≤ ((first :: second :: rest).map ConfiguredVm.hwdrcCos).length := by simp
      refine iff_of_false (fun assigned => ?_) (fun single => ?_)
      · obtain ⟨task, running⟩ := List.exists_mem_of_ne_nil _ first.vm.running
        have here := (assigned first List.mem_cons_self).1 task running
        rw [configResctrlHwdrc_many machine two] at here
        exact hwdrcGroup_ne_nil _ here.symm
      · have := congrArg List.length (single first.hwdrcCos (by simp)).1
        simp at this

theorem hwdrcTurns_group_of_not_mem (closList : List Text) {turns : List (Vm × Nat)} {task : Nat}
    (other : ∀ turn ∈ turns, task ∉ turn.1.vcpus) (fs : Resctrl) :
    (turns.foldl (fun fs turn => writeVm (closList.getD turn.2 []) fs turn.1) fs).group task = fs.group task := by
  induction turns generalizing fs with
  | nil => rfl
  | cons turn rest ih =>
      obtain ⟨here, later⟩ := List.forall_mem_cons.mp other
      rw [List.foldl_cons, ih later, writeVm_group_of_not_mem _ fs here]

theorem hwdrc_assigned_iff (machine : ResctrlMachine) (setup : Setup) :
    HwdrcAssigned Vm.tasks setup (configResctrlHwdrc machine (cosText setup.hwdrcCosWl) setup.listed) ↔
      setup.configured = [] := by
  constructor
  · intro assigned
    by_contra some_vm
    obtain ⟨vm, member⟩ := List.exists_mem_of_ne_nil _ some_vm
    have here := (assigned vm member).1 vm.vm.pid List.mem_cons_self
    have root : (configResctrlHwdrc machine (cosText setup.hwdrcCosWl) setup.listed).group vm.vm.pid = [] := by
      refine (hwdrcTurns_group_of_not_mem _ (fun turn inside => ?_) (initResctrl machine)).trans
        (congrFun (initResctrl_groups machine).2 _)
      exact setup.pid_not_mem member _ (List.fst_mem_of_mem_zipIdx inside)
    exact hwdrcGroup_ne_nil _ (here.symm.trans root)
  · intro none vm member
    rw [none] at member
    cases member

/-- When the tasks end up in the configured groups.  The main process of a VM never does, so there must
    be no VM.  The threads of the virtual CPUs do in the bandwidth groups when all VMs share one COS
    whose group is ready, and in the HWDRC groups when there is one VM. -/
theorem resctrl_assigned_iff (machine : ResctrlMachine) (setup : Setup) (entries : List MbaEntry) :
    (MbaAssigned machine Vm.tasks setup entries
        (configResctrlMba machine (valText entries) (cosText setup.mbaCosWl) setup.listed) ↔
      setup.configured = []) ∧
    (HwdrcAssigned Vm.tasks setup (configResctrlHwdrc machine (cosText setup.hwdrcCosWl) setup.listed) ↔
      setup.configured = []) ∧
    (MbaAssigned machine Vm.vcpus setup entries
        (configResctrlMba machine (valText entries) (cosText setup.mbaCosWl) setup.listed) ↔
      ∀ cos ∈ setup.mbaCosWl, (∀ cos' ∈ setup.mbaCosWl, cos' = cos) ∧ GroupReady machine entries cos) ∧
    (HwdrcAssigned Vm.vcpus setup (configResctrlHwdrc machine (cosText setup.hwdrcCosWl) setup.listed) ↔
      ∀ cos ∈ setup.hwdrcCosWl, setup.hwdrcCosWl = [cos] ∧ 1 ≤ cos ∧ cos ≤ 14 ∧ cos ≤ machine.room) :=
  ⟨mba_assigned_iff machine setup entries, hwdrc_assigned_iff machine setup,
    mba_vcpus_assigned_iff machine setup entries, hwdrc_vcpus_assigned_iff machine setup⟩

theorem booted_word : "booted".toList ≠ [] ∧ ∀ c ∈ "booted".toList, c.isAlpha = true :=
  ⟨by decide, List.all_eq_true.mp (by decide)⟩

/-- A VM with one virtual CPU. -/
def bootedVm (name : Text) (pid thread : Nat) : Vm where
  name := name
  reason := "booted".toList
  pid := pid
  lines := [.vcpu 0 thread]
  word := booted_word
  clean := by simp [StatusLine.Clean]
  running := by simp [StatusLine.thread]

/-- The sample configuration with two VMs, in the order in which they are configured. -/
def sampleSetup : Setup where
  configured :=
    [{ vm := bootedVm "rn50".toList 100 101, mbaCos := 0, hwdrcCos := 4 },
     { vm := bootedVm "mlc".toList 200 201, mbaCos := 3, hwdrcCos := 7 }]
  listed := [bootedVm "rn50".toList 100 101, bootedVm "mlc".toList 200 201]
  order := List.Perm.refl _
  distinct := by decide

/-- Two sockets with fifteen classes beside that of the root group. -/
def twoDomains : ResctrlMachine where
  room := 15
  domains := [0, 1]
  throttle := fun value => if 10 ≤ value ∧ value ≤ 100 then some ((value + 9) / 10 * 10) else none
  full := 100

/-- With `MBA_COS_WL=0,3` and `MBA_COS_VAL=0=100,3=20` the main processes stay in the root group and the
    threads of both VMs end in the group of COS 0: a group `mclos3` does not exist.  With
    `HWDRC_COS_WL=4,7` everything stays in the root group. -/
theorem sampleSetup_not_assigned :
    (¬ MbaAssigned twoDomains Vm.tasks sampleSetup [⟨0, 100⟩, ⟨3, 20⟩]
      (configResctrlMba twoDomains "0=100,3=20".toList "0,3".toList sampleSetup.listed)) ∧
    (¬ MbaAssigned twoDomains Vm.vcpus sampleSetup [⟨0, 100⟩, ⟨3, 20⟩]
      (configResctrlMba twoDomains "0=100,3=20".toList "0,3".toList sampleSetup.listed)) ∧
    (¬ HwdrcAssigned Vm.tasks sampleSetup (configResctrlHwdrc twoDomains "4,7".toList sampleSetup.listed)) ∧
    ¬ HwdrcAssigned Vm.vcpus sampleSetup (configResctrlHwdrc twoDomains "4,7".toList sampleSetup.listed) := by
  have second : sampleSetup.configured[1]? = some
      { vm := bootedVm "mlc".toList 200 201, mbaCos := 3, hwdrcCos := 7 } := rfl
  have member := List.mem_of_getElem? second
  refine ⟨fun assigned => ?_, fun assigned => ?_, fun assigned => ?_, fun assigned => ?_⟩
  · exact absurd ((assigned _ member).1 200 (by decide)) (by decide)
  · exact absurd ((assigned _ member).1 201 (by decide)) (by decide)
  · exact absurd ((assigned _ member).1 200 (by decide)) (by decide)
  · exact absurd ((assigned _ member).1 201 (by decide)) (by decide)

end KvmWorkload.RunTestcases
