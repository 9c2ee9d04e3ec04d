import KvmWorkload.Lib.Dict
import KvmWorkload.Lib.Exec
import KvmWorkload.Lib.Words
import KvmWorkload.VmCloudInit.Host
import Mathlib.Data.Bool.AllAny

/-! # How devices are found

`get_vports` reads the virtual functions of the Ethernet devices from sysfs,
`get_qat_vf` those of QAT from the listing of `adf_ctl status`.  Both collect the
names that `virt-install` knows them by, under the socket that they are on.
-/

namespace KvmWorkload.VmCloudInit.Discovery

def isHex (c : Char) : Bool := c.isDigit || ('a' ≤ c && c ≤ 'f')

/-- `domain:bus:device.function`. -/
structure PciAddress where
  domain : Text
  bus : Text
  device : Text
  function : Text
  hex : ∀ field ∈ [domain, bus, device, function], field.all isHex = true

def PciAddress.text (address : PciAddress) : Text :=
  address.domain ++ ':' :: (address.bus ++ ':' :: (address.device ++ '.' :: address.function))

theorem PciAddress.not_mem_field (address : PciAddress) {c : Char} (other : isHex c = false) :
    c ∉ address.domain ∧ c ∉ address.bus ∧ c ∉ address.device ∧ c ∉ address.function := by
  have field : ∀ field ∈ [address.domain, address.bus, address.device, address.function], c ∉ field := by
    intro field member inside
    exact absurd (List.all_eq_true.mp (address.hex field member) c inside) (by rw [other]; decide)
  simpa only [List.forall_mem_cons, List.not_mem_nil, false_implies, implies_true, and_true] using field

theorem PciAddress.not_mem_text (address : PciAddress) {c : Char} (other : isHex c = false) (colon : c ≠ ':')
    (dot : c ≠ '.') : c ∉ address.text := by
  obtain ⟨domain, bus, device, function⟩ := address.not_mem_field other
  simp only [PciAddress.text, List.mem_append, List.mem_cons, domain, bus, device, function, colon, dot, or_self,
    not_false_eq_true]

/-- `"pci_" + address.replace(":", "_").replace(".", "_")`. -/
def pciName (address : Text) : Text :=
  "pci_".toList ++ address.map fun c => if c = ':' ∨ c = '.' then '_' else c

/-- `link.replace("../", "")`. -/
def withoutUps : Text → Text
  | '.' :: '.' :: '/' :: rest => withoutUps rest
  | c :: rest => c :: withoutUps rest
  | [] => []

/-- A device in /sys/class/net. -/
structure EthDevice where
  /-- The targets of the links virtfn0, virtfn1 and so on; `sriov_numvfs` counts them. -/
  virtfns : List Text
  /-- The line of the file numa_node. -/
  numaNode : Text

/-- The exceptions at which a scan ends. -/
inductive ScanError where
  | valueError
  | keyError
  | systemExit
  deriving DecidableEq

def vportsOf (vPort : Dict Text (List Text)) (device : EthDevice) : Dict Text (List Text) :=
  device.virtfns.foldl
    (fun vPort link => vPort.append ("SOCKET".toList ++ device.numaNode) (pciName (withoutUps link))) vPort

def getVports (net : Text → Option EthDevice) (pPorts : List Text) : Except ScanError (Dict Text (List Text)) :=
  pPorts.foldlM
    (fun vPort pName => (net pName).elim (.error .systemExit) fun device => .ok (vportsOf vPort device)) .empty

/-- `first, rest = text.split(sep, 1)`. -/
def splitOnce (sep : Char) (text : Text) : Except ScanError (Text × Text) :=
  if sep ∈ text then .ok (text.takeWhile (· ≠ sep), (text.dropWhile (· ≠ sep)).tail) else .error .valueError

/-- The keys that are kept. -/
def keptKeys : List Text := ["type".toList, "inst_id".toList, "node_id".toList, "bsf".toList]

def readItem (tempDict : Dict Text Text) (item : Text) : Except ScanError (Dict Text Text) := do
  let (key, value) ← splitOnce ':' item
  let key := key.filter (· ≠ ' ')
  let value := value.filter (· ≠ ' ')
  return if keptKeys.contains key then tempDict.set key value else tempDict

/-- The separators of `re.split(',|-', rest_line)`. -/
def isSeparator (c : Char) : Bool := c = ',' || c = '-'

/-- The name and the fields that a line of the listing gives. -/
def readLine (line : Text) : Except ScanError (Text × Dict Text Text) := do
  let (vfName, restLine) ← splitOnce '-' (trim (· = '\n') line)
  -- Empty items are passed over.
  let tempDict ← (wordsOf isSeparator (restLine.filter (· ≠ '#'))).foldlM readItem .empty
  return (vfName, tempDict)

/-- The first loop of `get_qat_vf`. -/
def readStatus (lines : List Text) : Except ScanError (Dict Text (Dict Text Text)) :=
  (lines.filter (contains "qat_dev".toList)).foldlM
    (fun qatVfDict line => do
      let (vfName, tempDict) ← readLine line
      return if tempDict.entries.isEmpty then qatVfDict else qatVfDict.set vfName tempDict) .empty

/-- `dict[key]`. -/
def item (dict : Dict Text Text) (key : Text) : Except ScanError Text := (dict.get? key).elim (.error .keyError) .ok

/-- The second loop. -/
def groupVf (qatVfSocket : Dict Text (List Text)) (v : Dict Text Text) : Except ScanError (Dict Text (List Text)) := do
  let vfDevice ← item v "bsf".toList
  if (← item v "type".toList) ≠ "4xxxvf".toList then return qatVfSocket
  return qatVfSocket.append ("SOCKET".toList ++ (← item v "node_id".toList)) (pciName vfDevice)

def getQatVf (lines : List Text) : Except ScanError (Dict Text (List Text)) := do
  ((← readStatus lines).entries.map Prod.snd).foldlM groupVf .empty

/-- `len([item for item in find("QAT", Tile_Map) if item > 0])`, as a truth value. -/
def qatRequested (env : Env) : Bool := env.tileMap.any fun entry => (entry.2 .qat).any (0 < ·)

def scanPorts (net : Text → Option EthDevice) (pPorts : List Text) (env : Env) :
    Except ScanError (Dict Text (List Text)) :=
  if env.networking.srIov = 1 then getVports net pPorts else .ok .empty

/-- `adfCtl` is `none` without the driver. -/
def scanQat (adfCtl : Option (List Text)) (env : Env) : Except ScanError (Dict Text (List Text)) :=
  if qatRequested env then do
    let qatVfSocket ← adfCtl.elim (.error .systemExit) getQatVf
    if qatVfSocket.entries.isEmpty then .error .systemExit else .ok qatVfSocket
  else .ok .empty

/-- What `__main__` looks for before it generates commands. -/
def discover (net : Text → Option EthDevice) (adfCtl : Option (List Text)) (pPorts : List Text) (env : Env) :
    Except ScanError Env := do
  let vPort ← scanPorts net pPorts env
  let qatVfSocket ← scanQat adfCtl env
  return { env with
    vPort := fun socket => vPort.get? (socketName socket)
    qatVfSocket := fun socket => qatVfSocket.get? (socketName socket) }

/-- A device as the driver knows it; a device without a NUMA node has node -1. -/
structure QatDevice where
  number : Nat
  kind : Text
  instId : Nat
  nodeId : Int
  bsf : PciAddress
  accel : Nat
  engines : Nat
  up : Bool
  plain : kind.all Char.isAlphanum = true

def intText (i : Int) : Text := if i < 0 then '-' :: decimal i.natAbs else decimal i.natAbs

/-- `key: value`, behind blanks. -/
def entry (indent key value : Text) : Text := indent ++ (key ++ ':' :: ' ' :: value)

namespace QatDevice

variable (dev : QatDevice)

def vfName : Text := " qat_dev".toList ++ decimal dev.number ++ [' ']

/-- The counters and the state, which are not used. -/
def counters : Text :=
  decimal dev.accel ++ (" #engines: ".toList ++ (decimal dev.engines ++ (" state: ".toList ++
    if dev.up then "up".toList else "down".toList)))

/-- A line of `adf_ctl status`. -/
def status : Text :=
  dev.vfName ++ '-' :: (entry [' '] "type".toList dev.kind ++
    ',' :: (entry [' ', ' '] "inst_id".toList (decimal dev.instId) ++
    ',' :: (entry [' ', ' '] "node_id".toList (intText dev.nodeId) ++
    ',' :: (entry [' ', ' '] "bsf".toList dev.bsf.text ++
    ',' :: entry [' ', ' '] "#accel".toList dev.counters)))) ++ ['\n']

/-- The fields that are kept of it. -/
def record : Dict Text Text :=
  (((Dict.empty.set "type".toList dev.kind).set "inst_id".toList (decimal dev.instId)).set "node_id".toList
    (decimal dev.nodeId.natAbs)).set "bsf".toList dev.bsf.text

end QatDevice

theorem splitOnce_append {sep : Char} {first : Text} (clean : sep ∉ first) (rest : Text) :
    splitOnce sep (first ++ sep :: rest) = .ok (first, rest) := by
  have keep : ∀ c ∈ first, decide (c ≠ sep) = true := fun c member =>
    decide_eq_true (ne_of_mem_of_not_mem member clean)
  rw [splitOnce, if_pos (List.mem_append_right _ List.mem_cons_self), List.takeWhile_append_of_pos keep,
    List.dropWhile_append_of_pos keep]
  simp

theorem readItem_entry {indent key : Text} (spaces : indent.all (fun c => decide (c = ' ')) = true)
    (colon : ':' ∉ key) (solid : ' ' ∉ key) (value : Text) (tempDict : Dict Text Text) :
    readItem tempDict (entry indent key value) =
      .ok (if keptKeys.contains key then tempDict.set key (value.filter (· ≠ ' ')) else tempDict) := by
  have blank : ∀ c ∈ indent, c = ' ' := fun c member => of_decide_eq_true (List.all_eq_true.mp spaces c member)
  have front : ':' ∉ indent ++ key := by
    rw [List.mem_append, not_or]
    exact ⟨fun member => absurd (blank _ member) (by decide), colon⟩
  have name : (indent ++ key).filter (· ≠ ' ') = key := by
    rw [List.filter_append, List.filter_eq_nil_iff.mpr, List.filter_eq_self.mpr]
    · rfl
    · exact fun c member => decide_eq_true (ne_of_mem_of_not_mem member solid)
    · exact fun c member => by rw [blank c member]; decide
  rw [readItem, entry, ← List.append_assoc, splitOnce_append front]
  change Except.ok _ = _
  rw [name]
  rfl

theorem readItem_error {item : Text} (colon : ':' ∉ item) (tempDict : Dict Text Text) :
    readItem tempDict item = .error .valueError := by
  rw [readItem, splitOnce, if_neg colon]
  rfl

/-- The characters that the line is taken apart at. -/
def marks : List Char := [',', '-', '#', '\n', ' ']

theorem mark_not_mem_decimal {c : Char} (mark : c ∈ marks) (n : Nat) : c ∉ decimal n := by
  have digit : ∀ c ∈ marks, c.isDigit = false := List.all_iff_forall_prop.mp (by decide)
  exact not_mem_decimal (digit c mark)

theorem mark_not_mem_kind {c : Char} (mark : c ∈ marks) (dev : QatDevice) : c ∉ dev.kind := by
  have other : ∀ c ∈ marks, c.isAlphanum = false := List.all_iff_forall_prop.mp (by decide)
  intro member
  exact absurd (List.all_eq_true.mp dev.plain c member) (by rw [other c mark]; decide)

theorem mark_not_mem_bsf {c : Char} (mark : c ∈ marks) (address : PciAddress) : c ∉ address.text := by
  have other : marks.all (fun c => !isHex c && c ≠ ':' && c ≠ '.') = true := by decide
  have here := List.all_eq_true.mp other c mark
  simp only [Bool.and_eq_true, Bool.not_eq_true', decide_eq_true_eq] at here
  exact address.not_mem_text here.1.1 here.1.2 here.2

theorem wordsOf_word {word : Text} (more : word ≠ []) (comma : ',' ∉ word) (dash : '-' ∉ word) :
    wordsOf isSeparator word = [word] := by
  have solid : ∀ c ∈ word, isSeparator c = false := by
    intro c member
    simp [isSeparator, ne_of_mem_of_not_mem member comma, ne_of_mem_of_not_mem member dash]
  exact wordsOf_of_solid solid more

/-- Nothing at which a line is taken apart. -/
def Clean (text : Text) : Prop := ∀ c ∈ [',', '-', '#', '\n'], c ∉ text

theorem Clean.append {text rest : Text} (clean : Clean text) (clean' : Clean rest) : Clean (text ++ rest) :=
  fun c mark member => (List.mem_append.mp member).elim (clean c mark) (clean' c mark)

theorem clean_of_all {text : Text} (check : text.all (fun c => !([',', '-', '#', '\n'].contains c)) = true) :
    Clean text := by
  intro c mark member
  have refused := List.all_eq_true.mp check c member
  rw [List.contains_iff_mem.mpr mark] at refused
  exact absurd refused (by decide)

theorem mem_marks {c : Char} (mark : c ∈ [',', '-', '#', '\n']) : c ∈ marks :=
  List.mem_append_left [' '] mark

theorem clean_decimal (n : Nat) : Clean (decimal n) := fun _ mark => mark_not_mem_decimal (mem_marks mark) n

theorem clean_entry {indent key value : Text} (front : Clean indent) (name : Clean key) (content : Clean value) :
    Clean (entry indent key value) :=
  front.append (name.append ((clean_of_all (by decide) : Clean [':', ' ']).append content))

theorem Clean.filter_hash {text : Text} (clean : Clean text) : text.filter (· ≠ '#') = text :=
  List.filter_eq_self.mpr fun c member => decide_eq_true (ne_of_mem_of_not_mem member (clean '#' (by decide)))

theorem Clean.wordsOf {text : Text} (clean : Clean text) (more : text ≠ []) :
    wordsOf isSeparator text = [text] :=
  wordsOf_word more (clean ',' (by decide)) (clean '-' (by decide))

theorem entry_ne_nil (indent key value : Text) : entry indent key value ≠ [] := by simp [entry]

theorem filter_blank {text : Text} (solid : ' ' ∉ text) : text.filter (· ≠ ' ') = text :=
  List.filter_eq_self.mpr fun _ member => decide_eq_true (ne_of_mem_of_not_mem member solid)

theorem filter_sep (text rest : Text) :
    (text ++ ',' :: rest).filter (· ≠ '#') = text.filter (· ≠ '#') ++ ',' :: rest.filter (· ≠ '#') := by
  rw [List.filter_append]
  rfl

theorem filter_entry (key value : Text) : (entry [' ', ' '] key value).filter (· ≠ '#') =
    entry [' ', ' '] (key.filter (· ≠ '#')) (value.filter (· ≠ '#')) := by
  rw [entry, List.filter_append, List.filter_append]
  rfl

namespace QatDevice

variable (dev : QatDevice)

/-- The counters without their hash. -/
def plainCounters : Text :=
  decimal dev.accel ++ (" engines: ".toList ++ (decimal dev.engines ++ (" state: ".toList ++
    if dev.up then "up".toList else "down".toList)))

theorem clean_vfName : Clean dev.vfName :=
  ((clean_of_all (by decide)).append (clean_decimal _)).append (clean_of_all (by decide))

theorem clean_type : Clean (entry [' '] "type".toList dev.kind) :=
  clean_entry (clean_of_all (by decide)) (clean_of_all (by decide)) fun _ mark => mark_not_mem_kind (mem_marks mark) dev

theorem clean_instId : Clean (entry [' ', ' '] "inst_id".toList (decimal dev.instId)) :=
  clean_entry (clean_of_all (by decide)) (clean_of_all (by decide)) (clean_decimal _)

theorem clean_bsf : Clean (entry [' ', ' '] "bsf".toList dev.bsf.text) :=
  clean_entry (clean_of_all (by decide)) (clean_of_all (by decide))
    fun _ mark => mark_not_mem_bsf (mem_marks mark) dev.bsf

theorem clean_plainCounters : Clean dev.plainCounters := by
  have state : Clean (if dev.up then "up".toList else "down".toList) := by
    cases dev.up <;> exact clean_of_all (by decide)
  exact (clean_decimal _).append ((clean_of_all (by decide)).append ((clean_decimal _).append
    ((clean_of_all (by decide)).append state)))

theorem clean_accel : Clean (entry [' ', ' '] "accel".toList dev.plainCounters) :=
  clean_entry (clean_of_all (by decide)) (clean_of_all (by decide)) dev.clean_plainCounters

theorem clean_nodeId (node : Nat) : Clean (entry [' ', ' '] "node_id".toList (decimal node)) :=
  clean_entry (clean_of_all (by decide)) (clean_of_all (by decide)) (clean_decimal _)

theorem newline_not_mem : '\n' ∉ dev.vfName ++ '-' :: (entry [' '] "type".toList dev.kind ++
    ',' :: (entry [' ', ' '] "inst_id".toList (decimal dev.instId) ++
    ',' :: (entry [' ', ' '] "node_id".toList (intText dev.nodeId) ++
    ',' :: (entry [' ', ' '] "bsf".toList dev.bsf.text ++
    ',' :: entry [' ', ' '] "#accel".toList dev.counters)))) := by
  have newline : '\n' ∈ [',', '-', '#', '\n'] := by decide
  have digits := fun n => clean_decimal n '\n' newline
  have node : '\n' ∉ entry [' ', ' '] "node_id".toList (intText dev.nodeId) := by
    rw [intText]
    split_ifs <;> simp [entry, digits]
  have counters : '\n' ∉ entry [' ', ' '] "#accel".toList dev.counters := by
    rw [QatDevice.counters]
    cases dev.up <;> simp [entry, digits]
  simp only [List.mem_append, List.mem_cons, dev.clean_vfName _ newline, dev.clean_type _ newline,
    dev.clean_instId _ newline, dev.clean_bsf _ newline, node, counters, Char.reduceEq, or_self, not_false_eq_true]

/-- The words of the line behind the name; the sign of a node breaks its word in two. -/
def words : List Text :=
  [entry [' '] "type".toList dev.kind, entry [' ', ' '] "inst_id".toList (decimal dev.instId)] ++
    wordsOf isSeparator (entry [' ', ' '] "node_id".toList (intText dev.nodeId)) ++
    [entry [' ', ' '] "bsf".toList dev.bsf.text, entry [' ', ' '] "accel".toList dev.plainCounters]

theorem filter_counters : (entry [' ', ' '] "#accel".toList dev.counters).filter (· ≠ '#') =
    entry [' ', ' '] "accel".toList dev.plainCounters := by
  have accel : "#accel".toList.filter (· ≠ '#') = "accel".toList := by decide
  have engines : " #engines: ".toList.filter (· ≠ '#') = " engines: ".toList := by decide
  have state : (" state: ".toList ++ if dev.up then "up".toList else "down".toList).filter (· ≠ '#') =
      " state: ".toList ++ if dev.up then "up".toList else "down".toList := by
    cases dev.up <;> decide
  rw [filter_entry, accel, counters, List.filter_append, (clean_decimal _).filter_hash, List.filter_append, engines,
    List.filter_append, (clean_decimal _).filter_hash, state]
  rfl

theorem filter_node : (entry [' ', ' '] "node_id".toList (intText dev.nodeId)).filter (· ≠ '#') =
    entry [' ', ' '] "node_id".toList (intText dev.nodeId) := by
  have hash : '#' ∉ intText dev.nodeId := by
    rw [intText]
    split_ifs <;> simp [clean_decimal _ '#' (by decide)]
  have key : "node_id".toList.filter (· ≠ '#') = "node_id".toList := by decide
  rw [filter_entry, key, List.filter_eq_self.mpr fun c member => decide_eq_true (ne_of_mem_of_not_mem member hash)]

theorem words_status : wordsOf isSeparator ((entry [' '] "type".toList dev.kind ++
    ',' :: (entry [' ', ' '] "inst_id".toList (decimal dev.instId) ++
    ',' :: (entry [' ', ' '] "node_id".toList (intText dev.nodeId) ++
    ',' :: (entry [' ', ' '] "bsf".toList dev.bsf.text ++
    ',' :: entry [' ', ' '] "#accel".toList dev.counters)))).filter (· ≠ '#')) = dev.words := by
  have comma : isSeparator ',' = true := by decide
  rw [filter_sep, filter_sep, filter_sep, filter_sep, dev.clean_type.filter_hash, dev.clean_instId.filter_hash,
    dev.filter_node, dev.clean_bsf.filter_hash, dev.filter_counters, wordsOf_append_cons comma,
    wordsOf_append_cons comma, wordsOf_append_cons comma, wordsOf_append_cons comma,
    dev.clean_type.wordsOf (entry_ne_nil _ _ _), dev.clean_instId.wordsOf (entry_ne_nil _ _ _),
    dev.clean_bsf.wordsOf (entry_ne_nil _ _ _),
    dev.clean_accel.wordsOf (entry_ne_nil _ _ _), words]
  simp

theorem readLine_status : readLine dev.status = do
    let tempDict ← dev.words.foldlM readItem .empty
    return (dev.vfName, tempDict) := by
  rw [readLine, status,
    trim_append_blank (fun c member => decide_eq_false (ne_of_mem_of_not_mem member dev.newline_not_mem))
      (decide_eq_true rfl), splitOnce_append (dev.clean_vfName _ (by decide)), except_ok_bind]
  dsimp only
  rw [dev.words_status]

theorem readItem_type (tempDict : Dict Text Text) : readItem tempDict (entry [' '] "type".toList dev.kind) =
    .ok (tempDict.set "type".toList dev.kind) := by
  rw [readItem_entry (by decide) (by decide) (by decide), if_pos (by decide),
    filter_blank (mark_not_mem_kind (by decide) dev)]

theorem readItem_instId (tempDict : Dict Text Text) :
    readItem tempDict (entry [' ', ' '] "inst_id".toList (decimal dev.instId)) =
      .ok (tempDict.set "inst_id".toList (decimal dev.instId)) := by
  rw [readItem_entry (by decide) (by decide) (by decide), if_pos (by decide),
    filter_blank (mark_not_mem_decimal (by decide) _)]

theorem readItem_nodeId (tempDict : Dict Text Text) {value : Text} (solid : ' ' ∉ value) :
    readItem tempDict (entry [' ', ' '] "node_id".toList value) = .ok (tempDict.set "node_id".toList value) := by
  rw [readItem_entry (by decide) (by decide) (by decide), if_pos (by decide), filter_blank solid]

theorem readItem_bsf (tempDict : Dict Text Text) :
    readItem tempDict (entry [' ', ' '] "bsf".toList dev.bsf.text) =
      .ok (tempDict.set "bsf".toList dev.bsf.text) := by
  rw [readItem_entry (by decide) (by decide) (by decide), if_pos (by decide),
    filter_blank (mark_not_mem_bsf (by decide) _)]

theorem readItem_counters (tempDict : Dict Text Text) :
    readItem tempDict (entry [' ', ' '] "accel".toList dev.plainCounters) = .ok tempDict := by
  rw [readItem_entry (by decide) (by decide) (by decide), if_neg (by decide)]

theorem readLine_of_node (placed : 0 ≤ dev.nodeId) : readLine dev.status = .ok (dev.vfName, dev.record) := by
  have node : intText dev.nodeId = decimal dev.nodeId.natAbs := if_neg (not_lt.mpr placed)
  have words : dev.words = [entry [' '] "type".toList dev.kind, entry [' ', ' '] "inst_id".toList (decimal dev.instId),
      entry [' ', ' '] "node_id".toList (decimal dev.nodeId.natAbs), entry [' ', ' '] "bsf".toList dev.bsf.text,
      entry [' ', ' '] "accel".toList dev.plainCounters] := by
    rw [QatDevice.words, node, (clean_nodeId _).wordsOf (entry_ne_nil _ _ _)]
    rfl
  rw [readLine_status, words]
  simp only [List.foldlM_cons, List.foldlM_nil, readItem_type, readItem_instId,
    readItem_nodeId _ (mark_not_mem_decimal (by decide) _), readItem_bsf, readItem_counters, except_ok_bind]
  rfl

theorem readLine_of_noNode (nowhere : dev.nodeId < 0) : readLine dev.status = .error .valueError := by
  have node : intText dev.nodeId = '-' :: decimal dev.nodeId.natAbs := if_pos nowhere
  have broken : wordsOf isSeparator (entry [' ', ' '] "node_id".toList (intText dev.nodeId)) =
      [entry [' ', ' '] "node_id".toList [], decimal dev.nodeId.natAbs] := by
    have apart : entry [' ', ' '] "node_id".toList ('-' :: decimal dev.nodeId.natAbs) =
        entry [' ', ' '] "node_id".toList [] ++ '-' :: decimal dev.nodeId.natAbs := rfl
    rw [node, apart, wordsOf_append_cons (by decide), (clean_decimal _).wordsOf (decimal_ne_nil _),
      (clean_of_all (by decide)).wordsOf (entry_ne_nil _ _ _)]
    rfl
  rw [readLine_status, words, broken]
  simp only [List.cons_append, List.nil_append, List.foldlM_cons, readItem_type, readItem_instId,
    readItem_nodeId _ List.not_mem_nil, readItem_error (not_mem_decimal (by decide)), except_ok_bind]
  rfl

theorem contains_status : contains "qat_dev".toList dev.status = true := by
  have name : " qat_dev".toList <+: dev.vfName :=
    (List.prefix_append _ _).trans (List.prefix_append _ _)
  have front : dev.vfName <+: dev.status := (List.prefix_append _ _).trans (List.prefix_append _ _)
  exact contains_iff.mpr ((List.suffix_cons ' ' "qat_dev".toList).isInfix.trans (name.trans front).isInfix)

theorem vfName_injective {other : QatDevice} (same : dev.vfName = other.vfName) : dev.number = other.number :=
  decimal_injective (List.append_cancel_left (List.append_cancel_right same))

theorem item_record {key value : Text} (found : dev.record.get? key = some value) : item dev.record key = .ok value := by
  rw [item, found]
  rfl

theorem get?_record (key : Text) : dev.record.get? key =
    if key = "bsf".toList then some dev.bsf.text
    else if key = "node_id".toList then some (decimal dev.nodeId.natAbs)
    else if key = "inst_id".toList then some (decimal dev.instId)
    else if key = "type".toList then some dev.kind else none := by
  simp only [record, Dict.get?_set, Dict.get?_empty]

theorem record_entries : dev.record.entries.isEmpty = false := by
  have found := dev.get?_record "bsf".toList
  rw [if_pos rfl] at found
  cases entries : dev.record.entries with
  | nil => rw [Dict.get?, entries] at found; cases found
  | cons entry rest => rfl

/-- The line of a virtual function of a 4xxx device. -/
def isVf : Bool := dev.kind = "4xxxvf".toList

theorem groupVf_record (qatVfSocket : Dict Text (List Text)) : groupVf qatVfSocket dev.record =
    .ok (if dev.isVf then qatVfSocket.append (socketName dev.nodeId.natAbs) (pciName dev.bsf.text)
      else qatVfSocket) := by
  have bsf : item dev.record "bsf".toList = .ok dev.bsf.text := dev.item_record (dev.get?_record _)
  have kind : item dev.record "type".toList = .ok dev.kind := dev.item_record (dev.get?_record _)
  have node : item dev.record "node_id".toList = .ok (decimal dev.nodeId.natAbs) := dev.item_record (dev.get?_record _)
  rw [groupVf, bsf, kind, node]
  simp only [except_ok_bind, isVf, decide_eq_true_eq, ne_eq]
  split_ifs <;> rfl

end QatDevice

/-- What `adf_ctl status` prints. -/
def listing (headers : List Text) (devices : List QatDevice) : List Text := headers ++ devices.map QatDevice.status

theorem readStatus_listing {headers : List Text} (plain : ∀ line ∈ headers, contains "qat_dev".toList line = false)
    (devices : List QatDevice) : readStatus (listing headers devices) =
      if ∀ dev ∈ devices, 0 ≤ dev.nodeId then
        .ok (devices.foldl (fun qatVfDict dev => qatVfDict.set dev.vfName dev.record) .empty)
      else .error .valueError := by
  have kept : (listing headers devices).filter (contains "qat_dev".toList) = devices.map QatDevice.status := by
    rw [listing, List.filter_append, List.filter_eq_nil_iff.mpr fun line member => by rw [plain line member]; decide,
      List.filter_eq_self.mpr]
    · rfl
    · intro line member
      obtain ⟨dev, -, rfl⟩ := List.mem_map.mp member
      exact dev.contains_status
  rw [readStatus, kept, List.foldlM_map]
  refine except_foldlM_ite (fun qatVfDict dev => ?_) devices Dict.empty
  by_cases placed : 0 ≤ dev.nodeId
  · rw [if_pos placed, dev.readLine_of_node placed]
    change Except.ok (if dev.record.entries.isEmpty = true then _ else _) = _
    rw [dev.record_entries]
    rfl
  · rw [if_neg placed, dev.readLine_of_noNode (not_le.mp placed)]
    rfl

theorem getQatVf_listing {headers : List Text} (plain : ∀ line ∈ headers, contains "qat_dev".toList line = false)
    {devices : List QatDevice} (distinct : (devices.map QatDevice.number).Nodup) :
    getQatVf (listing headers devices) =
      if ∀ dev ∈ devices, 0 ≤ dev.nodeId then
        .ok ((devices.filter QatDevice.isVf).foldl (fun qatVfSocket dev =>
          qatVfSocket.append (socketName dev.nodeId.natAbs) (pciName dev.bsf.text)) .empty)
      else .error .valueError := by
  have names : (devices.map QatDevice.vfName).Nodup := by
    refine List.pairwise_map.mpr ((List.pairwise_map.mp distinct).imp ?_)
    exact fun apart same => apart (QatDevice.vfName_injective _ same)
  rw [getQatVf, readStatus_listing plain]
  split_ifs with placed
  · have records : (devices.map fun dev => (dev.vfName, dev.record)).map Prod.snd = devices.map QatDevice.record := by
      rw [List.map_map]
      rfl
    have group : (fun qatVfSocket (dev : QatDevice) => groupVf qatVfSocket dev.record) = fun qatVfSocket dev =>
        (pure (if dev.isVf then qatVfSocket.append (socketName dev.nodeId.natAbs) (pciName dev.bsf.text)
          else qatVfSocket) : Except ScanError (Dict Text (List Text))) :=
      funext₂ fun qatVfSocket dev => dev.groupVf_record qatVfSocket
    rw [except_ok_bind, Dict.entries_foldl_set names fun _ _ => List.not_mem_nil]
    change (((devices.map fun dev => (dev.vfName, dev.record))).map Prod.snd).foldlM groupVf .empty = _
    rw [records, List.foldlM_map, group, List.foldlM_pure, List.foldl_filter]
    rfl
  · rfl

theorem map_underscores {field : Text} (colon : ':' ∉ field) (dot : '.' ∉ field) :
    field.map (fun c => if c = ':' ∨ c = '.' then '_' else c) = field := by
  have stays : ∀ c ∈ field, (if c = ':' ∨ c = '.' then '_' else c) = id c := fun c member =>
    if_neg (not_or.mpr ⟨ne_of_mem_of_not_mem member colon, ne_of_mem_of_not_mem member dot⟩)
  rw [List.map_congr_left stays, List.map_id]

theorem pciName_text (address : PciAddress) : pciName address.text = "pci_".toList ++ (address.domain ++
    '_' :: (address.bus ++ '_' :: (address.device ++ '_' :: address.function))) := by
  obtain ⟨domain, bus, device, function⟩ := address.not_mem_field (c := ':') (by decide)
  obtain ⟨domain', bus', device', function'⟩ := address.not_mem_field (c := '.') (by decide)
  simp only [pciName, PciAddress.text, List.map_append, List.map_cons, map_underscores domain domain',
    map_underscores bus bus', map_underscores device device', map_underscores function function']
  rfl

theorem pciName_injective {address other : PciAddress} (same : pciName address.text = pciName other.text) :
    address.text = other.text := by
  obtain ⟨domain, bus, device, -⟩ := address.not_mem_field (c := '_') (by decide)
  obtain ⟨domain', bus', device', -⟩ := other.not_mem_field (c := '_') (by decide)
  rw [pciName_text, pciName_text, List.append_right_inj] at same
  -- Each underscore is found by splitting there.
  have first := congrArg (splitOnce '_') same
  rw [splitOnce_append domain, splitOnce_append domain'] at first
  have second := congrArg (splitOnce '_') (Prod.mk.inj (Except.ok.inj first)).2
  rw [splitOnce_append bus, splitOnce_append bus'] at second
  have third := congrArg (splitOnce '_') (Prod.mk.inj (Except.ok.inj second)).2
  rw [splitOnce_append device, splitOnce_append device'] at third
  simp only [Except.ok.injEq, Prod.mk.injEq] at first second third
  simp only [PciAddress.text, first.1, second.1, third]

/-- A network card and the functions that it lends out. -/
structure EthCard where
  nodeId : Int
  functions : List PciAddress

/-- How sysfs shows it. -/
def EthCard.sysfs (card : EthCard) : EthDevice where
  virtfns := card.functions.map fun address => "../".toList ++ address.text
  numaNode := intText card.nodeId

/-- The functions of the cards that are named, with their nodes. -/
def functionsOf (cards : Text → Option EthCard) (pPorts : List Text) : List (Int × PciAddress) :=
  pPorts.flatMap fun name => (cards name).elim [] fun card => card.functions.map (Prod.mk card.nodeId)

theorem withoutUps_of_noSlash {text : Text} (noSlash : '/' ∉ text) : withoutUps text = text := by
  fun_induction withoutUps text with
  | case1 rest ih => simp at noSlash
  | case2 c rest _ ih => rw [ih fun member => noSlash (List.mem_cons_of_mem c member)]
  | case3 => rfl

theorem vportsOf_sysfs (card : EthCard) (vPort : Dict Text (List Text)) : vportsOf vPort card.sysfs =
    card.functions.foldl (fun vPort address => vPort.append ("SOCKET".toList ++ intText card.nodeId)
      (pciName address.text)) vPort := by
  have link : ∀ address : PciAddress, withoutUps ("../".toList ++ address.text) = address.text := fun address =>
    withoutUps_of_noSlash (address.not_mem_text (by decide) (by decide) (by decide))
  simp only [vportsOf, EthCard.sysfs, List.foldl_map, link]

theorem getVports_sysfs (cards : Text → Option EthCard) (pPorts : List Text) :
    getVports (fun name => (cards name).map EthCard.sysfs) pPorts =
      if ∀ name ∈ pPorts, (cards name).isSome = true then
        .ok ((functionsOf cards pPorts).foldl (fun vPort found =>
          vPort.append ("SOCKET".toList ++ intText found.1) (pciName found.2.text)) .empty)
      else .error .systemExit := by
  rw [functionsOf, List.foldl_flatMap]
  refine except_foldlM_ite (fun vPort name => ?_) pPorts Dict.empty
  dsimp only
  cases cards name with
  | none => rfl
  | some card =>
      change Except.ok (vportsOf vPort card.sysfs) = .ok _
      rw [vportsOf_sysfs, Option.elim_some, List.foldl_map]

theorem socketName_intText {i : Int} {socket : Nat} :
    "SOCKET".toList ++ intText i = socketName socket ↔ i = socket := by
  refine (List.append_right_inj "SOCKET".toList).trans ?_
  rw [intText]
  split_ifs with negative
  · refine iff_of_false (fun same => ?_) (by omega)
    exact not_mem_decimal (c := '-') (by decide) (same ▸ List.mem_cons_self)
  · rw [decimal_injective.eq_iff]
    omega

theorem socketName_natAbs {i : Int} (placed : 0 ≤ i) {socket : Nat} :
    socketName i.natAbs = socketName socket ↔ i = socket := by
  refine (List.append_right_inj "SOCKET".toList).trans ?_
  rw [decimal_injective.eq_iff]
  omega

end KvmWorkload.VmCloudInit.Discovery
