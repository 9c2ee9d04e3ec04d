import KvmWorkload.Lib.Dict
import KvmWorkload.Lib.PyText
import KvmWorkload.Trex.Streams5g

/-! # Configuration lines of the 5G experiment

A `-c` line is a list of settings.  `Config` reads it into attributes, of which
the optional ones may be missing, and passes some of them on to the builders;
`PortConfigs` files the lines by server and port, and the start loop of the
script goes through the file.
-/

namespace KvmWorkload.Trex.FiveG

/-- The attributes that a line sets. -/
@[ext]
structure Attrs where
  serverName : Option Text
  inst : Option Int
  port : Option Int
  ue : Option Int
  ethDst : Option Text
  m : Option Text
  bonded : Bool

def noAttrs : Attrs where
  serverName := none
  inst := none
  port := none
  ue := none
  ethDst := none
  m := none
  bonded := false

def int (val : Text) : Except PyError Int := (readInt val).elim (.error .valueError) .ok

def keyN : Text := ['n']
def keyInst : Text := ['i', 'n', 's', 't']
def keyPort : Text := ['p', 'o', 'r', 't']
def keyUe : Text := ['u', 'e']
def keyEthDst : Text := ['e', 't', 'h', '-', 'd', 's', 't']
def keyM : Text := ['m']
def keyBonded : Text := ['b', 'o', 'n', 'd', 'e', 'd']

/-- The chain of `elif key == ...`. -/
def readKey (attrs : Attrs) (key val : Text) : Except PyError Attrs :=
  if key = keyN then .ok { attrs with serverName := some val }
  else if key = keyInst then do return { attrs with inst := some (← int val) }
  else if key = keyPort then do return { attrs with port := some (← int val) }
  else if key = keyUe then do return { attrs with ue := some (← int val) }
  else if key = keyEthDst then .ok { attrs with ethDst := some val }
  else if key = keyM then .ok { attrs with m := some val }
  else .ok attrs

/-- One round of the loop over `line.split(',')`. -/
def readPair (attrs : Attrs) (pair : Text) : Except PyError Attrs :=
  match pair.splitOn '=' with
  | key :: rest =>
      if key = keyBonded then .ok { attrs with bonded := true }
      else
        match rest with
        | [val] => readKey attrs key val
        | _ => .error .valueError
  | [] => .error .indexError

/-- Reading an attribute that may not have been set. -/
def attr {α : Type} (value : Option α) : Except PyError α := value.elim (.error .attributeError) .ok

theorem attr_ok {α : Type} {value : Option α} {a : α} : attr value = .ok a ↔ value = some a := by
  cases value <;> simp [attr]

/-- The streams of a line; both builders get the destination as `eth_dst`. -/
def makeStream (attrs : Attrs) : Except PyError (Option Built) := do
  let inst ← attr attrs.inst
  let ue ← attr attrs.ue
  let ethDst ← attr attrs.ethDst
  let kwargs := callArgs inst ue [("eth_dst".toList, ethDst)]
  if attrs.bonded then getBondedStreams kwargs else getStreams kwargs

structure Config where
  attrs : Attrs
  /-- Only set when the traffic is to be started. -/
  stream : Option (Option Built)

/-- `Config.__init__`. -/
def config (start : Bool) (line : Text) : Except PyError Config := do
  let attrs ← (line.splitOn ',').foldlM readPair noAttrs
  if start then return { attrs, stream := some (← makeStream attrs) }
  else return { attrs, stream := none }

/-- The configurations by server and port. -/
abbrev PortConfigs := Dict Text (Dict Int Config)

/-- A line's configuration with the server and the port that it is filed under. -/
def lineEntry (start : Bool) (line : Text) : Except PyError ((Text × Int) × Config) := do
  let conf ← config start line
  let serverName ← attr conf.attrs.serverName
  let port ← attr conf.attrs.port
  return ((serverName, port), conf)

def PortConfigs.insert (configs : PortConfigs) (entry : (Text × Int) × Config) : PortConfigs :=
  let configs := if configs.has entry.1.1 then configs else configs.set entry.1.1 Dict.empty
  configs.modify entry.1.1 fun ports => ports.set entry.1.2 entry.2

/-- `PortConfigs.__init__`. -/
def portConfigs (start : Bool) (lines : List Text) : Except PyError PortConfigs :=
  lines.foldlM (fun configs line => do return PortConfigs.insert configs (← lineEntry start line)) Dict.empty

/-- A port that was given streams and started. -/
structure Started where
  server : Text
  /-- The port of `add_streams`. -/
  streamPort : Int
  /-- The port of `start`. -/
  port : Int
  stream : Option Built
  mult : Option Text

/-- The body of the innermost loop; `globalM` is the option `-m`. -/
def startPort (globalM : Option Text) (server : Text) (entry : Int × Config) : Except PyError Started := do
  let stream ← attr entry.2.stream
  let streamPort ← attr entry.2.attrs.port
  let m ← attr entry.2.attrs.m
  return { server, streamPort, port := entry.1, stream, mult := if m ≠ [] then some m else globalM }

/-- The ports of a server. -/
def startServer (globalM : Option Text) (configs : PortConfigs) (server : Text) : Except PyError (List Started) :=
  ((configs.get? server).elim [] Dict.entries).mapM (startPort globalM server)

/-- The part of the script that `--start` runs, on the servers of trex_5g.conf. -/
def startTraffic (globalM : Option Text) (servers : List Text) (lines : List Text) :
    Except PyError (List Started) := do
  let configs ← portConfigs true lines
  let started ← (servers.filter (configs.has ·)).mapM (startServer globalM configs)
  return started.flatten

/-- A value as it can stand behind an equals sign. -/
structure Plain where
  text : Text
  clean : ∀ c ∈ text, c ≠ ',' ∧ c ≠ '='

def Plain.of (text : Text) (checked : text.all (fun c => decide (c ≠ ',' ∧ c ≠ '=')) = true) : Plain :=
  ⟨text, fun c member => of_decide_eq_true (List.all_eq_true.mp checked c member)⟩

/-- A value that is read as a number. -/
structure IntText extends Plain where
  value : Int
  reads : readInt text = some value

theorem decimal_clean (n : Nat) : ∀ c ∈ decimal n, c ≠ ',' ∧ c ≠ '=' := by
  intro c member
  have digit := isDigit_of_mem_decimal member
  constructor
  · rintro rfl
    exact absurd digit (by decide)
  · rintro rfl
    exact absurd digit (by decide)

theorem readInt_decimal (n : Nat) : readInt (decimal n) = some (n : Int) := by
  rw [readInt_of_isAlphanum (decimal_ne_nil n) fun c member => isAlphanum_of_isDigit (isDigit_of_mem_decimal member),
    if_pos (all_isDigit_decimal n), readDecimal_decimal]

def IntText.ofNat (n : Nat) : IntText where
  text := decimal n
  clean := decimal_clean n
  value := n
  reads := readInt_decimal n

/-- A setting of a line. -/
inductive Setting where
  | n (val : Plain)
  | inst (val : IntText)
  | port (val : IntText)
  | ue (val : IntText)
  | ethDst (val : Plain)
  | m (val : Plain)
  | bonded

namespace Setting

def text : Setting → Text
  | .n val => keyN ++ '=' :: val.text
  | .inst val => keyInst ++ '=' :: val.text
  | .port val => keyPort ++ '=' :: val.text
  | .ue val => keyUe ++ '=' :: val.text
  | .ethDst val => keyEthDst ++ '=' :: val.text
  | .m val => keyM ++ '=' :: val.text
  | .bonded => keyBonded

def key : Setting → Text
  | .n _ => keyN
  | .inst _ => keyInst
  | .port _ => keyPort
  | .ue _ => keyUe
  | .ethDst _ => keyEthDst
  | .m _ => keyM
  | .bonded => keyBonded

/-- What a setting does to the attributes. -/
def apply (attrs : Attrs) : Setting → Attrs
  | .n val => { attrs with serverName := some val.text }
  | .inst val => { attrs with inst := some val.value }
  | .port val => { attrs with port := some val.value }
  | .ue val => { attrs with ue := some val.value }
  | .ethDst val => { attrs with ethDst := some val.text }
  | .m val => { attrs with m := some val.text }
  | .bonded => { attrs with bonded := true }

end Setting

/-- What a line says: its settings, of which some are optional. -/
structure Line where
  n : Plain
  inst : IntText
  port : IntText
  ue : IntText
  ethDst : Option Plain
  m : Option Plain
  bonded : Bool

namespace Line

variable (line : Line)

def settings : List Setting :=
  [.n line.n, .inst line.inst, .port line.port, .ue line.ue] ++ line.ethDst.toList.map .ethDst ++
    line.m.toList.map .m ++ if line.bonded then [.bonded] else []

/-- The text of a line has its settings in any order. -/
def Spells (text : Text) : Prop :=
  ∃ order : List Setting, order.Perm line.settings ∧ text = [','].intercalate (order.map Setting.text)

def attrs : Attrs where
  serverName := some line.n.text
  inst := some line.inst.value
  port := some line.port.value
  ue := some line.ue.value
  ethDst := line.ethDst.map Plain.text
  m := line.m.map Plain.text
  bonded := line.bonded

end Line

theorem Plain.not_mem_comma (val : Plain) : ',' ∉ val.text := fun member => (val.clean _ member).1 rfl

theorem Plain.not_mem_equals (val : Plain) : '=' ∉ val.text := fun member => (val.clean _ member).2 rfl

theorem readPair_eq {key : Text} (equals : '=' ∉ key) (other : key ≠ keyBonded) (val : Plain) (attrs : Attrs) :
    readPair attrs (key ++ '=' :: val.text) = readKey attrs key val.text := by
  have parts : (key ++ '=' :: val.text).splitOn '=' = [key, val.text] := by
    rw [List.splitOn_append_cons_self, splitOn_of_not_mem equals, splitOn_of_not_mem val.not_mem_equals]
    rfl
  simp only [readPair, parts, if_neg other]

theorem int_ok (val : IntText) : int val.text = .ok val.value := by
  rw [int, val.reads]
  rfl

theorem readPair_text (attrs : Attrs) (setting : Setting) :
    readPair attrs setting.text = .ok (setting.apply attrs) := by
  cases setting with
  | n val =>
      rw [Setting.text, readPair_eq (by decide) (by decide), readKey, if_pos rfl]
      rfl
  | inst val =>
      rw [Setting.text, readPair_eq (by decide) (by decide), readKey, if_neg (by decide), if_pos rfl, int_ok]
      rfl
  | port val =>
      rw [Setting.text, readPair_eq (by decide) (by decide), readKey, if_neg (by decide), if_neg (by decide),
        if_pos rfl, int_ok]
      rfl
  | ue val =>
      rw [Setting.text, readPair_eq (by decide) (by decide), readKey, if_neg (by decide), if_neg (by decide),
        if_neg (by decide), if_pos rfl, int_ok]
      rfl
  | ethDst val =>
      rw [Setting.text, readPair_eq (by decide) (by decide), readKey, if_neg (by decide), if_neg (by decide),
        if_neg (by decide), if_neg (by decide), if_pos rfl]
      rfl
  | m val =>
      rw [Setting.text, readPair_eq (by decide) (by decide), readKey, if_neg (by decide), if_neg (by decide),
        if_neg (by decide), if_neg (by decide), if_neg (by decide), if_pos rfl]
      rfl
  | bonded => rfl

theorem comma_not_mem_text (setting : Setting) : ',' ∉ setting.text := by
  cases setting <;> simp [Setting.text, Plain.not_mem_comma] <;> decide

theorem foldlM_readPair (order : List Setting) (attrs : Attrs) :
    (order.map Setting.text).foldlM readPair attrs = .ok (order.foldl Setting.apply attrs) := by
  induction order generalizing attrs with
  | nil => rfl
  | cons setting order ih =>
      rw [List.map_cons, List.foldlM_cons, readPair_text, except_ok_bind, ih, List.foldl_cons]

theorem apply_comm {x y : Setting} (apart : x.key ≠ y.key) (attrs : Attrs) :
    y.apply (x.apply attrs) = x.apply (y.apply attrs) := by
  cases x <;> cases y <;> first | rfl | exact absurd rfl apart

namespace Line

variable {line : Line}

theorem foldl_settings (line : Line) : line.settings.foldl Setting.apply noAttrs = line.attrs := by
  rcases line with ⟨n, inst, port, ue, _ | ethDst, _ | m, _ | _⟩ <;> rfl

theorem nodup_keys (line : Line) : (line.settings.map Setting.key).Nodup := by
  rcases line with ⟨n, inst, port, ue, _ | ethDst, _ | m, _ | _⟩ <;>
    simp only [settings, Option.toList, List.map_cons, List.map_nil, List.cons_append, List.nil_append,
      List.append_nil, if_true, Bool.false_eq_true, if_false, Setting.key] <;> decide

theorem foldl_order {order : List Setting} (perm : order.Perm line.settings) :
    order.foldl Setting.apply noAttrs = line.attrs := by
  rw [← foldl_settings]
  refine perm.foldl_eq' (fun x xIn y yIn attrs => ?_) noAttrs
  by_cases same : x = y
  · rw [same]
  · refine apply_comm (fun keys => same ?_) attrs
    exact List.inj_on_of_nodup_map line.nodup_keys (perm.subset xIn) (perm.subset yIn) keys

theorem config_eq {text : Text} (spells : line.Spells text) :
    config true text = do return { attrs := line.attrs, stream := some (← makeStream line.attrs) } := by
  obtain ⟨order, perm, rfl⟩ := spells
  have more : order.map Setting.text ≠ [] := by
    intro empty
    have none := List.map_eq_nil_iff.mp empty
    rw [none] at perm
    cases perm.symm.eq_nil
  have clean : ∀ text ∈ order.map Setting.text, ',' ∉ text := by
    intro text member
    obtain ⟨setting, -, rfl⟩ := List.mem_map.mp member
    exact comma_not_mem_text setting
  rw [config, List.splitOn_intercalate ',' clean more, foldlM_readPair, except_ok_bind, foldl_order perm]
  rfl

end Line

/-- The configuration filed under a server and a port. -/
def PortConfigs.find (configs : PortConfigs) (key : Text × Int) : Option Config :=
  (configs.get? key.1).bind fun ports => ports.get? key.2

theorem PortConfigs.find_insert (configs : PortConfigs) (entry : (Text × Int) × Config) (key : Text × Int) :
    (configs.insert entry).find key = if key = entry.1 then some entry.2 else configs.find key := by
  obtain ⟨⟨server, port⟩, conf⟩ := entry
  obtain ⟨server', port'⟩ := key
  rw [insert, find, Dict.get?_modify, Dict.has]
  by_cases same : server' = server
  · subst same
    cases found : configs.get? server' with
    | some ports =>
        simp only [Option.isSome_some, if_true, found, find, Option.map_some, Option.bind_some, Dict.get?_set,
          Prod.mk.injEq, true_and]
    | none =>
        simp only [Option.isSome_none, Bool.false_eq_true, if_false, if_true, Dict.get?_set, find, found,
          Option.map_some, Option.bind_some, Dict.get?_empty, Prod.mk.injEq, true_and, Option.bind_none]
  · have apart : ¬ (server', port') = (server, port) := fun both => same (Prod.mk.inj both).1
    rw [if_neg same, if_neg apart, find]
    cases configs.get? server with
    | some ports => rw [Option.isSome_some, if_pos rfl]
    | none => rw [Option.isSome_none, if_neg Bool.false_ne_true, Dict.get?_set, if_neg same]

theorem PortConfigs.find_foldl_insert {entries : List ((Text × Int) × Config)}
    (distinct : (entries.map Prod.fst).Nodup) {key : Text × Int} {conf : Config} :
    (entries.foldl PortConfigs.insert Dict.empty).find key = some conf ↔ (key, conf) ∈ entries := by
  induction entries using List.reverseRecOn with
  | nil => simp [find]
  | append_singleton entries entry ih =>
      rw [List.map_append, List.map_singleton, List.nodup_append'] at distinct
      obtain ⟨before, -, apart⟩ := distinct
      rw [List.foldl_append, List.foldl_cons, List.foldl_nil, find_insert, List.mem_append, List.mem_singleton]
      by_cases same : key = entry.1
      · subst same
        have fresh : (entry.1, conf) ∉ entries := by
          intro member
          exact apart (List.mem_map_of_mem member) List.mem_cons_self
        rw [if_pos rfl, or_iff_right fresh, Option.some.injEq]
        constructor
        · rintro rfl
          rfl
        · intro whole
          exact (congrArg Prod.snd whole).symm
      · have other : ¬ (key, conf) = entry := fun whole => same (congrArg Prod.fst whole)
        rw [if_neg same, ih before, or_iff_left other]

theorem portConfigs_eq (start : Bool) (lines : List Text) :
    portConfigs start lines = do return (← lines.mapM (lineEntry start)).foldl PortConfigs.insert Dict.empty :=
  except_foldlM_eq lines Dict.empty

section Started

variable {globalM : Option Text} {servers lines : List Text} {started : List Started}
  {entries : List ((Text × Int) × Config)}

theorem mem_started (run : startTraffic globalM servers lines = .ok started) :
    ∃ entries, lines.mapM (lineEntry true) = .ok entries ∧
      ∀ s ∈ started, s.server ∈ servers ∧ ∃ port conf,
        (entries.foldl PortConfigs.insert Dict.empty).find (s.server, port) = some conf ∧
          startPort globalM s.server (port, conf) = .ok s := by
  obtain ⟨configs, filed, run⟩ := except_bind_ok.mp run
  obtain ⟨lists, each, ends⟩ := except_bind_ok.mp run
  cases ends
  rw [portConfigs_eq] at filed
  obtain ⟨entries, read, ends⟩ := except_bind_ok.mp filed
  cases ends
  refine ⟨entries, read, fun s member => ?_⟩
  obtain ⟨list, inside, here⟩ := List.mem_flatten.mp member
  obtain ⟨server, known, runs⟩ := forall₂_exists_left (except_mapM_ok.mp each) inside
  obtain ⟨⟨port, conf⟩, entry, begun⟩ := forall₂_exists_left (except_mapM_ok.mp runs) here
  obtain rfl : s.server = server := by
    obtain ⟨_, -, begun⟩ := except_bind_ok.mp begun
    obtain ⟨_, -, begun⟩ := except_bind_ok.mp begun
    obtain ⟨_, -, ends⟩ := except_bind_ok.mp begun
    cases ends
    rfl
  refine ⟨(List.mem_filter.mp known).1, port, conf, ?_, begun⟩
  cases ports : (entries.foldl PortConfigs.insert Dict.empty).get? s.server with
  | none =>
      rw [ports] at entry
      cases entry
  | some dict =>
      rw [ports] at entry
      rw [PortConfigs.find, ports]
      exact Dict.mem_entries_iff.mp entry

theorem exists_started (read : lines.mapM (lineEntry true) = .ok entries)
    (distinct : (entries.map Prod.fst).Nodup) (known : ∀ entry ∈ entries, entry.1.1 ∈ servers)
    (each : ∀ entry ∈ entries, ∃ s, startPort globalM entry.1.1 (entry.1.2, entry.2) = .ok s) :
    ∃ started, startTraffic globalM servers lines = .ok started ∧
      ∀ entry ∈ entries, ∃ s ∈ started, startPort globalM entry.1.1 (entry.1.2, entry.2) = .ok s := by
  have filed : portConfigs true lines = .ok (entries.foldl PortConfigs.insert Dict.empty) := by
    rw [portConfigs_eq, read]
    rfl
  have found : ∀ key conf, (entries.foldl PortConfigs.insert Dict.empty).find key = some conf ↔
      (key, conf) ∈ entries := fun _ _ => PortConfigs.find_foldl_insert distinct
  generalize entries.foldl PortConfigs.insert Dict.empty = configs at filed found
  have server : ∀ name ∈ servers.filter (configs.has ·), ∃ list, startServer globalM configs name = .ok list := by
    intro name _
    refine except_exists_mapM_ok fun entry member => ?_
    cases ports : configs.get? name with
    | none =>
        rw [ports] at member
        cases member
    | some dict =>
        rw [ports] at member
        refine each ((name, entry.1), entry.2) ((found _ _).mp ?_)
        rw [PortConfigs.find, ports]
        exact Dict.mem_entries_iff.mp member
  obtain ⟨lists, all⟩ := except_exists_mapM_ok server
  refine ⟨lists.flatten, ?_, ?_⟩
  · rw [startTraffic, filed, except_ok_bind, all]
    rfl
  · rintro ⟨⟨name, port⟩, conf⟩ member
    have there := (found (name, port) conf).mpr member
    rw [PortConfigs.find] at there
    obtain ⟨dict, ports, entry⟩ := Option.bind_eq_some_iff.mp there
    have inside : name ∈ servers.filter (configs.has ·) := by
      rw [List.mem_filter, Dict.has, ports]
      exact ⟨known _ member, rfl⟩
    obtain ⟨list, listed, runs⟩ := forall₂_exists_right (except_mapM_ok.mp all) inside
    rw [startServer, ports] at runs
    obtain ⟨s, begun, starts⟩ :=
      forall₂_exists_right (except_mapM_ok.mp runs) (Dict.mem_entries_iff.mpr entry)
    exact ⟨s, List.mem_flatten.mpr ⟨list, listed, begun⟩, starts⟩

end Started

/-- The builder of a line's mode. -/
def Line.builder (line : Line) : Builder := if line.bonded then bondedBuilder else plainBuilder

/-- A port is started as a line says: with the streams of its instance, its number of UEs and its
    mode, addressed to its destination, and at its rate or else the global one. -/
structure AsSaid (globalM : Option Text) (line : Line) (s : Started) : Prop where
  server : s.server = line.n.text
  port : s.port = line.port.value
  streamPort : s.streamPort = line.port.value
  streams : ∃ built ether, s.stream = some built ∧
    Makes line.builder line.inst.value line.ue.value ether built ∧
    ∀ mac, line.ethDst = some mac → ∀ stream ∈ built.streams, stream.ether.dst = some mac.text
  mult : s.mult = (line.m.map Plain.text).or globalM

/-- The lines that can take effect: not bonded, with a destination and a rate, and with an instance
    that has addresses. -/
structure Effective (globalM : Option Text) (line : Line) : Prop where
  ethDst : ∃ mac, line.ethDst = some mac ∧ mac.text ≠ []
  plain : line.bonded = false
  rate : ∃ m, line.m = some m ∧ (m.text ≠ [] ∨ globalM = some [])
  addresses : AddressesFit plainBuilder line.inst.value line.ue.value

/-- What a line is filed as. -/
structure Filed (line : Line) (entry : (Text × Int) × Config) : Prop where
  key : entry.1 = (line.n.text, line.port.value)
  attrs : entry.2.attrs = line.attrs
  stream : ∃ built, makeStream line.attrs = .ok built ∧ entry.2.stream = some built

section Lines

variable {line : Line} {globalM : Option Text}

theorem lineEntry_ok {text : Text} (spells : line.Spells text) {entry : (Text × Int) × Config} :
    lineEntry true text = .ok entry ↔ Filed line entry := by
  rw [lineEntry, Line.config_eq spells]
  cases made : makeStream line.attrs with
  | error e =>
      constructor
      · intro run
        cases run
      · intro filed
        obtain ⟨built, streams, -⟩ := filed.stream
        rw [made] at streams
        cases streams
  | ok built =>
      constructor
      · intro run
        cases run
        exact ⟨rfl, rfl, built, made, rfl⟩
      · rintro ⟨key, attrs, built', streams, stored⟩
        cases made.symm.trans streams
        obtain ⟨entryKey, ⟨entryAttrs, entryStream⟩⟩ := entry
        cases key
        cases attrs
        cases stored
        rfl

theorem makeStream_ok {built : Option Built} :
    makeStream line.attrs = .ok built ↔ ∃ mac, line.ethDst = some mac ∧
      line.builder.build (callArgs line.inst.value line.ue.value [("eth_dst".toList, mac.text)]) = .ok built := by
  obtain ⟨n, inst, port, ue, ethDst, m, bonded⟩ := line
  cases ethDst with
  | none =>
      constructor
      · intro run
        cases run
      · rintro ⟨mac, missing, -⟩
        cases missing
  | some mac =>
      have run : makeStream (Line.attrs ⟨n, inst, port, ue, some mac, m, bonded⟩) =
          (Line.builder ⟨n, inst, port, ue, some mac, m, bonded⟩).build
            (callArgs inst.value ue.value [("eth_dst".toList, mac.text)]) := by
        cases bonded <;> rfl
      rw [run]
      constructor
      · exact fun made => ⟨mac, rfl, made⟩
      · rintro ⟨mac', same, made⟩
        cases same
        exact made

theorem startPort_ok {entry : (Text × Int) × Config} (filed : Filed line entry) {s : Started} :
    startPort globalM entry.1.1 (entry.1.2, entry.2) = .ok s ↔
      ∃ built m, makeStream line.attrs = .ok built ∧ line.m = some m ∧
        s = { server := line.n.text
              streamPort := line.port.value
              port := line.port.value
              stream := built
              mult := if m.text ≠ [] then some m.text else globalM } := by
  obtain ⟨built, made, stored⟩ := filed.stream
  have begins : startPort globalM entry.1.1 (entry.1.2, entry.2) = do
      let m ← attr (line.m.map Plain.text)
      return { server := line.n.text
               streamPort := line.port.value
               port := line.port.value
               stream := built
               mult := if m ≠ [] then some m else globalM } := by
    simp only [startPort, filed.key, filed.attrs, stored, Line.attrs, attr, Option.elim_some, except_ok_bind]
  rw [begins]
  cases line.m with
  | none =>
      constructor
      · intro run
        cases run
      · rintro ⟨_, _, -, missing, -⟩
        cases missing
  | some m =>
      constructor
      · intro run
        cases run
        exact ⟨built, m, made, rfl, rfl⟩
      · rintro ⟨built', m', made', same, rfl⟩
        cases made.symm.trans made'
        cases same
        rfl

theorem etherOf_plain (mac : Text) :
    etherOf ([("eth_dst".toList, mac)].lookup plainBuilder.ethSrcKey)
        ([("eth_dst".toList, mac)].lookup plainBuilder.ethDstKey) =
      { src := none, dst := if mac ≠ [] then some mac else none } := by
  have source : [("eth_dst".toList, mac)].lookup plainBuilder.ethSrcKey = none := rfl
  have destination : [("eth_dst".toList, mac)].lookup plainBuilder.ethDstKey = some mac := rfl
  rw [source, destination]
  cases mac <;> rfl

theorem etherOf_bonded (mac : Text) :
    etherOf ([("eth_dst".toList, mac)].lookup bondedBuilder.ethSrcKey)
        ([("eth_dst".toList, mac)].lookup bondedBuilder.ethDstKey) = { src := none, dst := none } := rfl

theorem Line.builder_of_plain (mode : line.bonded = false) : line.builder = plainBuilder := by
  rw [Line.builder, mode, if_neg (by decide)]

theorem mult_eq_iff {m : Text} : (if m ≠ [] then some m else globalM) = some m ↔ m ≠ [] ∨ globalM = some [] := by
  by_cases empty : m = []
  · subst empty
    simp
  · simp [empty]

theorem asSaid_iff {entry : (Text × Int) × Config} (filed : Filed line entry) {s : Started}
    (begun : startPort globalM entry.1.1 (entry.1.2, entry.2) = .ok s) :
    AsSaid globalM line s ↔ Effective globalM line := by
  obtain ⟨built, m, made, rate, rfl⟩ := (startPort_ok filed).mp begun
  obtain ⟨mac, ethDst, called⟩ := makeStream_ok.mp made
  obtain ⟨fit, built, rfl, makes⟩ := build_ok called
  constructor
  · rintro ⟨-, -, -, ⟨built', ether, same, -, addressed⟩, mult⟩
    cases same
    obtain ⟨stream, member⟩ := makes.exists_stream
    have header := addressed mac ethDst stream member
    rw [makes.stream_ether stream member] at header
    cases mode : line.bonded with
    | true =>
        rw [Line.builder, mode, if_pos rfl, etherOf_bonded] at header
        cases header
    | false =>
        rw [Line.builder_of_plain mode, etherOf_plain] at header
        rw [Line.builder_of_plain mode] at fit
        rw [rate] at mult
        refine ⟨⟨mac, ethDst, ?_⟩, mode, ⟨m, rate, mult_eq_iff.mp mult⟩, fit⟩
        intro empty
        simp [empty] at header
  · rintro ⟨⟨mac', given, nonempty⟩, mode, ⟨m', given', rated⟩, -⟩
    cases ethDst.symm.trans given
    cases rate.symm.trans given'
    have builder := Line.builder_of_plain mode
    rw [builder] at makes
    refine ⟨rfl, rfl, rfl, ⟨built, _, rfl, builder ▸ makes, ?_⟩, ?_⟩
    · intro mac' same stream member
      cases ethDst.symm.trans same
      rw [makes.stream_ether stream member, etherOf_plain, if_pos nonempty]
    · rw [rate]
      exact mult_eq_iff.mpr rated

theorem Effective.exists_filed (effective : Effective globalM line) {text : Text} (spells : line.Spells text) :
    ∃ entry, lineEntry true text = .ok entry := by
  obtain ⟨mac, ethDst, -⟩ := effective.ethDst
  have builder := Line.builder_of_plain effective.plain
  obtain ⟨built, made⟩ := exists_build [("eth_dst".toList, mac.text)] effective.addresses
  rw [← builder] at made
  have streams := makeStream_ok.mpr ⟨mac, ethDst, made⟩
  exact ⟨((line.n.text, line.port.value), ⟨line.attrs, some (some built)⟩),
    (lineEntry_ok spells).mpr ⟨rfl, rfl, _, streams, rfl⟩⟩

theorem Effective.exists_startPort (effective : Effective globalM line) {entry : (Text × Int) × Config}
    (filed : Filed line entry) : ∃ s, startPort globalM entry.1.1 (entry.1.2, entry.2) = .ok s := by
  obtain ⟨m, rate, -⟩ := effective.rate
  obtain ⟨built, made, -⟩ := filed.stream
  exact ⟨_, (startPort_ok filed).mpr ⟨built, m, made, rate, rfl⟩⟩

end Lines

/-- What a line is filed under. -/
def Line.key (line : Line) : Text × Int := (line.n.text, line.port.value)

theorem map_key_of_filed {lines : List Line} {entries : List ((Text × Int) × Config)}
    (filed : List.Forall₂ Filed lines entries) : entries.map Prod.fst = lines.map Line.key := by
  induction filed with
  | nil => rfl
  | cons here _ ih => rw [List.map_cons, List.map_cons, here.key, ih, Line.key]

section TakeEffect

variable {globalM : Option Text} {servers texts : List Text} {lines : List Line}
  {entries : List ((Text × Int) × Config)} {started : List Started}

theorem filed_of_read (spelled : List.Forall₂ Line.Spells lines texts)
    (read : texts.mapM (lineEntry true) = .ok entries) : List.Forall₂ Filed lines entries := by
  refine (forall₂_comp spelled (except_mapM_ok.mp read)).imp ?_
  rintro line entry ⟨text, spells, runs⟩
  exact (lineEntry_ok spells).mp runs

theorem effective_of_asSaid (spelled : List.Forall₂ Line.Spells lines texts)
    (distinct : (lines.map Line.key).Nodup) (run : startTraffic globalM servers texts = .ok started)
    {line : Line} (member : line ∈ lines) {s : Started} (inside : s ∈ started) (asSaid : AsSaid globalM line s) :
    line.n.text ∈ servers ∧ Effective globalM line := by
  obtain ⟨entries, read, origin⟩ := mem_started run
  obtain ⟨known, port, conf, found, begun⟩ := origin s inside
  have filed := filed_of_read spelled read
  have distinct' : (entries.map Prod.fst).Nodup := by rwa [map_key_of_filed filed]
  obtain ⟨line', member', here⟩ :=
    forall₂_exists_left filed ((PortConfigs.find_foldl_insert distinct').mp found)
  obtain ⟨_, _, -, -, shape⟩ := (startPort_ok here).mp begun
  have same : line' = line := by
    refine List.inj_on_of_nodup_map distinct member' member ?_
    rw [Line.key, Line.key, ← asSaid.server, ← asSaid.port, shape]
  rw [asSaid.server] at known
  rw [← same] at asSaid known ⊢
  exact ⟨known, (asSaid_iff here begun).mp asSaid⟩

theorem exists_asSaid (spelled : List.Forall₂ Line.Spells lines texts) (distinct : (lines.map Line.key).Nodup)
    (known : ∀ line ∈ lines, line.n.text ∈ servers) (effective : ∀ line ∈ lines, Effective globalM line) :
    ∃ started, startTraffic globalM servers texts = .ok started ∧
      ∀ line ∈ lines, ∃ s ∈ started, AsSaid globalM line s := by
  obtain ⟨entries, read⟩ : ∃ entries, texts.mapM (lineEntry true) = .ok entries := by
    refine except_exists_mapM_ok fun text member => ?_
    obtain ⟨line, inside, spells⟩ := forall₂_exists_left spelled member
    exact (effective line inside).exists_filed spells
  have filed := filed_of_read spelled read
  have distinct' : (entries.map Prod.fst).Nodup := by rwa [map_key_of_filed filed]
  have known' : ∀ entry ∈ entries, entry.1.1 ∈ servers := by
    intro entry member
    obtain ⟨line, inside, here⟩ := forall₂_exists_left filed member
    rw [here.key]
    exact known line inside
  have each : ∀ entry ∈ entries, ∃ s, startPort globalM entry.1.1 (entry.1.2, entry.2) = .ok s := by
    intro entry member
    obtain ⟨line, inside, here⟩ := forall₂_exists_left filed member
    exact (effective line inside).exists_startPort here
  obtain ⟨started, run, all⟩ := exists_started read distinct' known' each
  refine ⟨started, run, fun line member => ?_⟩
  obtain ⟨entry, inside, here⟩ := forall₂_exists_right filed member
  obtain ⟨s, begun, starts⟩ := all entry inside
  exact ⟨s, begun, (asSaid_iff here starts).mpr (effective line member)⟩

/-- Which lines take effect, for any set of lines for different ports. -/
theorem lines_take_effect_iff (spelled : List.Forall₂ Line.Spells lines texts)
    (distinct : (lines.map Line.key).Nodup) :
    (∃ started, startTraffic globalM servers texts = .ok started ∧
        ∀ line ∈ lines, ∃ s ∈ started, AsSaid globalM line s) ↔
      ∀ line ∈ lines, line.n.text ∈ servers ∧ Effective globalM line := by
  constructor
  · rintro ⟨started, run, said⟩ line member
    obtain ⟨s, inside, asSaid⟩ := said line member
    exact effective_of_asSaid spelled distinct run member inside asSaid
  · intro good
    exact exists_asSaid spelled distinct (fun line member => (good line member).1) fun line member => (good line member).2

end TakeEffect

def rateText : Plain := .of "10gbps".toList (by decide)

/-- The example of the help text, bonded as it stands there or not. -/
def helpLine (bonded : Bool) : Line where
  n := .of ['2', '1', '8', 't'] (by decide)
  inst := .ofNat 0
  port := .ofNat 0
  ue := .ofNat 12500
  ethDst := some (.of "40:a6:b7:63:8f:84".toList (by decide))
  m := some rateText
  bonded := bonded

theorem helpLine_spells :
    (helpLine true).Spells "n=218t,inst=0,port=0,ue=12500,eth-dst=40:a6:b7:63:8f:84,bonded,m=10gbps".toList := by
  refine ⟨(helpLine true).settings.take 5 ++ [.bonded, .m rateText], ?_, by decide⟩
  exact List.Perm.append_left _ (List.Perm.swap ..)

/-- Without `bonded` the line takes effect. -/
theorem lines_take_effect_help :
    ∃ started, startTraffic none [['2', '1', '8', 't']]
        ["n=218t,inst=0,port=0,ue=12500,eth-dst=40:a6:b7:63:8f:84,m=10gbps".toList] = .ok started ∧
      ∀ line ∈ [helpLine false], ∃ s ∈ started, AsSaid none line s := by
  have spelled : List.Forall₂ Line.Spells [helpLine false]
      ["n=218t,inst=0,port=0,ue=12500,eth-dst=40:a6:b7:63:8f:84,m=10gbps".toList] :=
    .cons ⟨(helpLine false).settings, .refl _, by decide⟩ .nil
  refine (lines_take_effect_iff spelled (List.nodup_singleton _)).mpr fun line member => ?_
  cases List.mem_singleton.mp member
  refine ⟨List.mem_singleton.mpr rfl, ⟨_, rfl, by decide⟩, rfl, ⟨_, rfl, .inl (by decide)⟩, ?_⟩
  exact ⟨by decide, by decide, by decide, by decide, by decide, by decide⟩

/-- The help text's own line is bonded, and its destination is dropped. -/
theorem help_line_loses_destination :
    (helpLine true).Spells "n=218t,inst=0,port=0,ue=12500,eth-dst=40:a6:b7:63:8f:84,bonded,m=10gbps".toList ∧
      ¬ ∃ started, startTraffic none [['2', '1', '8', 't']]
          ["n=218t,inst=0,port=0,ue=12500,eth-dst=40:a6:b7:63:8f:84,bonded,m=10gbps".toList] = .ok started ∧
        ∃ s ∈ started, AsSaid none (helpLine true) s := by
  refine ⟨helpLine_spells, ?_⟩
  rintro ⟨started, run, s, inside, asSaid⟩
  obtain ⟨-, effective⟩ := effective_of_asSaid (.cons helpLine_spells .nil) (List.nodup_singleton _) run
    List.mem_cons_self inside asSaid
  cases effective.plain

end KvmWorkload.Trex.FiveG
