import KvmWorkload.Mailbox.Sockets
import KvmWorkload.Lib.Dict
import KvmWorkload.Lib.Radix

/-! # The scripts that configure DRC

The scripts of hwdrc_postsi set the global variables and then address two cores,
one for each socket: core 1 and another one, which differs from script to
script.  Whether both sockets are reached depends on the machine.
-/

namespace KvmWorkload.Mailbox

/-- The same calls first with `core_id=1` and then with another core. -/
def eachSocket (second : Nat) (commands : List DrcCommand) : DrcScript :=
  commands.map (Prod.mk 1) ++ commands.map (Prod.mk second)

/-- The calls on one socket, in order. -/
def applyAll (commands : List DrcCommand) (regs : Registers) : Registers :=
  commands.foldl (fun regs command => command.apply regs) regs

theorem sendAll_eachSocket {Node : Type} [DecidableEq Node] (home : Nat → Node) (second : Nat)
    {commands : List DrcCommand} (twice : ∀ regs, applyAll commands (applyAll commands regs) = applyAll commands regs)
    (sockets : Node → Registers) (node : Node) :
    sendAll home sockets (eachSocket second commands) node =
      if node = home 1 ∨ node = home second then applyAll commands (sockets node) else sockets node := by
  have part : ∀ (core : Nat) (regs : Registers),
      ((commands.map (Prod.mk core)).filter fun call => home call.1 = node).foldl
        (fun regs call => call.2.apply regs) regs = if node = home core then applyAll commands regs else regs := by
    intro core regs
    by_cases here : home core = node
    · rw [List.filter_eq_self.mpr (by simp [here]), List.foldl_map, if_pos here.symm, applyAll]
    · rw [List.filter_eq_nil_iff.mpr (by simp [here]), if_neg (Ne.symm here), List.foldl_nil]
  rw [sendAll_apply, eachSocket, List.filter_append, List.foldl_append, part, part]
  by_cases first : node = home 1
  · rw [if_pos first, if_pos (Or.inl first), twice, ite_self]
  · rw [if_neg first]
    by_cases other : node = home second
    · rw [if_pos other, if_pos (Or.inr other)]
    · rw [if_neg other, if_neg (not_or.mpr ⟨first, other⟩)]

theorem sendAll_eachSocket_disable {Node : Type} [DecidableEq Node] (home : Nat → Node) (second : Nat)
    (sockets : Node → Registers) (node : Node) :
    sendAll home sockets (eachSocket second [.disable]) node =
      if node = home 1 ∨ node = home second then Function.update (sockets node) .memclosEn 0x0 else sockets node :=
  sendAll_eachSocket home second (by simp [applyAll, DrcCommand.apply]) sockets node

theorem sendAll_eachSocket_update {Node : Type} [DecidableEq Node] (home : Nat → Node) (second : Nat) (g : Settings)
    (sockets : Node → Registers) (node : Node) :
    sendAll home sockets (eachSocket second [.settingsUpdate g, .regDump]) node =
      if node = home 1 ∨ node = home second then g.value else sockets node :=
  sendAll_eachSocket home second (fun _ => rfl) sockets node

/-- The map and the attributes that the pqos scripts share. -/
def defaultSettings (config0 : BitVec 32) : Settings where
  closToMemclos := 0x0000E400
  attributesMclos0 := 0x80010100
  attributesMclos1 := 0x81200105
  attributesMclos2 := 0x8240010a
  attributesMclos3 := 0x83ff010f
  config0 := config0

/-- `$((0x01050600 + $1))`. -/
def casSettings (cas : Nat) : Settings := defaultSettings (BitVec.ofNat 32 (0x01050600 + cas))

def hwdrcIcx2SXccDisable : DrcScript := eachSocket 49 [.disable]

def hwdrcIcx2SXccInitToDefaultPqos : DrcScript :=
  eachSocket 49 [.settingsUpdate (defaultSettings 0x01800610), .regDump]

/-- hwdrc_icx_2S_xcc_init_to_default_pqos_CAS.sh. -/
def hwdrcIcx2SXccInitToDefaultPqosCas (cas : Nat) : DrcScript :=
  eachSocket 48 [.settingsUpdate (casSettings cas), .regDump]

/-- `$[mclos << closid *2]`. -/
def mapClosToMclos (closid mclos : Nat) : Nat := mclos <<< (closid * 2)

/-- The groups of `prepare_CLOStoMCLOS` and the memory class that each one gets. -/
def mclosGroups : List (Text × Nat) :=
  [("C04".toList, 0), ("C05".toList, 1), ("C06".toList, 2), ("C07".toList, 3)]

/-- `prepare_CLOStoMCLOS`; `closid` is what the closid file of each group holds. -/
def prepareClosToMclos (closid : Text → Nat) : Nat :=
  mclosGroups.foldl (fun g entry => g + mapClosToMclos (closid entry.1) entry.2) 0

/-- hwdrc_icx_2S_xcc_init_to_default_resctrl.sh. -/
def resctrlSettings (closid : Text → Nat) : Settings where
  closToMemclos := BitVec.ofNat 32 (prepareClosToMclos closid)
  attributesMclos0 := 0x00010100
  attributesMclos1 := 0x00FE0105
  attributesMclos2 := 0x00FE010A
  attributesMclos3 := 0x00FE010F
  config0 := 0x01800101

/-- The memory class of a CLOS: two bits of the map. -/
def memClassOf (closToMemclos : BitVec 32) (clos : Nat) : Nat := closToMemclos.toNat >>> (2 * clos) &&& 3

theorem four_pow (k : Nat) : 2 ^ (2 * k) = 4 ^ k := by rw [Nat.pow_mul]

/-- The class ids with their memory classes, the digits of the map in base four. -/
def mclosDigits (closid : Text → Nat) : List (Nat × Nat) := mclosGroups.map fun entry => (closid entry.1, entry.2)

theorem prepareClosToMclos_eq (closid : Text → Nat) :
    prepareClosToMclos closid = (mclosDigits closid).foldl (fun n entry => n + entry.2 * 4 ^ entry.1) 0 := by
  rw [prepareClosToMclos, mclosDigits, List.foldl_map]
  congr 1
  funext g entry
  rw [mapClosToMclos, Nat.shiftLeft_eq, Nat.mul_comm (closid entry.1), four_pow]

theorem memClassOf_ofNat (n : Nat) {clos : Nat} (inside : clos < 16) :
    memClassOf (BitVec.ofNat 32 n) clos = n / 4 ^ clos % 4 := by
  have fields : (2 : Nat) ^ 32 = 4 ^ clos * (4 * 4 ^ (15 - clos)) := by
    rw [← Nat.pow_succ', ← Nat.pow_add, show clos + (15 - clos + 1) = 16 by omega]
    rfl
  have three : (3 : Nat) = 2 ^ 2 - 1 := rfl
  rw [memClassOf, Nat.shiftRight_eq_div_pow, three, Nat.and_two_pow_sub_one_eq_mod, four_pow, BitVec.toNat_ofNat,
    fields, Nat.mod_mul_right_div_self, Nat.mod_mul_right_mod]

section Classes

variable {closid : Text → Nat}

theorem mclosDigits_places (distinct : (mclosGroups.map fun entry => closid entry.1).Nodup) :
    ((mclosDigits closid).map Prod.fst).Nodup := by
  rw [mclosDigits, List.map_map]
  exact distinct

theorem memClassOf_prepare (distinct : (mclosGroups.map fun entry => closid entry.1).Nodup) {clos : Nat}
    (inside : clos < 16) :
    memClassOf (resctrlSettings closid).closToMemclos clos = ((mclosDigits closid).lookup clos).getD 0 := by
  have fits : ∀ entry ∈ mclosDigits closid, entry.2 < 4 := by simp [mclosDigits, mclosGroups]
  rw [resctrlSettings, memClassOf_ofNat _ inside, prepareClosToMclos_eq,
    digit_foldl (mclosDigits_places distinct) fits 0 (by simp) clos, Nat.zero_div, Nat.zero_mod]

theorem lookup_mclosDigits (distinct : (mclosGroups.map fun entry => closid entry.1).Nodup) {entry : Text × Nat}
    (member : entry ∈ mclosGroups) : (mclosDigits closid).lookup (closid entry.1) = some entry.2 :=
  (@Dict.mem_entries_iff _ _ _ ⟨mclosDigits closid, mclosDigits_places distinct⟩ _ _).mp
    (List.mem_map_of_mem member)

end Classes

/-- The map gives each of the four groups its own memory class exactly when the groups have different
    class ids; then every other class has the memory class of the high-priority group. -/
theorem prepareClosToMclos_right_iff (closid : Text → Nat) (inside : ∀ entry ∈ mclosGroups, closid entry.1 < 16) :
    ((∀ entry ∈ mclosGroups,
        memClassOf (resctrlSettings closid).closToMemclos (closid entry.1) = entry.2) ↔
      (mclosGroups.map fun entry => closid entry.1).Nodup) ∧
    ((mclosGroups.map fun entry => closid entry.1).Nodup → ∀ clos < 16,
      (∀ entry ∈ mclosGroups, closid entry.1 ≠ clos) →
        memClassOf (resctrlSettings closid).closToMemclos clos = 0) := by
  refine ⟨⟨fun right => ?_, fun distinct entry member => ?_⟩, fun distinct clos small unused => ?_⟩
  · -- Two groups with one class id would have one memory class.
    have classes : (mclosGroups.map Prod.snd).Nodup := by decide
    refine List.Nodup.map_on ?_ (by decide)
    intro entry member entry' member' same
    have equal : entry.2 = entry'.2 := by rw [← right entry member, ← right entry' member', same]
    exact List.inj_on_of_nodup_map classes member member' equal
  · rw [memClassOf_prepare distinct (inside entry member), lookup_mclosDigits distinct member]
    rfl
  · have absent : (mclosDigits closid).lookup clos = none := by
      rw [List.lookup_eq_none_iff]
      intro digit member
      obtain ⟨entry, listed, rfl⟩ := List.mem_map.mp member
      simpa using Ne.symm (unused entry listed)
    rw [memClassOf_prepare distinct small, absent]
    rfl

/-- The class ids behind a fresh mount, on which `init_resctrl` creates the groups in order. -/
def freshClosid (group : Text) : Nat := readDecimal group.tail

/-- On a fresh mount the map is the constant of the pqos scripts. -/
example : (resctrlSettings freshClosid).closToMemclos = (defaultSettings 0).closToMemclos := by decide

theorem prepareClosToMclos_right_fresh :
    memClassOf (resctrlSettings freshClosid).closToMemclos (freshClosid "C07".toList) = 3 :=
  (prepareClosToMclos_right_iff freshClosid (by decide)).1.mpr (by decide) ("C07".toList, 3) (by decide)

end KvmWorkload.Mailbox
