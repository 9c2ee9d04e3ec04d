import KvmWorkload.Lib.Radix
import KvmWorkload.Lib.RegisterFile
import KvmWorkload.Mailbox.ShellDriver

/-! # Updating the DRC settings

`hwdrc_settings_update` switches DRC off, writes six registers and switches it
on again; `hwdrc_reg_dump` reads all seven registers back.  The firmware behind
the mailbox is a register file, one register for each command word up to the
RUN_BUSY and RD_WR bits.
-/

namespace KvmWorkload.Mailbox

/-- The global variables that `hwdrc_settings_update` reads. -/
structure Settings where
  closToMemclos : BitVec 32
  attributesMclos0 : BitVec 32
  attributesMclos1 : BitVec 32
  attributesMclos2 : BitVec 32
  attributesMclos3 : BitVec 32
  config0 : BitVec 32

/-- The arguments of the calls of `hwdrc_write` in `hwdrc_settings_update`. -/
def settingsWrites (g : Settings) : List (Msr × Msr) :=
  [(0x810054d0, 0x0),
   (0x810050d0, g.closToMemclos.setWidth 64),
   (0x810051d0, g.attributesMclos0.setWidth 64),
   (0x810851d0, g.attributesMclos1.setWidth 64),
   (0x811051d0, g.attributesMclos2.setWidth 64),
   (0x811851d0, g.attributesMclos3.setWidth 64),
   (0x810052d0, g.config0.setWidth 64),
   (0x810054d0, 0x2)]

def hwdrcSettingsUpdate (coreId : Nat) (g : Settings) : Shell Unit :=
  (settingsWrites g).forM fun call => hwdrcWrite coreId call.1 call.2

/-- The registers in the order in which `hwdrc_reg_dump` reads them. -/
inductive Register where
  | memclosEn
  | closToMemclos
  | attributesMclos0
  | attributesMclos1
  | attributesMclos2
  | attributesMclos3
  | config0
  deriving DecidableEq

/-- The argument of `hwdrc_read` for each register in `hwdrc_reg_dump`. -/
def Register.readCode : Register → Msr
  | .memclosEn => 0x800054d0
  | .closToMemclos => 0x800050d0
  | .attributesMclos0 => 0x800051d0
  | .attributesMclos1 => 0x800851d0
  | .attributesMclos2 => 0x801051d0
  | .attributesMclos3 => 0x801851d0
  | .config0 => 0x800052d0

/-- The value that an update is meant to leave in each register. -/
def Settings.value (g : Settings) : Register → BitVec 32
  | .memclosEn => 0x2
  | .closToMemclos => g.closToMemclos
  | .attributesMclos0 => g.attributesMclos0
  | .attributesMclos1 => g.attributesMclos1
  | .attributesMclos2 => g.attributesMclos2
  | .attributesMclos3 => g.attributesMclos3
  | .config0 => g.config0

/-- The eight hexadecimal digits of a value. -/
def hexDigits (value : BitVec 32) : Text := (Nat.toDigits 16 value.toNat).leftpad 8 '0'

/-- RD_WR is bit 24; the rest of the word without RUN_BUSY selects the register; only the low half
    of the data register takes part. -/
def firmware : Protocol Msr Msr (BitVec 32) where
  store word := word.getLsbD 24
  select word := word &&& ~~~0x81000000
  content value := value.setWidth 32

/-- The registers and the data register of the firmware. -/
abbrev Firmware := RegisterFile Msr (BitVec 32)

def Register.key (reg : Register) : Msr := firmware.select reg.readCode

/-- The registers that may only change while DRC is off. -/
def Guarded (key : Msr) : Prop := ∃ reg : Register, reg ≠ .memclosEn ∧ key = reg.key

def Disabled (file : Firmware) : Prop := file.regs Register.memclosEn.key = 0

/-- A poll that reads `value` finds the mailbox idle: `run_busy` is 0 behind it.

    This is about the script's own test.  A register with RUN_BUSY clear whose text has a letter
    behind a digit is not found idle; the test stops with an arithmetic error. -/
def FindsIdle (value : Msr) : Prop :=
  ∃ n, shellOperand (rdmsrText value) = some n ∧ n &&& 0x80000000 = 0

/-- The run so far left the firmware in the state `file` and stored guarded registers only while DRC
    was off; the coming polls find the mailbox idle, and there are enough values to read. -/
structure Ready (start : Firmware) (polls reads : Nat) (file : Firmware) (m : Machine) : Prop where
  idle : ∀ value ∈ m.interfaceValues, FindsIdle value
  polls : polls ≤ m.interfaceValues.length
  reads : reads ≤ m.dataValues.length
  file : start.after firmware m.trace = file
  ordered : StoresWhile firmware start Guarded Disabled m.trace

section Commands

variable {start file : Firmware} {polls reads : Nat} {coreId : Nat}

theorem rdInterfaceMsr_ready :
    Triple (Ready start (polls + 1) reads file) (rdInterfaceMsr coreId)
      (fun value m => FindsIdle value ∧ Ready start polls reads file m) (fun _ => False) := by
  intro m ready
  rw [rdInterfaceMsr]
  have idle := ready.idle
  have enough := ready.polls
  cases coming : m.interfaceValues with
  | nil =>
      rw [coming] at enough
      exact Nat.not_succ_le_zero _ enough
  | cons value later =>
      rw [coming] at idle enough
      refine ⟨idle value List.mem_cons_self, ?_⟩
      constructor
      · exact fun v member => idle v (List.mem_cons_of_mem _ member)
      · exact Nat.le_of_succ_le_succ enough
      · exact ready.reads
      · rw [RegisterFile.after_snoc, ready.file]
        rfl
      · exact ready.ordered.snoc fun _ _ other => by cases other

theorem status_ready :
    Triple (Ready start (polls + 1) reads file) (rdInterfaceMsr coreId)
      (fun _ => Ready start polls reads file) (fun _ => False) :=
  rdInterfaceMsr_ready.consequence (fun _ ready => ready) (fun _ _ post => post.2) (fun _ stop => stop)

/-- A poll that finds the mailbox idle ends the loop. -/
theorem waitUntilRunBusyCleared_ready :
    Triple (Ready start (polls + 1) reads file) (waitUntilRunBusyCleared coreId)
      (fun _ => Ready start polls reads file) (fun _ => False) := by
  intro m ready
  rw [waitUntilRunBusyCleared]
  cases coming : m.interfaceValues with
  | nil =>
      have enough := ready.polls
      rw [coming] at enough
      exact Nat.not_succ_le_zero _ enough
  | cons value later =>
      have loop : Triple (Ready start (polls + 1) reads file) (pollLoop coreId (value :: later))
          (fun _ => Ready start polls reads file) (fun _ => False) := by
        refine rdInterfaceMsr_ready.bind fun value => ?_
        rintro m' ⟨⟨n, operand, zero⟩, ready'⟩
        simpa [runBusy, operand, zero, bind, EStateM.bind, pure, EStateM.pure] using ready'
      exact loop m ready

theorem wrmsr_ready {reg : Reg} {value : Msr}
    (allowed : reg = .interface → firmware.store value = true → Guarded (firmware.select value) →
      Disabled file) :
    Triple (Ready start polls reads file) (wrmsr coreId reg value)
      (fun _ => Ready start polls reads (file.step firmware (.write coreId reg value)))
      (fun _ => False) := by
  intro m ready
  constructor
  · exact ready.idle
  · exact ready.polls
  · exact ready.reads
  · rw [RegisterFile.after_snoc, ready.file]
  · apply ready.ordered.snoc
    intro core word same store guarded
    cases same
    rw [ready.file]
    exact allowed rfl store guarded

theorem assign_ready {f : Machine → Machine}
    (same : ∀ m, (f m).interfaceValues = m.interfaceValues ∧ (f m).dataValues = m.dataValues ∧
      (f m).trace = m.trace) :
    Triple (Ready start polls reads file) (modify f : Shell Unit)
      (fun _ => Ready start polls reads file) (fun _ => False) := by
  intro m ready
  obtain ⟨interfaceValues, dataValues, trace⟩ := same m
  change Ready start polls reads file (f m)
  constructor
  · exact interfaceValues ▸ ready.idle
  · exact interfaceValues ▸ ready.polls
  · exact dataValues ▸ ready.reads
  · exact trace ▸ ready.file
  · exact trace ▸ ready.ordered

/-- What one call of `hwdrc_write` with a store command does to the firmware. -/
def storeCall (file : Firmware) (call : Msr × Msr) : Firmware where
  regs := Function.update file.regs (firmware.select call.1) (firmware.content call.2)
  data := firmware.content call.2

theorem hwdrcWrite_ready {call : Msr × Msr} (store : firmware.store call.1 = true)
    (allowed : Guarded (firmware.select call.1) → Disabled file) :
    Triple (Ready start (polls + 3) reads file) (hwdrcWrite coreId call.1 call.2)
      (fun _ => Ready start polls reads (storeCall file call)) (fun _ => False) := by
  refine waitUntilRunBusyCleared_ready.bind fun _ => ?_
  refine (wrmsr_ready (fun other => by cases other)).bind fun _ => ?_
  refine (wrmsr_ready (fun _ _ guarded => ?_)).bind fun _ => ?_
  · exact allowed guarded
  have stored : ((file.step firmware (.write coreId .data call.2)).step firmware
      (.write coreId .interface call.1)) = storeCall file call := by
    simp only [RegisterFile.step, store, if_true, storeCall]
  rw [stored]
  refine waitUntilRunBusyCleared_ready.bind fun _ => ?_
  refine status_ready.bind fun _ => ?_
  exact assign_ready fun _ => ⟨rfl, rfl, rfl⟩

theorem slice_rdmsrPadded (value : Msr) :
    ((rdmsrPadded value).drop 8).take 8 = hexDigits (firmware.content value) := by
  have low : (firmware.content value).toNat = value.toNat % 16 ^ 8 := by
    simp [firmware, BitVec.toNat_setWidth]
  have fits : value.toNat < 16 ^ (8 + 8) := value.isLt
  have sliced : (rdmsrPadded value).drop 8 = hexDigits (firmware.content value) := by
    rw [hexDigits, low]
    exact drop_leftpad_toDigits (by omega) (by omega) fits
  have width : (hexDigits (firmware.content value)).length = 8 := by
    have small : (firmware.content value).toNat < 16 ^ 8 := (firmware.content value).isLt
    rw [hexDigits, leftpad_toDigits (by omega) (by omega) small, length_fixedDigits]
  rw [sliced, List.take_of_length_le (Nat.le_of_eq width)]

/-- What one call of `hwdrc_read` leaves in the firmware. -/
def loadCall (file : Firmware) (code : Msr) : Firmware where
  regs := file.regs
  data := file.regs (firmware.select code)

theorem hwdrcRead_ready {code : Msr} (load : firmware.store code = false) :
    Triple (Ready start (polls + 3) (reads + 1) file) (hwdrcRead coreId code)
      (fun _ m => Ready start polls reads (loadCall file code) m ∧
        (Answers firmware start m.trace → m.gRetData = hexDigits (file.regs (firmware.select code))))
      (fun _ => False) := by
  refine waitUntilRunBusyCleared_ready.bind fun _ => ?_
  refine (wrmsr_ready (fun _ store => by simp [load] at store)).bind fun _ => ?_
  have loaded : file.step firmware (.write coreId .interface code) = loadCall file code := by
    simp [RegisterFile.step, load, loadCall]
  rw [loaded]
  refine waitUntilRunBusyCleared_ready.bind fun _ => ?_
  refine status_ready.bind fun _ => ?_
  refine (assign_ready ?_).bind fun _ => ?_
  · exact fun _ => ⟨rfl, rfl, rfl⟩
  intro m ready
  cases coming : m.dataValues with
  | nil =>
      have enough := ready.reads
      rw [coming] at enough
      exact absurd enough (Nat.not_succ_le_zero _)
  | cons value later =>
      have enough := ready.reads
      rw [coming] at enough
      simp only [rdDataMsr, coming, bind, EStateM.bind]
      refine ⟨?_, ?_⟩
      · constructor
        · exact ready.idle
        · exact ready.polls
        · exact Nat.le_of_succ_le_succ enough
        · rw [RegisterFile.after_snoc, ready.file]
          rfl
        · exact ready.ordered.snoc fun _ _ other => by cases other
      · intro answers
        have answer := Answers.last answers
        rw [ready.file] at answer
        change ((rdmsrPadded value).drop 8).take 8 = _
        rw [slice_rdmsrPadded, answer]
        rfl

/-- Every call stores, and guarded registers are stored only while DRC is off. -/
def InOrder (file : Firmware) : List (Msr × Msr) → Prop
  | [] => True
  | call :: rest => firmware.store call.1 = true ∧
      (Guarded (firmware.select call.1) → Disabled file) ∧ InOrder (storeCall file call) rest

theorem writes_ready {writes : List (Msr × Msr)} (inOrder : InOrder file writes) :
    Triple (Ready start (polls + 3 * writes.length) reads file)
      (writes.forM fun call => hwdrcWrite coreId call.1 call.2)
      (fun _ => Ready start polls reads (writes.foldl storeCall file)) (fun _ => False) := by
  induction writes generalizing file with
  | nil => exact Triple.pure ()
  | cons call rest ih =>
      obtain ⟨store, allowed, later⟩ := inOrder
      have need : polls + 3 * (call :: rest).length = polls + 3 * rest.length + 3 := by
        rw [List.length_cons]
        omega
      rw [need]
      exact (hwdrcWrite_ready store allowed).bind fun _ => ih later

theorem not_store_readCode (reg : Register) : firmware.store reg.readCode = false := by
  cases reg <;> decide

theorem reads_ready (regs : List Register) :
    Triple (Ready start (polls + 3 * regs.length) (reads + regs.length) file)
      (regs.forM fun reg => hwdrcRead coreId reg.readCode)
      (fun _ m => ∃ file', file'.regs = file.regs ∧ Ready start polls reads file' m)
      (fun _ => False) := by
  induction regs generalizing file with
  | nil => exact fun m ready => ⟨file, rfl, ready⟩
  | cons reg rest ih =>
      have load := not_store_readCode reg
      have needPolls : polls + 3 * (reg :: rest).length = polls + 3 * rest.length + 3 := by
        rw [List.length_cons]
        omega
      have needReads : reads + (reg :: rest).length = reads + rest.length + 1 := by
        rw [List.length_cons, Nat.add_assoc]
      rw [needPolls, needReads]
      refine ((hwdrcRead_ready load).consequence (fun _ ready => ready) (fun _ _ post => post.1)
        (fun _ stop => stop)).bind fun _ => ?_
      exact ih

end Commands

theorem regs_storeCall (file : Firmware) (call : Msr × Msr) (key : Msr) :
    (storeCall file call).regs key =
      if key = firmware.select call.1 then firmware.content call.2 else file.regs key :=
  Function.update_apply ..

theorem key_injective {reg reg' : Register} (same : reg.key = reg'.key) : reg = reg' := by
  revert same
  cases reg <;> cases reg' <;> decide

theorem inOrder_append {writes rest : List (Msr × Msr)} {file : Firmware} (off : Disabled file)
    (others : ∀ call ∈ writes,
      firmware.store call.1 = true ∧ Register.memclosEn.key ≠ firmware.select call.1)
    (later : ∀ file, InOrder file rest) : InOrder file (writes ++ rest) := by
  induction writes generalizing file with
  | nil => exact later file
  | cons call writes ih =>
      rw [List.forall_mem_cons] at others
      obtain ⟨⟨store, other⟩, others⟩ := others
      have still : Disabled (storeCall file call) := by
        rw [Disabled, regs_storeCall, if_neg other]
        exact off
      exact ⟨store, fun _ => off, ih still others⟩

theorem inOrder_settingsWrites (file : Firmware) (g : Settings) : InOrder file (settingsWrites g) := by
  have switch : ¬ Guarded (firmware.select 0x810054d0) := by
    rintro ⟨reg, other, same⟩
    have key : reg.key = Register.memclosEn.key := same.symm
    exact other (key_injective key)
  have off : Disabled (storeCall file (0x810054d0, 0x0)) := by
    rw [Disabled, regs_storeCall, if_pos (by decide)]
    decide
  refine ⟨rfl, fun guarded => absurd guarded switch, ?_⟩
  change InOrder _ ((settingsWrites g).tail.dropLast ++ _)
  refine inOrder_append off ?_ ?_
  · simp only [settingsWrites, List.tail_cons, List.dropLast, List.forall_mem_cons, List.not_mem_nil,
      false_implies, implies_true, and_true]
    decide
  · exact fun _ => ⟨rfl, fun guarded => absurd guarded switch, trivial⟩

theorem regs_settingsWrites (file : Firmware) (g : Settings) (reg : Register) :
    ((settingsWrites g).foldl storeCall file).regs reg.key = g.value reg := by
  have low : ∀ value : BitVec 32, firmware.content (value.setWidth 64) = value := by
    intro value
    simp [firmware]
  simp only [settingsWrites, List.foldl_cons, List.foldl_nil, regs_storeCall, low]
  cases reg <;> rfl

/-- An update followed by reads of any registers, the last one of `reg`. -/
def updateAndRead (coreId : Nat) (g : Settings) (earlier : List Register) (reg : Register) : Shell Unit := do
  hwdrcSettingsUpdate coreId g
  earlier.forM fun reg => hwdrcRead coreId reg.readCode
  hwdrcRead coreId reg.readCode

theorem updateAndRead_ready (start : Firmware) (coreId : Nat) (g : Settings) (earlier : List Register)
    (reg : Register) :
    Triple (Ready start (3 + 3 * earlier.length + 3 * (settingsWrites g).length) (1 + earlier.length) start)
      (updateAndRead coreId g earlier reg)
      (fun _ m => StoresWhile firmware start Guarded Disabled m.trace ∧
        (Answers firmware start m.trace → m.gRetData = hexDigits (g.value reg)))
      (fun _ => False) := by
  refine (writes_ready (inOrder_settingsWrites start g)).bind fun _ => ?_
  refine (reads_ready earlier).bind fun _ => ?_
  rintro m ⟨file, unchanged, ready⟩
  have value : file.regs reg.key = g.value reg := by
    rw [unchanged, regs_settingsWrites]
  have read := @hwdrcRead_ready start file 0 0 coreId _ (not_store_readCode reg)
  refine read.consequence (fun _ start => start) ?_ (fun _ stop => stop) m ready
  rintro _ m' ⟨ready', result⟩
  refine ⟨ready'.ordered, fun answers => ?_⟩
  rw [result answers, ← value]
  rfl

/-- Whatever the registers held before, an update is complete: every later read of a register gives
    the digits that were written.  It is also ordered: while a guarded register is stored, DRC is off. -/
theorem hwdrcSettingsUpdate_complete_ordered (start : Firmware) (coreId : Nat) (g : Settings)
    (earlier : List Register) (reg : Register) {interfaceValues dataValues : List Msr}
    (idle : ∀ value ∈ interfaceValues, FindsIdle value)
    (polls : 3 * ((settingsWrites g).length + earlier.length + 1) ≤ interfaceValues.length)
    (reads : earlier.length + 1 ≤ dataValues.length)
    (answers : Answers firmware start
      (stateAfter (updateAndRead coreId g earlier reg) (fresh interfaceValues dataValues)).trace) :
    ∃ m, updateAndRead coreId g earlier reg (fresh interfaceValues dataValues) = .ok () m ∧
      m.gRetData = hexDigits (g.value reg) ∧ StoresWhile firmware start Guarded Disabled m.trace := by
  have ready : Ready start (3 + 3 * earlier.length + 3 * (settingsWrites g).length)
      (1 + earlier.length) start (fresh interfaceValues dataValues) := by
    constructor
    · exact idle
    · exact Nat.le_trans (by omega) polls
    · exact Nat.le_trans (by omega) reads
    · rfl
    · exact StoresWhile.nil
  obtain ⟨_, m, run, ordered, complete⟩ := (updateAndRead_ready start coreId g earlier reg).returns ready
  rw [stateAfter, run] at answers
  exact ⟨m, run, complete answers, ordered⟩

/-- The settings of one round of os_mailbox_validate.sh. -/
def sampleSettings : Settings where
  closToMemclos := 0x0a1b2c3d
  attributesMclos0 := 0x80ff0001
  attributesMclos1 := 0x81ff0102
  attributesMclos2 := 0x82ff0203
  attributesMclos3 := 0x83ff0304
  config0 := 0x01800180

/-- All registers held ones before; the dump starts with MEMCLOS_EN and the map, and CONFIG0 is read
    behind them with a stale high half in the data register. -/
theorem hwdrcSettingsUpdate_complete_ordered_sample :
    ∃ m, updateAndRead 1 sampleSettings [.memclosEn, .closToMemclos] .config0
        (fresh (List.replicate 33 0) [0x2, 0x0a1b2c3d, 0xffffffff01800180]) = .ok () m ∧
      m.gRetData = "01800180".toList ∧
      StoresWhile firmware ⟨fun _ => 0xffffffff, 0⟩ Guarded Disabled m.trace := by
  refine hwdrcSettingsUpdate_complete_ordered ⟨fun _ => 0xffffffff, 0⟩ 1 sampleSettings
    [.memclosEn, .closToMemclos] .config0 ?_ (by decide) (by decide) (by decide +kernel)
  intro value member
  rw [List.eq_of_mem_replicate member]
  exact ⟨0, by decide, by decide⟩

end KvmWorkload.Mailbox
