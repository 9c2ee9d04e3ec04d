import KvmWorkload.Lib.RegisterBank
import KvmWorkload.Mailbox.SettingsUpdate

/-! # The DRC registers of several sockets

There is one OS mailbox for each socket, and a script reaches it through a core
of that socket.  `hwdrc_disable`, `hwdrc_enable`, `hwdrc_settings_update` and
`hwdrc_reg_dump` each talk to one core; a sequence of them, through any cores,
refines a controller that keeps the seven registers of each socket.
-/

namespace KvmWorkload.Mailbox

def hwdrcDisable (coreId : Nat) : Shell Unit := hwdrcWrite coreId 0x810054d0 0x0

def hwdrcEnable (coreId : Nat) : Shell Unit := hwdrcWrite coreId 0x810054d0 0x2

/-- The text in front of the value of each register in `hwdrc_reg_dump`. -/
def Register.label : Register → Text
  | .memclosEn => "MEMCLOS_EN=".toList
  | .closToMemclos => "CLOSToMEMCLOS=".toList
  | .attributesMclos0 => "ATTRIBUTES:MLCOS0= ".toList
  | .attributesMclos1 => "ATTRIBUTES:MLCOS1= ".toList
  | .attributesMclos2 => "ATTRIBUTES:MLCOS2= ".toList
  | .attributesMclos3 => "ATTRIBUTES:MLCOS3= ".toList
  | .config0 => "CONFIG0= ".toList

def dumpOrder : List Register :=
  [.memclosEn, .closToMemclos, .attributesMclos0, .attributesMclos1, .attributesMclos2, .attributesMclos3,
   .config0]

/-- `$g_ret_data`. -/
def readRetData : Shell Text := fun m => .ok m.gRetData m

def dumpRegisters (coreId : Nat) : List Register → Shell (List Text)
  | [] => pure []
  | reg :: rest => do
      hwdrcRead coreId reg.readCode
      let data ← readRetData
      let lines ← dumpRegisters coreId rest
      pure ((reg.label ++ data) :: lines)

/-- `hwdrc_reg_dump`, with the lines that it prints. -/
def hwdrcRegDump (coreId : Nat) : Shell (List Text) := dumpRegisters coreId dumpOrder

/-- A call of one of the functions. -/
inductive DrcCommand where
  | settingsUpdate (g : Settings)
  | disable
  | enable
  | regDump

/-- The call with `core_id` set, and the registers that it prints. -/
def DrcCommand.prog (coreId : Nat) : DrcCommand → Shell (List Text)
  | .settingsUpdate g => do
      hwdrcSettingsUpdate coreId g
      pure []
  | .disable => do
      hwdrcDisable coreId
      pure []
  | .enable => do
      hwdrcEnable coreId
      pure []
  | .regDump => hwdrcRegDump coreId

/-- A script: calls in order, each with the value that `core_id` has at the time. -/
abbrev DrcScript := List (Nat × DrcCommand)

def runScript : DrcScript → Shell (List Text)
  | [] => pure []
  | (coreId, command) :: rest => do
      let lines ← command.prog coreId
      let later ← runScript rest
      pure (lines ++ later)

/-- The registers of one socket. -/
abbrev Registers := Register → BitVec 32

def DrcCommand.apply : DrcCommand → Registers → Registers
  | .settingsUpdate g, _ => g.value
  | .disable, regs => Function.update regs .memclosEn 0x0
  | .enable, regs => Function.update regs .memclosEn 0x2
  | .regDump, regs => regs

def DrcCommand.printed (regs : Registers) : DrcCommand → List Text
  | .regDump => dumpOrder.map fun reg => reg.label ++ hexDigits (regs reg)
  | _ => []

variable {Node : Type} [DecidableEq Node]

/-- A call changes the socket of its core. -/
def send (home : Nat → Node) (sockets : Node → Registers) (call : Nat × DrcCommand) : Node → Registers :=
  Function.update sockets (home call.1) (call.2.apply (sockets (home call.1)))

/-- The sockets after a script. -/
def sendAll (home : Nat → Node) (sockets : Node → Registers) (script : DrcScript) : Node → Registers :=
  script.foldl (send home) sockets

/-- What the dumps of a script print. -/
def printedBy (home : Nat → Node) : DrcScript → (Node → Registers) → List Text
  | [], _ => []
  | call :: rest, sockets =>
      call.2.printed (sockets (home call.1)) ++ printedBy home rest (send home sockets call)

theorem sendAll_apply (home : Nat → Node) (sockets : Node → Registers) (script : DrcScript) (node : Node) :
    sendAll home sockets script node =
      (script.filter fun call => home call.1 = node).foldl (fun regs call => call.2.apply regs) (sockets node) := by
  induction script generalizing sockets with
  | nil => rfl
  | cons call rest ih =>
      rw [sendAll, List.foldl_cons]
      refine (ih (send home sockets call)).trans ?_
      by_cases here : home call.1 = node
      · subst here
        rw [send, Function.update_self, List.filter_cons_of_pos (by simp), List.foldl_cons]
      · rw [send, Function.update_of_ne (Ne.symm here), List.filter_cons_of_neg (by simpa using here)]

/-- The same surroundings with the accesses `before` in front. -/
def Machine.behind (before : Trace Nat Msr) (m : Machine) : Machine := { m with trace := before ++ m.trace }

def OnlyCore (coreId : Nat) (m : Machine) : Prop := ∀ event ∈ m.trace, event.core = coreId

/-- Earlier accesses make no difference to the program, and its own go through `coreId`. -/
structure Local {α : Type} (coreId : Nat) (prog : Shell α) : Prop where
  commutes : ∀ before, Commutes (Machine.behind before) prog
  only : Triple (OnlyCore coreId) prog (fun _ => OnlyCore coreId) (OnlyCore coreId)

theorem OnlyCore.snoc {coreId : Nat} {m : Machine} (sofar : OnlyCore coreId m) {event : Event Nat Msr}
    (own : event.core = coreId) : ∀ e ∈ m.trace ++ [event], e.core = coreId := by
  intro e member
  rcases List.mem_append.mp member with earlier | last
  · exact sofar e earlier
  · rw [List.mem_singleton.mp last, own]

namespace Local

variable {α β : Type} {coreId : Nat}

theorem pure (a : α) : Local coreId (Pure.pure a : Shell α) :=
  ⟨fun _ => Commutes.pure a, Triple.pure a⟩

theorem bind {first : Shell α} {next : α → Shell β} (left : Local coreId first)
    (right : ∀ a, Local coreId (next a)) : Local coreId (first >>= next) :=
  ⟨fun before => (left.commutes before).bind fun a => (right a).commutes before,
    left.only.bind fun a => (right a).only⟩

theorem forM {body : α → Shell Unit} (step : ∀ a, Local coreId (body a)) (xs : List α) :
    Local coreId (xs.forM body) :=
  ⟨fun before => Commutes.forM (fun a => (step a).commutes before) xs, Triple.forM (fun a => (step a).only) xs⟩

theorem rdInterfaceMsr : Local coreId (rdInterfaceMsr coreId) := by
  constructor
  · intro before m
    rw [Mailbox.rdInterfaceMsr, Mailbox.rdInterfaceMsr]
    cases coming : m.interfaceValues with
    | nil => simp only [Machine.behind, coming, mapState]
    | cons value later => simp only [Machine.behind, coming, mapState, List.append_assoc]
  · intro m only
    rw [Mailbox.rdInterfaceMsr]
    cases m.interfaceValues with
    | nil => exact only
    | cons value later => exact only.snoc rfl

theorem rdDataMsr : Local coreId (rdDataMsr coreId) := by
  constructor
  · intro before m
    rw [Mailbox.rdDataMsr, Mailbox.rdDataMsr]
    cases coming : m.dataValues with
    | nil => simp only [Machine.behind, coming, mapState]
    | cons value later => simp only [Machine.behind, coming, mapState, List.append_assoc]
  · intro m only
    rw [Mailbox.rdDataMsr]
    cases m.dataValues with
    | nil => exact only
    | cons value later => exact only.snoc rfl

theorem wrmsr (reg : Reg) (value : Msr) : Local coreId (wrmsr coreId reg value) := by
  constructor
  · intro before m
    simp only [Mailbox.wrmsr, Machine.behind, mapState, List.append_assoc]
  · exact fun m only => only.snoc rfl

theorem assign {f : Machine → Machine} (swap : ∀ before m, f (m.behind before) = (f m).behind before)
    (same : ∀ m, (f m).trace = m.trace) : Local coreId (modify f : Shell Unit) := by
  refine ⟨fun before => Commutes.modify (swap before), fun m only => ?_⟩
  change OnlyCore coreId (f m)
  rw [OnlyCore, same]
  exact only

theorem readRetData : Local coreId readRetData :=
  ⟨fun _ => Commutes.gets fun _ => rfl, fun _ only => only⟩

theorem runBusy (value : Msr) : Local coreId (runBusy value) := by
  rw [Mailbox.runBusy]
  cases shellOperand (rdmsrText value) with
  | none => exact ⟨fun _ => Commutes.throw _, Triple.throw _⟩
  | some n => exact pure _

theorem pollLoop (values : List Msr) : Local coreId (pollLoop coreId values) := by
  induction values with
  | nil => exact ⟨fun _ => Commutes.throw _, Triple.throw _⟩
  | cons value later ih =>
      refine rdInterfaceMsr.bind fun value => (runBusy value).bind fun busy => ?_
      by_cases zero : busy = 0
      · rw [if_pos zero]
        exact pure ()
      · rw [if_neg zero]
        exact ih

theorem waitUntilRunBusyCleared : Local coreId (waitUntilRunBusyCleared coreId) :=
  ⟨fun before m => (pollLoop m.interfaceValues).commutes before m,
    fun m only => (pollLoop m.interfaceValues).only m only⟩

theorem hwdrcWrite (valueInterface valueData : Msr) : Local coreId (hwdrcWrite coreId valueInterface valueData) := by
  refine waitUntilRunBusyCleared.bind fun _ => ?_
  refine (wrmsr _ _).bind fun _ => ?_
  refine (wrmsr _ _).bind fun _ => ?_
  refine waitUntilRunBusyCleared.bind fun _ => ?_
  refine rdInterfaceMsr.bind fun _ => ?_
  exact assign (fun _ _ => rfl) fun _ => rfl

theorem hwdrcRead (valueInterface : Msr) : Local coreId (hwdrcRead coreId valueInterface) := by
  refine waitUntilRunBusyCleared.bind fun _ => ?_
  refine (wrmsr _ _).bind fun _ => ?_
  refine waitUntilRunBusyCleared.bind fun _ => ?_
  refine rdInterfaceMsr.bind fun _ => ?_
  refine (assign ?_ ?_).bind fun _ => ?_
  · exact fun _ _ => rfl
  · exact fun _ => rfl
  refine rdDataMsr.bind fun _ => ?_
  exact assign (fun _ _ => rfl) fun _ => rfl

theorem dumpRegisters (regs : List Register) : Local coreId (dumpRegisters coreId regs) := by
  induction regs with
  | nil => exact pure []
  | cons reg rest ih =>
      exact (hwdrcRead _).bind fun _ => readRetData.bind fun _ => ih.bind fun _ => pure _

theorem command (command : DrcCommand) : Local coreId (command.prog coreId) := by
  cases command with
  | settingsUpdate g => exact (forM (fun call : Msr × Msr => hwdrcWrite call.1 call.2) _).bind fun _ => pure []
  | disable => exact (hwdrcWrite _ _).bind fun _ => pure []
  | enable => exact (hwdrcWrite _ _).bind fun _ => pure []
  | regDump => exact dumpRegisters dumpOrder

theorem run_behind {prog : Shell α} (own : Local coreId prog) (m : Machine) :
    prog m = mapState (Machine.behind m.trace) (prog { m with trace := [] }) := by
  have same : Machine.behind m.trace { m with trace := [] } = m := by simp [Machine.behind]
  rw [← own.commutes m.trace { m with trace := [] }, same]

theorem trace_grows {prog : Shell α} (own : Local coreId prog) (m : Machine) :
    ∃ new, (stateAfter prog m).trace = m.trace ++ new := by
  rw [stateAfter, own.run_behind m]
  cases prog { m with trace := [] } with
  | ok a m' => exact ⟨m'.trace, rfl⟩
  | error e m' => exact ⟨m'.trace, rfl⟩

/-- What follows from the answers so far still follows when there are more of them. -/
theorem answered {prog : Shell α} (own : Local coreId prog) (start : Firmware) (A : Prop)
    {P E : Machine → Prop} {Q : α → Machine → Prop} (triple : Triple P prog Q E) :
    Triple (fun m => P m ∧ (Answers firmware start m.trace → A)) prog
      (fun a m => Q a m ∧ (Answers firmware start m.trace → A)) E := by
  rintro m ⟨ready, known⟩
  have ends := triple m ready
  obtain ⟨new, grown⟩ := own.trace_grows m
  cases run : prog m with
  | ok a m' =>
      rw [run] at ends
      rw [stateAfter, run] at grown
      refine ⟨ends, fun answers => known ?_⟩
      rw [grown] at answers
      exact answers.front
  | error e m' =>
      rw [run] at ends
      exact ends

end Local

/-- The registers of a file by name. -/
def registers (file : Firmware) : Registers := fun reg => file.regs reg.key

/-- How many polls and how many reads of the data register a call needs when the mailbox is idle. -/
def DrcCommand.polls : DrcCommand → Nat
  | .settingsUpdate _ => 24
  | .disable => 3
  | .enable => 3
  | .regDump => 21

def DrcCommand.reads : DrcCommand → Nat
  | .regDump => 7
  | _ => 0

/-- The needs of a whole script. -/
def scriptPolls : DrcScript → Nat
  | [] => 0
  | call :: rest => call.2.polls + scriptPolls rest

def scriptReads : DrcScript → Nat
  | [] => 0
  | call :: rest => call.2.reads + scriptReads rest

section OneFile

variable {start file : Firmware} {polls reads : Nat} {coreId : Nat}

theorem dumpRegisters_ready (regs : List Register) :
    Triple (Ready start (polls + 3 * regs.length) (reads + regs.length) file) (dumpRegisters coreId regs)
      (fun lines m => (∃ file', file'.regs = file.regs ∧ Ready start polls reads file' m) ∧
        (Answers firmware start m.trace →
          lines = regs.map fun reg => reg.label ++ hexDigits (registers file reg)))
      (fun _ => False) := by
  induction regs generalizing file with
  | nil => exact fun m ready => ⟨⟨file, rfl, ready⟩, fun _ => rfl⟩
  | cons reg rest ih =>
      have needPolls : polls + 3 * (reg :: rest).length = polls + 3 * rest.length + 3 := by
        rw [List.length_cons]
        omega
      have needReads : reads + (reg :: rest).length = reads + rest.length + 1 := by
        rw [List.length_cons, Nat.add_assoc]
      rw [needPolls, needReads]
      refine (hwdrcRead_ready (not_store_readCode reg)).bind fun _ => ?_
      rintro m ⟨ready, read⟩
      -- The line of `reg` is known from here on; the rest is read from the same registers.
      have line := (Local.dumpRegisters rest).answered start (m.gRetData = hexDigits (registers file reg))
        (@ih (loadCall file reg.readCode))
      refine (line.bind fun lines => ?_) m ⟨ready, read⟩
      rintro m' ⟨⟨state, printed⟩, data⟩
      refine ⟨state, fun answers => ?_⟩
      rw [printed answers, data answers]
      rfl

theorem not_guarded_switch : ¬ Guarded (firmware.select 0x810054d0) := by
  rintro ⟨reg, other, same⟩
  have key : reg.key = Register.memclosEn.key := same.symm
  exact other (key_injective key)

theorem registers_switch (file : Firmware) (value : Msr) :
    registers (storeCall file (0x810054d0, value)) =
      Function.update (registers file) .memclosEn (firmware.content value) := by
  funext reg
  rw [registers, regs_storeCall, Function.update_apply]
  have same : reg.key = firmware.select 0x810054d0 ↔ reg = .memclosEn := by
    change reg.key = Register.memclosEn.key ↔ reg = .memclosEn
    exact ⟨key_injective, fun same => same ▸ rfl⟩
  simp only [same]
  rfl

theorem switch_ready {value : Msr} :
    Triple (Ready start (polls + 3) reads file) (hwdrcWrite coreId 0x810054d0 value)
      (fun _ => Ready start polls reads (storeCall file (0x810054d0, value))) (fun _ => False) := by
  have store : firmware.store 0x810054d0 = true := by decide
  exact @hwdrcWrite_ready start file polls reads coreId (0x810054d0, value) store
    fun guarded => absurd guarded not_guarded_switch

theorem command_ready (command : DrcCommand) :
    Triple (Ready start (polls + command.polls) (reads + command.reads) file) (command.prog coreId)
      (fun lines m =>
        (∃ file', registers file' = command.apply (registers file) ∧ Ready start polls reads file' m) ∧
        (Answers firmware start m.trace → lines = command.printed (registers file)))
      (fun _ => False) := by
  cases command with
  | settingsUpdate g =>
      refine (writes_ready (inOrder_settingsWrites file g)).bind fun _ => ?_
      intro m ready
      refine ⟨⟨_, ?_, ready⟩, fun _ => rfl⟩
      exact funext fun reg => regs_settingsWrites file g reg
  | disable =>
      refine switch_ready.bind fun _ => ?_
      exact fun m ready => ⟨⟨_, registers_switch file _, ready⟩, fun _ => rfl⟩
  | enable =>
      refine switch_ready.bind fun _ => ?_
      exact fun m ready => ⟨⟨_, registers_switch file _, ready⟩, fun _ => rfl⟩
  | regDump =>
      refine (dumpRegisters_ready dumpOrder).consequence (fun _ ready => ready) ?_ (fun _ stop => stop)
      rintro lines m ⟨⟨file', same, ready⟩, printed⟩
      refine ⟨⟨file', ?_, ready⟩, printed⟩
      exact funext fun reg => congrFun same reg.key

end OneFile

/-- The run so far left the sockets with the files of `bank`, and on every socket guarded registers
    were stored only while its own DRC was off; enough idle polls and values to read are to come. -/
structure BankReady (home : Nat → Node) (start : Bank Node Msr (BitVec 32)) (polls reads : Nat)
    (bank : Bank Node Msr (BitVec 32)) (m : Machine) : Prop where
  idle : ∀ value ∈ m.interfaceValues, FindsIdle value
  polls : polls ≤ m.interfaceValues.length
  reads : reads ≤ m.dataValues.length
  bank : start.after firmware home m.trace = bank
  ordered : ∀ node, StoresWhile firmware (start node) Guarded Disabled (onNode home node m.trace)

section Sockets

variable {home : Nat → Node} {start bank : Bank Node Msr (BitVec 32)} {polls reads : Nat} {coreId : Nat}

/-- Seen from one socket, a run starts anew with every call. -/
theorem BankReady.fresh {m : Machine} (ready : BankReady home start polls reads bank m) (node : Node) :
    Ready (bank node) polls reads (bank node) { m with trace := [] } where
  idle := ready.idle
  polls := ready.polls
  reads := ready.reads
  file := rfl
  ordered := StoresWhile.nil

theorem BankReady.extend {polls' reads' : Nat} {m m' : Machine} (ready : BankReady home start polls' reads' bank m)
    {file' : Firmware} (ends : Ready (bank (home coreId)) polls reads file' m') (only : OnlyCore coreId m') :
    BankReady home start polls reads (Function.update bank (home coreId) file') (m'.behind m.trace) := by
  have sofar : ∀ node, (start node).after firmware (onNode home node m.trace) = bank node := by
    intro node
    rw [← Bank.after_apply, ready.bank]
  have other : ∀ node, node ≠ home coreId →
      onNode home node (m'.behind m.trace).trace = onNode home node m.trace := by
    intro node other
    rw [Machine.behind, onNode_append, onNode_other home only other, List.append_nil]
  have own : onNode home (home coreId) (m'.behind m.trace).trace =
      onNode home (home coreId) m.trace ++ m'.trace := by
    rw [Machine.behind, onNode_append, onNode_own home only]
  refine ⟨ends.idle, ends.polls, ends.reads, ?_, fun node => ?_⟩
  · funext node
    rw [Bank.after_apply]
    by_cases here : node = home coreId
    · subst here
      rw [own, RegisterFile.after_append, sofar, ends.file, Function.update_self]
    · rw [other node here, sofar, Function.update_of_ne here]
  · by_cases here : node = home coreId
    · subst here
      rw [own]
      refine (ready.ordered _).append ?_
      rw [sofar]
      exact ends.ordered
    · rw [other node here]
      exact ready.ordered node

theorem answers_own {m m' : Machine} (sofar : start.after firmware home m.trace = bank) (only : OnlyCore coreId m')
    (answers : start.Answers firmware home (m'.behind m.trace).trace) :
    Answers firmware (bank (home coreId)) m'.trace := by
  have here := answers (home coreId)
  rw [Machine.behind, onNode_append, onNode_own home only] at here
  have behind := here.behind
  rwa [← Bank.after_apply, sofar] at behind

theorem command_refines (command : DrcCommand) {m : Machine}
    (ready : BankReady home start (polls + command.polls) (reads + command.reads) bank m) :
    ∃ lines m' bank', command.prog coreId m = .ok lines m' ∧ BankReady home start polls reads bank' m' ∧
      (fun node => registers (bank' node)) = send home (fun node => registers (bank node)) (coreId, command) ∧
      (start.Answers firmware home m'.trace → lines = command.printed (registers (bank (home coreId)))) ∧
      m.trace <+: m'.trace := by
  have own : Local coreId (command.prog coreId) := Local.command command
  obtain ⟨lines, m', run, ⟨file', same, ends⟩, printed⟩ := (command_ready command).returns (ready.fresh (home coreId))
  have only : OnlyCore coreId m' := by
    have inside := own.only { m with trace := [] } fun _ absent => absurd absent List.not_mem_nil
    rwa [run] at inside
  refine ⟨lines, m'.behind m.trace, _, ?_, ready.extend ends only, ?_, ?_, ?_⟩
  · rw [own.run_behind m, run]
    rfl
  · funext node
    rw [send, Function.update_apply]
    by_cases here : node = home coreId
    · subst here
      rw [if_pos rfl, Function.update_self, same]
    · rw [if_neg here, Function.update_of_ne here]
  · exact fun answers => printed (answers_own ready.bank only answers)
  · exact List.prefix_append _ _

theorem script_refines (script : DrcScript) {m : Machine}
    (ready : BankReady home start (polls + scriptPolls script) (reads + scriptReads script) bank m) :
    ∃ lines m' bank', runScript script m = .ok lines m' ∧ BankReady home start polls reads bank' m' ∧
      (fun node => registers (bank' node)) = sendAll home (fun node => registers (bank node)) script ∧
      (start.Answers firmware home m'.trace →
        lines = printedBy home script fun node => registers (bank node)) ∧
      m.trace <+: m'.trace := by
  induction script generalizing m bank with
  | nil => exact ⟨[], m, bank, rfl, ready, rfl, fun _ => rfl, List.prefix_refl _⟩
  | cons call rest ih =>
      obtain ⟨coreId, command⟩ := call
      have need : BankReady home start (polls + scriptPolls rest + command.polls)
          (reads + scriptReads rest + command.reads) bank m := by
        rwa [Nat.add_assoc, Nat.add_assoc, Nat.add_comm (scriptPolls rest), Nat.add_comm (scriptReads rest)]
      obtain ⟨lines, m₁, bank₁, run, ready₁, step, printed, front⟩ := command_refines command need
      obtain ⟨later, m₂, bank₂, runs, ready₂, steps, printedLater, front'⟩ := ih ready₁
      refine ⟨lines ++ later, m₂, bank₂, ?_, ready₂, ?_, fun answers => ?_, front.trans front'⟩
      · rw [runScript, bind_of_ok run, bind_of_ok runs]
        rfl
      · rw [steps, step]
        rfl
      · obtain ⟨more, shape⟩ := front'
        have earlier : start.Answers firmware home m₁.trace := by
          rw [← shape] at answers
          exact answers.front
        rw [printed earlier, printedLater answers, step]
        rfl

end Sockets

/-- Any script, through any cores, on a machine with any sockets: every socket ends with what the calls
    through its own cores left there, its guarded registers were stored only while its own DRC was
    off, and the dumps print the registers as they were when they were read. -/
theorem runScript_refines_controller (home : Nat → Node) (start : Bank Node Msr (BitVec 32)) (script : DrcScript)
    {interfaceValues dataValues : List Msr} (idle : ∀ value ∈ interfaceValues, FindsIdle value)
    (polls : scriptPolls script ≤ interfaceValues.length) (reads : scriptReads script ≤ dataValues.length)
    (answers : start.Answers firmware home
      (stateAfter (runScript script) (fresh interfaceValues dataValues)).trace) :
    ∃ m, runScript script (fresh interfaceValues dataValues) =
        .ok (printedBy home script fun node => registers (start node)) m ∧
      (∀ node, registers (start.after firmware home m.trace node) =
        (script.filter fun call => home call.1 = node).foldl (fun regs call => call.2.apply regs)
          (registers (start node))) ∧
      ∀ node, StoresWhile firmware (start node) Guarded Disabled (onNode home node m.trace) := by
  have ready : BankReady home start (0 + scriptPolls script) (0 + scriptReads script) start
      (fresh interfaceValues dataValues) := by
    refine ⟨idle, ?_, ?_, rfl, fun _ => StoresWhile.nil⟩
    · rwa [Nat.zero_add]
    · rwa [Nat.zero_add]
  obtain ⟨lines, m, bank, run, ends, same, printed, -⟩ := script_refines script ready
  rw [stateAfter, run] at answers
  refine ⟨m, ?_, fun node => ?_, ends.ordered⟩
  · rw [run, printed answers]
  · rw [ends.bank]
    exact (congrFun same node).trans (sendAll_apply home _ script node)

/-- Two sockets of 24 cores, with the siblings of each behind both. -/
def socketOf24 (core : Nat) : Bool := core / 24 % 2 = 1

/-- The update goes to the first socket, the second one is switched on as it was configured before, and
    the first one is read back and switched off through a sibling. -/
def twoSocketScript : DrcScript :=
  [(1, .settingsUpdate sampleSettings), (25, .enable), (1, .regDump), (49, .disable)]

theorem runScript_refines_controller_two_sockets :
    ∃ m, runScript twoSocketScript (fresh (List.replicate 51 0)
          [0x2, 0x0a1b2c3d, 0x80ff0001, 0x81ff0102, 0x82ff0203, 0x83ff0304, 0x01800180]) =
        .ok (printedBy socketOf24 twoSocketScript fun _ _ => 0xffffffff) m ∧
      (∀ node, registers (Bank.after firmware socketOf24 (fun _ => ⟨fun _ => 0xffffffff, 0⟩) m.trace node) =
        (twoSocketScript.filter fun call => socketOf24 call.1 = node).foldl
          (fun regs call => call.2.apply regs) fun _ => 0xffffffff) ∧
      ∀ node, StoresWhile firmware ⟨fun _ => 0xffffffff, 0⟩ Guarded Disabled (onNode socketOf24 node m.trace) := by
  refine runScript_refines_controller socketOf24 (fun _ => ⟨fun _ => 0xffffffff, 0⟩) twoSocketScript ?_
    (by decide) (by decide) ?_
  · intro value member
    rw [List.eq_of_mem_replicate member]
    exact ⟨0, by decide, by decide⟩
  · intro node
    cases node <;> decide +kernel

end KvmWorkload.Mailbox
