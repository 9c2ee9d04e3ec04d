import KvmWorkload.Lib.Exec
import KvmWorkload.Lib.Radix
import KvmWorkload.Mailbox.ShellDriver
import Mathlib.Logic.Function.Basic

/-! # The Python driver of the OS mailbox

osmailbox_access.py polls the mailbox of both sockets, through CPU 1 and CPU
25, before it writes a command.  The busy test reads the text of `rdmsr`, which
is hexadecimal, as a number in base 32, and the retry branch names a variable
`contine` that no scope defines.
-/

namespace KvmWorkload.Mailbox.OsmailboxAccess

/-- Why a call ended early. -/
inductive Raised where
  /-- The observed part of the run is over. -/
  | observed
  | nameError (name : Text)
  | valueError (text : Text)
  | systemExit (code : Nat)
  deriving DecidableEq

/-- What the coming reads of the registers return on each CPU, and the accesses so far. -/
structure Sockets where
  interfaceValues : Nat → List Msr
  dataValues : Nat → List Msr
  trace : Trace Nat Msr

abbrev Python := EStateM Raised Sockets

/-- The machine after CPU `core` has read `value` from its interface register. -/
def Sockets.polled (m : Sockets) (core : Nat) (value : Msr) (later : List Msr) : Sockets :=
  { m with
    interfaceValues := Function.update m.interfaceValues core later
    trace := m.trace ++ [.read core .interface value] }

/-- The machine after CPU `core` has read `value` from its data register. -/
def Sockets.taken (m : Sockets) (core : Nat) (value : Msr) (later : List Msr) : Sockets :=
  { m with
    dataValues := Function.update m.dataValues core later
    trace := m.trace ++ [.read core .data value] }

/-- `commands.getoutput("rdmsr -p <core> 0xB0")`. -/
def rdmsrInterface (core : Nat) : Python Text := fun m =>
  match m.interfaceValues core with
  | [] => .error .observed m
  | value :: later => .ok (rdmsrText value) (m.polled core value later)

/-- `commands.getoutput("rdmsr -p <core> 0xB1")`. -/
def rdmsrData (core : Nat) : Python Text := fun m =>
  match m.dataValues core with
  | [] => .error .observed m
  | value :: later => .ok (rdmsrText value) (m.taken core value later)

/-- The machine after CPU `core` has written `value`. -/
def Sockets.wrote (m : Sockets) (core : Nat) (reg : Reg) (value : Msr) : Sockets :=
  { m with trace := m.trace ++ [.write core reg value] }

/-- `os.system("wrmsr -p <core> <reg> <value>")`. -/
def wrmsr (core : Nat) (reg : Reg) (value : Msr) : Python Unit :=
  modify fun m => m.wrote core reg value

/-- `int(text, base)` on the output of `rdmsr`. -/
def int (text : Text) (base : Nat) : Python Nat :=
  match readRadix base text with
  | some n => pure n
  | none => throw (.valueError text)

/-- A statement that is only the name of a variable that does not exist. -/
def undefinedName (name : Text) : Python Unit := throw (.nameError name)

/-- `const.MBOX_INTERFACE_RUN_BUSY`. -/
def mboxInterfaceRunBusy : Nat := 0x80000000

/-- The loop of `mbox_busy`; every turn takes one of the coming values. -/
def busyLoop (core : Nat) (busyCount : Nat) : List Msr → Python Bool
  | [] => throw .observed
  | _ :: later => do
      let busyCount := busyCount + 1
      let mboxif ← rdmsrInterface core
      let word ← int mboxif 32
      let mboxIsBusy := decide (word &&& mboxInterfaceRunBusy = mboxInterfaceRunBusy)
      if mboxIsBusy ∧ busyCount < 50 then
        undefinedName "contine".toList
        busyLoop core busyCount later
      else
        pure mboxIsBusy

def mboxBusyOn (core : Nat) : Python Bool := fun m => busyLoop core 0 (m.interfaceValues core) m

/-- `mbox_busy`. -/
def mboxBusy : Python Bool := mboxBusyOn 1

/-- `mbox_busy_Socket1`. -/
def mboxBusySocket1 : Python Bool := mboxBusyOn 25

/-- `if(mbox_busy()): ... sys.exit(1)`. -/
def exitIf (test : Python Bool) : Python Unit := do
  let busy ← test
  if busy then throw (.systemExit 1) else pure ()

def mboxWriteDataInterface (interface data : Msr) : Python Unit := do
  exitIf mboxBusy
  wrmsr 1 .data data
  wrmsr 1 .interface interface
  exitIf mboxBusySocket1
  wrmsr 25 .data data
  wrmsr 25 .interface interface

/-- `mbox_read_data_interface`; the printed texts are the result. -/
def mboxReadDataInterface : Python (List Text) := do
  let s0Data ← rdmsrData 1
  let s0Interface ← rdmsrInterface 1
  let s1Data ← rdmsrData 25
  let s1Interface ← rdmsrInterface 25
  pure [s0Data, s0Interface, s1Data, s1Interface]

def mboxRead (interface : Msr) : Python (List Text) := do
  mboxWriteDataInterface interface 0x80000000
  mboxReadDataInterface

def mboxWrite (interface data : Msr) : Python (List Text) := do
  mboxWriteDataInterface interface data
  mboxReadDataInterface

/-- The bit that the busy test looks at. -/
def testedBit (value : Msr) : Bool := value.getLsbD 25

/-- Base 32 has five bits for every hexadecimal digit, so bit 31 of the number is bit 25 of the
    register. -/
theorem int_rdmsrText (value : Msr) (m : Sockets) :
    ∃ word, int (rdmsrText value) 32 m = .ok word m ∧
      (word &&& mboxInterfaceRunBusy = mboxInterfaceRunBusy ↔ testedBit value = true) := by
  refine ⟨Nat.ofDigits 32 (Nat.digits 16 value.toNat), ?_, ?_⟩
  · rw [int, rdmsrText, readRadix_toDigits (by omega) (by omega) (by omega)]
    rfl
  · have moved : (Nat.ofDigits 32 (Nat.digits 16 value.toNat)).testBit 31 = testedBit value :=
      testBit_ofDigits_digits (k := 4) (l := 5) (j := 1) (by omega) (by omega) (by omega) value.toNat 6
    rw [mboxInterfaceRunBusy, show 0x80000000 = 2 ^ 31 from rfl, Nat.and_two_pow, moved]
    cases testedBit value <;> simp

theorem mboxBusyOn_run {core : Nat} {m : Sockets} {value : Msr} {later : List Msr}
    (coming : m.interfaceValues core = value :: later) :
    mboxBusyOn core m =
      if testedBit value then .error (.nameError "contine".toList) (m.polled core value later)
      else .ok false (m.polled core value later) := by
  obtain ⟨word, read, test⟩ := int_rdmsrText value (m.polled core value later)
  have poll : rdmsrInterface core m = .ok (rdmsrText value) (m.polled core value later) := by
    rw [rdmsrInterface, coming]
  rw [mboxBusyOn, coming, busyLoop, bind_of_ok poll, bind_of_ok read]
  cases bit : testedBit value with
  | true =>
      have busy := test.mpr bit
      simp [busy, undefinedName, bind, EStateM.bind, throw_run]
  | false =>
      have idle : ¬ (word &&& mboxInterfaceRunBusy = mboxInterfaceRunBusy) := by simp [test, bit]
      simp [idle, pure, EStateM.pure]

/-- The number of busy reads in front of the first idle one. -/
def busyReads (values : List Msr) : Nat := (values.takeWhile runBusyBit).length

/-- Polling ends at the first idle read, or after fifty busy ones. -/
structure PollsRight (core : Nat) (m : Sockets) : Prop where
  returns : ∃ m', mboxBusyOn core m = .ok (decide (50 ≤ busyReads (m.interfaceValues core))) m' ∧
    m'.trace = m.trace ++
      ((m.interfaceValues core).take (min 50 (busyReads (m.interfaceValues core) + 1))).map
        (.read core .interface)

/-- The first value shows neither RUN_BUSY nor the bit that the test looks at. -/
def FirstClear (values : List Msr) : Prop :=
  ∃ value ∈ values.head?, runBusyBit value = false ∧ testedBit value = false

theorem pollsRight_iff {core : Nat} {m : Sockets} (enough : 50 ≤ (m.interfaceValues core).length) :
    PollsRight core m ↔ FirstClear (m.interfaceValues core) := by
  cases coming : m.interfaceValues core with
  | nil => simp [coming] at enough
  | cons value later =>
      have run := mboxBusyOn_run coming
      cases bit : testedBit value with
      | true =>
          rw [bit, if_pos rfl] at run
          simp only [FirstClear, List.head?_cons, Option.mem_def, Option.some.injEq, exists_eq_left', bit,
            Bool.true_eq_false, and_false, iff_false]
          rintro ⟨m', returned, -⟩
          rw [run] at returned
          cases returned
      | false =>
          rw [bit, if_neg Bool.false_ne_true] at run
          simp only [FirstClear, List.head?_cons, Option.mem_def, Option.some.injEq, exists_eq_left', bit,
            and_true]
          constructor
          · rintro ⟨m', returned, reads⟩
            rw [run] at returned
            obtain ⟨-, rfl⟩ := EStateM.Result.ok.inj returned
            -- one value was read, so no busy value stands before it
            have one := congrArg List.length reads
            rw [coming] at one enough
            cases busy : runBusyBit value with
            | false => rfl
            | true =>
                simp [Sockets.polled, busyReads, busy] at one enough
                omega
          · intro idle
            have none_busy : busyReads (value :: later) = 0 := by simp [busyReads, idle]
            refine ⟨m.polled core value later, ?_, ?_⟩
            · rw [run, coming, none_busy]
              rfl
            · rw [coming, none_busy]
              rfl

/-- The entry points that write commands. -/
inductive Access where
  | writeDataInterface (interface data : Msr)
  | read (interface : Msr)
  | write (interface data : Msr)

/-- The call and the texts that it prints. -/
def Access.prog : Access → Python (List Text)
  | .writeDataInterface interface data => do
      mboxWriteDataInterface interface data
      pure []
  | .read interface => mboxRead interface
  | .write interface data => mboxWrite interface data

/-- Commands go to a socket only while its mailbox was last seen idle; a mailbox that stays busy is
    not touched and ends the program. -/
structure WritesRight (prog : Python (List Text)) (m : Sockets) : Prop where
  idle : WritesWhenIdle runBusyBit (stateAfter prog m).trace
  exits : ∀ core, core = 1 ∨ core = 25 → 50 ≤ busyReads (m.interfaceValues core) →
    (∃ m', prog m = .error (.systemExit 1) m') ∧
      ∀ reg value, .write core reg value ∉ (stateAfter prog m).trace

/-- The driver does what it should on the values that the registers are going to show. -/
structure DrivesRight (m : Sockets) : Prop where
  socket0 : PollsRight 1 m
  socket1 : PollsRight 25 m
  access : ∀ access : Access, WritesRight access.prog m

theorem exitIf_of_clear {core : Nat} {m : Sockets} {value : Msr} {later : List Msr}
    (coming : m.interfaceValues core = value :: later) (clear : testedBit value = false) :
    exitIf (mboxBusyOn core) m = .ok () (m.polled core value later) := by
  have run := mboxBusyOn_run coming
  rw [clear, if_neg Bool.false_ne_true] at run
  rw [exitIf, bind_of_ok run]
  rfl

theorem wrmsr_run (core : Nat) (reg : Reg) (value : Msr) (m : Sockets) :
    wrmsr core reg value m = .ok () (m.wrote core reg value) := rfl

theorem writesWhenIdle_command {m : Sockets} (start : WritesWhenIdle runBusyBit m.trace) (core : Nat)
    {value : Msr} (idle : runBusyBit value = false) (later : List Msr) (interface data : Msr) :
    WritesWhenIdle runBusyBit
      (((m.polled core value later).wrote core .data data).wrote core .interface interface).trace := by
  have polled : Idle runBusyBit core (m.polled core value later).trace := Idle.poll m.trace core idle
  have first : WritesWhenIdle runBusyBit ((m.polled core value later).wrote core .data data).trace :=
    (start.read core .interface value).write polled .data data
  exact first.write (polled.write core .data data) .interface interface

theorem mboxWriteDataInterface_idle {m : Sockets} (start : WritesWhenIdle runBusyBit m.trace)
    (clear0 : FirstClear (m.interfaceValues 1)) (clear1 : FirstClear (m.interfaceValues 25))
    (interface data : Msr) :
    ∃ m', mboxWriteDataInterface interface data m = .ok () m' ∧ WritesWhenIdle runBusyBit m'.trace := by
  obtain ⟨value0, first0, idle0, tested0⟩ := clear0
  obtain ⟨value1, first1, idle1, tested1⟩ := clear1
  obtain ⟨later0, coming0⟩ := List.head?_eq_some_iff.mp first0
  obtain ⟨later1, coming1⟩ := List.head?_eq_some_iff.mp first1
  let m0 := ((m.polled 1 value0 later0).wrote 1 .data data).wrote 1 .interface interface
  have coming1' : m0.interfaceValues 25 = value1 :: later1 := by
    change Function.update m.interfaceValues 1 later0 25 = value1 :: later1
    rw [Function.update_of_ne (by decide), coming1]
  refine ⟨((m0.polled 25 value1 later1).wrote 25 .data data).wrote 25 .interface interface, ?_, ?_⟩
  · rw [mboxWriteDataInterface, mboxBusy, mboxBusySocket1, bind_of_ok (exitIf_of_clear coming0 tested0),
      bind_of_ok (wrmsr_run ..), bind_of_ok (wrmsr_run ..), bind_of_ok (exitIf_of_clear coming1' tested1),
      bind_of_ok (wrmsr_run ..), wrmsr_run]
  · exact writesWhenIdle_command (writesWhenIdle_command start 1 idle0 later0 interface data) 25 idle1 later1
      interface data

theorem mboxReadDataInterface_triple :
    Triple (fun m => WritesWhenIdle runBusyBit m.trace) mboxReadDataInterface
      (fun _ m => WritesWhenIdle runBusyBit m.trace) (fun m => WritesWhenIdle runBusyBit m.trace) := by
  have data : ∀ core, Triple (fun m => WritesWhenIdle runBusyBit m.trace) (rdmsrData core)
      (fun _ m => WritesWhenIdle runBusyBit m.trace) (fun m => WritesWhenIdle runBusyBit m.trace) := by
    intro core m start
    rw [rdmsrData]
    cases m.dataValues core with
    | nil => exact start
    | cons value later => exact start.read core .data value
  have interface : ∀ core, Triple (fun m => WritesWhenIdle runBusyBit m.trace) (rdmsrInterface core)
      (fun _ m => WritesWhenIdle runBusyBit m.trace) (fun m => WritesWhenIdle runBusyBit m.trace) := by
    intro core m start
    rw [rdmsrInterface]
    cases m.interfaceValues core with
    | nil => exact start
    | cons value later => exact start.read core .interface value
  refine (data 1).bind fun _ => (interface 1).bind fun _ => ?_
  exact (data 25).bind fun _ => (interface 25).bind fun _ => Triple.pure _

theorem Access.writesWhenIdle {m : Sockets} (start : m.trace = [])
    (clear0 : FirstClear (m.interfaceValues 1)) (clear1 : FirstClear (m.interfaceValues 25)) (access : Access) :
    WritesWhenIdle runBusyBit (stateAfter access.prog m).trace := by
  have empty : WritesWhenIdle runBusyBit m.trace := by
    rw [start]
    exact WritesWhenIdle.nil
  have behind : ∀ (interface data : Msr) (next : Python (List Text)),
      Triple (fun m => WritesWhenIdle runBusyBit m.trace) next
        (fun _ m => WritesWhenIdle runBusyBit m.trace) (fun m => WritesWhenIdle runBusyBit m.trace) →
      WritesWhenIdle runBusyBit
        (stateAfter (mboxWriteDataInterface interface data >>= fun _ => next) m).trace := by
    intro interface data next keeps
    obtain ⟨m', run, writes⟩ := mboxWriteDataInterface_idle empty clear0 clear1 interface data
    rw [stateAfter_bind run]
    exact keeps.stateAfter writes
  cases access with
  | writeDataInterface interface data => exact behind interface data (pure []) (Triple.pure [])
  | read interface => exact behind interface 0x80000000 _ mboxReadDataInterface_triple
  | write interface data => exact behind interface data _ mboxReadDataInterface_triple

theorem busyReads_of_firstClear {values : List Msr} (clear : FirstClear values) : busyReads values = 0 := by
  obtain ⟨value, first, idle, -⟩ := clear
  obtain ⟨later, rfl⟩ := List.head?_eq_some_iff.mp first
  simp [busyReads, idle]

/-- On any coming values, the driver does what it should exactly when both sockets show RUN_BUSY and
    bit 25 clear at the first read: every other first read is misjudged or raises. -/
theorem drivesRight_iff {m : Sockets} (start : m.trace = []) (enough0 : 50 ≤ (m.interfaceValues 1).length)
    (enough1 : 50 ≤ (m.interfaceValues 25).length) :
    DrivesRight m ↔ FirstClear (m.interfaceValues 1) ∧ FirstClear (m.interfaceValues 25) := by
  constructor
  · intro right
    exact ⟨(pollsRight_iff enough0).mp right.socket0, (pollsRight_iff enough1).mp right.socket1⟩
  · rintro ⟨clear0, clear1⟩
    refine ⟨(pollsRight_iff enough0).mpr clear0, (pollsRight_iff enough1).mpr clear1, fun access => ?_⟩
    refine ⟨access.writesWhenIdle start clear0 clear1, ?_⟩
    rintro core (rfl | rfl) busy
    · simp [busyReads_of_firstClear clear0] at busy
    · simp [busyReads_of_firstClear clear1] at busy

/-- Registers that show `value0` and `value1` at every poll. -/
def showing (value0 value1 : Msr) : Sockets where
  interfaceValues := fun core => List.replicate 50 (if core = 1 then value0 else value1)
  dataValues := fun _ => []
  trace := []

/-- Two idle mailboxes that show the last command's sub-command field. -/
theorem drivesRight_idle : DrivesRight (showing 0x54d0 0x50d0) :=
  (drivesRight_iff rfl (by decide) (by decide)).mpr
    ⟨⟨0x54d0, rfl, by decide, by decide⟩, ⟨0x50d0, rfl, by decide, by decide⟩⟩

/-- RUN_BUSY alone: `rdmsr` prints `80000000`, which is `2^38` in base 32, and the command is written
    to a mailbox that was busy at every read. -/
theorem not_drivesRight_busy :
    runBusyBit 0x80000000 = true ∧ rdmsrText 0x80000000 = "80000000".toList ∧
      ¬ DrivesRight (showing 0x80000000 0) := by
  refine ⟨by decide, by decide, fun right => ?_⟩
  obtain ⟨m', returned, -⟩ := right.socket0.returns
  have busy : busyReads ((showing 0x80000000 0).interfaceValues 1) = 50 := by decide
  rw [mboxBusyOn_run rfl, if_neg (by decide), busy] at returned
  simp at returned

end KvmWorkload.Mailbox.OsmailboxAccess
