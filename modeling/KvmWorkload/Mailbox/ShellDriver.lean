import KvmWorkload.Lib.Decimal
import KvmWorkload.Lib.Exec
import KvmWorkload.Lib.Mailbox
import Mathlib.Data.Nat.Bitwise

/-! # The shell driver of the OS mailbox

hwdrc_osmailbox_config.inc.sh and osmailbox_config.inc.sh access the mailbox
with `rdmsr` and `wrmsr`.  The busy test takes the text that `rdmsr` prints, a
hexadecimal numeral without a prefix, as an operand of shell arithmetic.
-/

namespace KvmWorkload.Mailbox

/-- The content of a model-specific register. -/
abbrev Msr := BitVec 64

/-- RUN_BUSY, bit 31 of MSR 0xb0. -/
def runBusyBit (value : Msr) : Bool := value.getLsbD 31

/-- What `rdmsr` prints. -/
def rdmsrText (value : Msr) : Text := Nat.toDigits 16 value.toNat

/-- What `rdmsr --zero-pad` prints. -/
def rdmsrPadded (value : Msr) : Text := (rdmsrText value).leftpad 16 '0'

/-- A variable holding `text` as an operand of `$[...]`; `none` is the error `value too great for
    base`.

    Text that starts with a letter is the name of a variable, and no variable of the scripts has
    a name made of hexadecimal digits.  `rdmsr` prints no leading zeros, so octal does not arise. -/
def shellOperand : Text → Option Nat
  | [] => some 0
  | c :: rest =>
      if c.isDigit then
        if rest.all Char.isDigit then some (readDecimal (c :: rest)) else none
      else some 0

/-- Why a command stopped before its end. -/
inductive Stop where
  /-- The observed part of the run is over. -/
  | observed
  /-- An arithmetic error: bash gives up the whole command that it is in. -/
  | arithmetic

/-- The driver's surroundings: what the coming reads of each register will return, the accesses
    so far, and the two global variables of the scripts. -/
structure Machine where
  interfaceValues : List Msr
  dataValues : List Msr
  trace : Trace Nat Msr
  gRetInterface : Text
  gRetData : Text

abbrev Shell := EStateM Stop Machine

def rdInterfaceMsr (coreId : Nat) : Shell Msr := fun m =>
  match m.interfaceValues with
  | [] => .error .observed m
  | value :: later =>
      .ok value { m with
        interfaceValues := later
        trace := m.trace ++ [.read coreId .interface value] }

def rdDataMsr (coreId : Nat) : Shell Msr := fun m =>
  match m.dataValues with
  | [] => .error .observed m
  | value :: later =>
      .ok value { m with
        dataValues := later
        trace := m.trace ++ [.read coreId .data value] }

def wrmsr (coreId : Nat) (reg : Reg) (value : Msr) : Shell Unit := fun m =>
  .ok () { m with trace := m.trace ++ [.write coreId reg value] }

/-- `run_busy=$[rd_interface & 0x80000000]`. -/
def runBusy (value : Msr) : Shell Nat :=
  match shellOperand (rdmsrText value) with
  | none => throw .arithmetic
  | some n => pure (n &&& 0x80000000)

/-- The loop of `wait_until_run_busy_cleared`; every turn takes one of the coming values. -/
def pollLoop (coreId : Nat) : List Msr → Shell Unit
  | [] => throw .observed
  | _ :: later => do
      let rdInterface ← rdInterfaceMsr coreId
      let busy ← runBusy rdInterface
      if busy = 0 then pure () else pollLoop coreId later

def waitUntilRunBusyCleared (coreId : Nat) : Shell Unit := fun m =>
  pollLoop coreId m.interfaceValues m

def hwdrcWrite (coreId : Nat) (valueInterface valueData : Msr) : Shell Unit := do
  waitUntilRunBusyCleared coreId
  wrmsr coreId .data valueData
  wrmsr coreId .interface valueInterface
  waitUntilRunBusyCleared coreId
  let status ← rdInterfaceMsr coreId
  modify fun m => { m with gRetInterface := rdmsrText status }

def hwdrcRead (coreId : Nat) (valueInterface : Msr) : Shell Unit := do
  waitUntilRunBusyCleared coreId
  wrmsr coreId .interface valueInterface
  waitUntilRunBusyCleared coreId
  let status ← rdInterfaceMsr coreId
  modify fun m => { m with gRetInterface := rdmsrText status }
  let data ← rdDataMsr coreId
  modify fun m => { m with gRetData := ((rdmsrPadded data).drop 8).take 8 }

/-- `mailbox_write` of osmailbox_config.inc.sh has the body of `hwdrc_write`. -/
def mailboxWrite (coreId : Nat) (valueInterface valueData : Msr) : Shell Unit :=
  hwdrcWrite coreId valueInterface valueData

/-- `mailbox_read` has the body of `hwdrc_read`. -/
def mailboxRead (coreId : Nat) (valueInterface : Msr) : Shell Unit :=
  hwdrcRead coreId valueInterface

inductive Call where
  | hwdrcWrite (coreId : Nat) (valueInterface valueData : Msr)
  | hwdrcRead (coreId : Nat) (valueInterface : Msr)
  | mailboxWrite (coreId : Nat) (valueInterface valueData : Msr)
  | mailboxRead (coreId : Nat) (valueInterface : Msr)

def Call.prog : Call → Shell Unit
  | .hwdrcWrite coreId valueInterface valueData =>
      Mailbox.hwdrcWrite coreId valueInterface valueData
  | .hwdrcRead coreId valueInterface => Mailbox.hwdrcRead coreId valueInterface
  | .mailboxWrite coreId valueInterface valueData =>
      Mailbox.mailboxWrite coreId valueInterface valueData
  | .mailboxRead coreId valueInterface => Mailbox.mailboxRead coreId valueInterface

/-- The registers will return `interfaceValues` and `dataValues`; nothing has been done yet. -/
def fresh (interfaceValues dataValues : List Msr) : Machine :=
  { interfaceValues := interfaceValues
    dataValues := dataValues
    trace := []
    gRetInterface := "0".toList
    gRetData := "0".toList }

/-- A script: one call after the other, also behind a call that was given up. -/
def runCalls (calls : List Call) (m : Machine) : Machine :=
  (calls.map Call.prog).foldl (fun m prog => stateAfter prog m) m

/-- The text of a busy register that the busy test takes for an idle one: it starts with a letter,
    or it has no letter and reads as a decimal number without bit 31. -/
def ReadsIdle (text : Text) : Prop :=
  match text with
  | [] => True
  | c :: rest => c.isDigit = false ∨
      (rest.all Char.isDigit = true ∧ (readDecimal (c :: rest)).testBit 31 = false)

instance (text : Text) : Decidable (ReadsIdle text) :=
  match text with
  | [] => inferInstanceAs (Decidable True)
  | _ :: _ => inferInstanceAs (Decidable (_ ∨ _ ∧ _))

/-- A busy register that is taken for an idle one. -/
def Misread (value : Msr) : Prop := runBusyBit value = true ∧ ReadsIdle (rdmsrText value)

instance (value : Msr) : Decidable (Misread value) := inferInstanceAs (Decidable (_ ∧ _))

theorem and_bit31 (n : Nat) : n &&& 0x80000000 = 0 ↔ n.testBit 31 = false := by
  rw [show 0x80000000 = 2 ^ 31 from rfl, Nat.and_two_pow]
  cases n.testBit 31 <;> simp

theorem shellOperand_idle_iff (text : Text) :
    (∃ n, shellOperand text = some n ∧ n &&& 0x80000000 = 0) ↔ ReadsIdle text := by
  cases text with
  | nil => simp [shellOperand, ReadsIdle]
  | cons c rest =>
      cases digit : c.isDigit <;> cases all : rest.all Char.isDigit <;>
        simp [shellOperand, ReadsIdle, digit, all, and_bit31]

/-- The accesses so far satisfy `R`, and no coming value of the interface register is misread. -/
structure At (R : Trace Nat Msr → Prop) (m : Machine) : Prop where
  sound : ∀ value ∈ m.interfaceValues, ¬ Misread value
  trace : R m.trace

theorem At.mono {R R' : Trace Nat Msr → Prop} (weaker : ∀ trace, R trace → R' trace) {m : Machine}
    (here : At R m) : At R' m := ⟨here.sound, weaker _ here.trace⟩

theorem rdInterfaceMsr_triple (coreId : Nat) (R : Trace Nat Msr → Prop) :
    Triple (At R) (rdInterfaceMsr coreId)
      (fun value m => ¬ Misread value ∧
        At (fun trace => ∃ before, R before ∧ trace = before ++ [.read coreId .interface value]) m)
      (At R) := by
  intro m start
  rw [rdInterfaceMsr]
  cases coming : m.interfaceValues with
  | nil => exact start
  | cons value later =>
      have sound := start.sound
      rw [coming] at sound
      exact ⟨sound value List.mem_cons_self,
        fun v member => sound v (List.mem_cons_of_mem _ member), m.trace, start.trace, rfl⟩

theorem runBusy_triple (value : Msr) (P : Machine → Prop) :
    Triple (fun m => ¬ Misread value ∧ P m) (runBusy value)
      (fun busy m => (busy = 0 → runBusyBit value = false) ∧ P m) P := by
  rintro m ⟨read, start⟩
  rw [runBusy]
  cases operand : shellOperand (rdmsrText value) with
  | none => exact start
  | some n =>
      refine ⟨fun zero => ?_, start⟩
      rw [← Bool.not_eq_true]
      exact fun busy => read ⟨busy, (shellOperand_idle_iff _).mp ⟨n, operand, zero⟩⟩

/-- The trace ends with a poll that showed the flag clear, and `R` held before it. -/
def Cleared (coreId : Nat) (R : Trace Nat Msr → Prop) (trace : Trace Nat Msr) : Prop :=
  ∃ before value, R before ∧ runBusyBit value = false ∧
    trace = before ++ [.read coreId .interface value]

theorem pollLoop_triple (coreId : Nat) {R : Trace Nat Msr → Prop}
    (stable : ∀ trace value, R trace → R (trace ++ [.read coreId .interface value]))
    (values : List Msr) :
    Triple (At R) (pollLoop coreId values) (fun _ => At (Cleared coreId R)) (At R) := by
  induction values with
  | nil => exact Triple.throw _
  | cons _ later ih =>
      refine (rdInterfaceMsr_triple coreId R).bind fun value => ?_
      have polled : ∀ trace, (∃ before, R before ∧
          trace = before ++ [.read coreId .interface value]) → R trace := by
        rintro trace ⟨before, kept, rfl⟩
        exact stable before value kept
      refine ((runBusy_triple value _).consequence (fun _ start => start) (fun _ _ post => post)
        (fun _ => At.mono polled)).bind fun busy => ?_
      by_cases zero : busy = 0
      · rw [if_pos zero]
        refine (Triple.pure ()).consequence ?_ (fun _ _ post => post) (fun _ stop => stop)
        rintro m ⟨clear, here⟩
        refine here.mono ?_
        rintro trace ⟨before, kept, shape⟩
        exact ⟨before, value, kept, clear zero, shape⟩
      · rw [if_neg zero]
        exact ih.consequence (fun m start => start.2.mono polled) (fun _ _ post => post)
          (fun _ stop => stop)

theorem waitUntilRunBusyCleared_triple (coreId : Nat) {R : Trace Nat Msr → Prop}
    (stable : ∀ trace value, R trace → R (trace ++ [.read coreId .interface value])) :
    Triple (At R) (waitUntilRunBusyCleared coreId) (fun _ => At (Cleared coreId R)) (At R) :=
  fun m start => pollLoop_triple coreId stable m.interfaceValues m start

theorem wrmsr_triple {R : Trace Nat Msr → Prop} (R' : Trace Nat Msr → Prop) {E : Machine → Prop}
    {coreId : Nat} {reg : Reg} {value : Msr} (step : ∀ trace, R trace → R' (trace ++ [.write coreId reg value])) :
    Triple (At R) (wrmsr coreId reg value) (fun _ => At R') E :=
  fun _ start => ⟨start.sound, step _ start.trace⟩

theorem assign_triple {R : Trace Nat Msr → Prop} {E : Machine → Prop} {f : Machine → Machine}
    (same : ∀ m, (f m).interfaceValues = m.interfaceValues ∧ (f m).trace = m.trace) :
    Triple (At R) (modify f : Shell Unit) (fun _ => At R) E := by
  intro m start
  obtain ⟨values, trace⟩ := same m
  exact ⟨values ▸ start.sound, trace ▸ start.trace⟩

/-- The accesses so far kept the discipline. -/
abbrev Kept : Trace Nat Msr → Prop := Safe runBusyBit

theorem Kept.poll (coreId : Nat) : ∀ trace value, Kept trace →
    Kept (trace ++ [.read coreId .interface value]) :=
  fun _ value safe => Safe.poll safe coreId value

/-- Behind a poll that showed the flag clear, both registers may be written. -/
theorem Cleared.idle {coreId : Nat} {R : Trace Nat Msr → Prop} (kept : ∀ trace, R trace → Kept trace)
    {trace : Trace Nat Msr} (cleared : Cleared coreId R trace) :
    Kept trace ∧ Idle runBusyBit coreId trace := by
  obtain ⟨before, value, here, clear, rfl⟩ := cleared
  exact ⟨Safe.poll (kept _ here) coreId value, Idle.poll before coreId clear⟩

/-- Behind a poll that showed the flag clear after a command, its data may be taken. -/
theorem Cleared.answered {coreId : Nat} {trace : Trace Nat Msr}
    (cleared : Cleared coreId (fun trace => Kept trace ∧ Commanded coreId trace) trace) :
    Kept trace ∧ Answered runBusyBit coreId trace := by
  obtain ⟨before, value, ⟨safe, commanded⟩, clear, rfl⟩ := cleared
  exact ⟨Safe.poll safe coreId value, commanded.answered clear⟩

theorem status_triple {R : Trace Nat Msr → Prop} (R' : Trace Nat Msr → Prop) {coreId : Nat}
    (step : ∀ trace value, R trace → R' (trace ++ [.read coreId .interface value]))
    (kept : ∀ trace, R trace → Kept trace) :
    Triple (At R) (rdInterfaceMsr coreId) (fun _ => At R') (At Kept) := by
  refine (rdInterfaceMsr_triple coreId R).consequence (fun _ start => start) ?_ ?_
  · rintro value m ⟨-, here⟩
    refine here.mono ?_
    rintro trace ⟨before, start, rfl⟩
    exact step before value start
  · exact fun m => At.mono kept

theorem rdDataMsr_triple {R : Trace Nat Msr → Prop} (R' : Trace Nat Msr → Prop) {coreId : Nat}
    (step : ∀ trace value, R trace → R' (trace ++ [.read coreId .data value]))
    (kept : ∀ trace, R trace → Kept trace) :
    Triple (At R) (rdDataMsr coreId) (fun _ => At R') (At Kept) := by
  intro m start
  rw [rdDataMsr]
  cases m.dataValues with
  | nil => exact start.mono kept
  | cons value later => exact ⟨start.sound, step _ value start.trace⟩

theorem hwdrcWrite_triple (coreId : Nat) (valueInterface valueData : Msr) :
    Triple (At Kept) (hwdrcWrite coreId valueInterface valueData) (fun _ => At Kept) (At Kept) := by
  have idle : ∀ trace, Cleared coreId Kept trace → Kept trace ∧ Idle runBusyBit coreId trace :=
    fun _ => Cleared.idle fun _ safe => safe
  refine (waitUntilRunBusyCleared_triple coreId (Kept.poll coreId)).bind fun _ => ?_
  refine (wrmsr_triple (fun trace => Kept trace ∧ Idle runBusyBit coreId trace) ?_).bind fun _ => ?_
  · intro trace cleared
    obtain ⟨safe, idle⟩ := idle trace cleared
    exact ⟨safe.write_of_idle idle _ _, idle.write _ _ _⟩
  refine (wrmsr_triple Kept fun trace here => here.1.write_of_idle here.2 _ _).bind fun _ => ?_
  refine (waitUntilRunBusyCleared_triple coreId (Kept.poll coreId)).bind fun _ => ?_
  refine (status_triple Kept ?_ fun trace cleared => (idle trace cleared).1).bind fun _ => ?_
  · exact fun trace value cleared => Kept.poll coreId _ value (idle trace cleared).1
  · exact assign_triple fun _ => ⟨rfl, rfl⟩

theorem hwdrcRead_triple (coreId : Nat) (valueInterface : Msr) :
    Triple (At Kept) (hwdrcRead coreId valueInterface) (fun _ => At Kept) (At Kept) := by
  refine (waitUntilRunBusyCleared_triple coreId (Kept.poll coreId)).bind fun _ => ?_
  refine (wrmsr_triple (fun trace => Kept trace ∧ Commanded coreId trace) ?_).bind fun _ => ?_
  · intro trace cleared
    obtain ⟨safe, idle⟩ := cleared.idle fun _ safe => safe
    exact ⟨safe.write_of_idle idle _ _, Commanded.command _ _ _⟩
  -- The command is the last write, so the poll that ends this wait answers it.
  refine ((waitUntilRunBusyCleared_triple coreId ?_).consequence (fun _ start => start)
    (fun _ _ post => post) (fun _ => At.mono fun _ here => here.1)).bind fun _ => ?_
  · exact fun trace value here => ⟨Safe.poll here.1 _ _, here.2.read _ _ _⟩
  let Ready := fun trace => Kept trace ∧ Answered runBusyBit coreId trace
  refine (status_triple Ready ?_ fun trace cleared => cleared.answered.1).bind fun _ => ?_
  · intro trace value cleared
    exact ⟨Safe.poll cleared.answered.1 _ _, cleared.answered.2.read _ _ _⟩
  refine (assign_triple ?_).bind fun _ => ?_
  · exact fun _ => ⟨rfl, rfl⟩
  refine (rdDataMsr_triple Kept ?_ fun _ here => here.1).bind fun _ => ?_
  · exact fun trace value here => here.1.data_of_answered here.2 value
  · exact assign_triple fun _ => ⟨rfl, rfl⟩

theorem Call.prog_triple (call : Call) :
    Triple (At Kept) call.prog (fun _ => At Kept) (At Kept) := by
  cases call with
  | hwdrcWrite coreId valueInterface valueData => exact hwdrcWrite_triple coreId _ _
  | hwdrcRead coreId valueInterface => exact hwdrcRead_triple coreId _
  | mailboxWrite coreId valueInterface valueData => exact hwdrcWrite_triple coreId _ _
  | mailboxRead coreId valueInterface => exact hwdrcRead_triple coreId _

theorem runCalls_kept (calls : List Call) {m : Machine} (start : At Kept m) :
    At Kept (runCalls calls m) := by
  refine foldl_stateAfter ?_ start
  intro prog member
  obtain ⟨call, -, rfl⟩ := List.mem_map.mp member
  exact call.prog_triple

theorem not_kept_of_misread {value : Msr} (misread : Misread value) (coreId : Nat)
    (valueInterface valueData : Msr) :
    ¬ Kept (runCalls [.hwdrcWrite coreId valueInterface valueData] (fresh [value] [])).trace := by
  obtain ⟨busy, text⟩ := misread
  obtain ⟨n, operand, zero⟩ := (shellOperand_idle_iff _).mpr text
  have accesses : (runCalls [.hwdrcWrite coreId valueInterface valueData] (fresh [value] [])).trace =
      [.read coreId .interface value, .write coreId .data valueData,
        .write coreId .interface valueInterface] := by
    simp [runCalls, stateAfter, Call.prog, hwdrcWrite, waitUntilRunBusyCleared, pollLoop,
      rdInterfaceMsr, runBusy, operand, zero, wrmsr, fresh, bind, EStateM.bind, pure, EStateM.pure,
      throw_run]
  intro safe
  obtain ⟨last, poll, idle⟩ := safe.write [.read coreId .interface value] _ _ _ _ accesses
  simp only [lastPoll, List.filterMap_cons, Event.poll?, List.filterMap_nil, List.getLast?_singleton,
    Option.some.injEq, Prod.mk.injEq, true_and] at poll
  rw [← poll, busy] at idle
  cases idle

/-- Firmware that shows the values of `values`, with any timing, is safe from every script exactly
    when none of them is misread. -/
theorem mailbox_safe_iff (values : Set Msr) :
    (∀ (calls : List Call) (interfaceValues dataValues : List Msr),
        (∀ value ∈ interfaceValues, value ∈ values) →
          Safe runBusyBit (runCalls calls (fresh interfaceValues dataValues)).trace) ↔
      ∀ value ∈ values, ¬ Misread value := by
  constructor
  · intro safe value member misread
    exact not_kept_of_misread misread 0 0 0
      (safe [.hwdrcWrite 0 0 0] [value] [] (by simpa using member))
  · intro sound calls interfaceValues dataValues within
    exact (runCalls_kept calls
      ⟨fun value member => sound value (within value member), Safe.nil⟩).trace

/-- RUN_BUSY alone: `rdmsr` prints `80000000`, which the shell takes for eighty million. -/
theorem run_busy_alone_misread :
    runBusyBit 0x80000000 = true ∧ rdmsrText 0x80000000 = "80000000".toList ∧
      ¬ Safe runBusyBit
        (runCalls [.hwdrcWrite 0 0x810054d0 0] (fresh [0x80000000] [])).trace :=
  ⟨by decide, by decide, not_kept_of_misread (by decide) _ _ _⟩

end KvmWorkload.Mailbox
