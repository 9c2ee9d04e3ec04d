import KvmWorkload.Lib.Mailbox
import Mathlib.Logic.Function.Basic

/-! # A register file behind a command mailbox

The command word in the interface register selects a register and says whether
the data register is stored into it or loaded from it.  What the file holds is
a function of the trace; what reads of the data register return is an
obligation on the trace.
-/

namespace KvmWorkload.Mailbox

variable {Core Value Key Content : Type}

/-- How a command word is decoded, and the part of a data word that is kept. -/
structure Protocol (Value Key Content : Type) where
  store : Value → Bool
  select : Value → Key
  content : Value → Content

/-- The registers and the kept part of the data register. -/
structure RegisterFile (Key Content : Type) where
  regs : Key → Content
  data : Content

namespace RegisterFile

variable [DecidableEq Key] (protocol : Protocol Value Key Content)

/-- What one access does to the file. -/
def step (file : RegisterFile Key Content) : Event Core Value → RegisterFile Key Content
  | .write _ .data value => { file with data := protocol.content value }
  | .write _ .interface word =>
      if protocol.store word then
        { file with regs := Function.update file.regs (protocol.select word) file.data }
      else
        { file with data := file.regs (protocol.select word) }
  | .read .. => file

/-- The file after a trace. -/
def after (file : RegisterFile Key Content) (trace : Trace Core Value) : RegisterFile Key Content :=
  trace.foldl (step protocol) file

@[simp] theorem after_nil (file : RegisterFile Key Content) :
    file.after protocol ([] : Trace Core Value) = file := rfl

@[simp] theorem after_snoc (file : RegisterFile Key Content) (trace : Trace Core Value)
    (event : Event Core Value) :
    file.after protocol (trace ++ [event]) = (file.after protocol trace).step protocol event := by
  simp only [after, List.foldl_append, List.foldl_cons, List.foldl_nil]

end RegisterFile

section Obligations

variable [DecidableEq Key] (protocol : Protocol Value Key Content)

/-- Every read of the data register returns what the file holds there. -/
def Answers (file : RegisterFile Key Content) : Trace Core Value → Prop
  | [] => True
  | .read core .data value :: later =>
      protocol.content value = file.data ∧ Answers (file.step protocol (.read core .data value)) later
  | event :: later => Answers (file.step protocol event) later

instance decidableAnswers [DecidableEq Content] (file : RegisterFile Key Content) :
    (trace : Trace Core Value) → Decidable (Answers protocol file trace)
  | [] => isTrue trivial
  | .read core .data value :: later =>
      @instDecidableAnd (protocol.content value = file.data) _ inferInstance
        (decidableAnswers (file.step protocol (.read core .data value)) later)
  | .read core .interface value :: later =>
      decidableAnswers (file.step protocol (.read core .interface value)) later
  | .write core reg value :: later => decidableAnswers (file.step protocol (.write core reg value)) later

/-- Whenever a register of `guarded` is stored, the file satisfies `holds`. -/
def StoresWhile (file : RegisterFile Key Content) (guarded : Key → Prop)
    (holds : RegisterFile Key Content → Prop) (trace : Trace Core Value) : Prop :=
  ∀ before core word later, trace = before ++ .write core .interface word :: later →
    protocol.store word = true → guarded (protocol.select word) → holds (file.after protocol before)

variable {protocol} {file : RegisterFile Key Content} {guarded : Key → Prop}
  {holds : RegisterFile Key Content → Prop} {trace : Trace Core Value}

theorem Answers.later {event : Event Core Value} (answers : Answers protocol file (event :: trace)) :
    Answers protocol (file.step protocol event) trace := by
  cases event with
  | read core reg value =>
      cases reg with
      | data => exact answers.2
      | interface => exact answers
  | write core reg value => exact answers

theorem Answers.last {core : Core} {value : Value}
    (answers : Answers protocol file (trace ++ [.read core .data value])) :
    protocol.content value = (file.after protocol trace).data := by
  induction trace generalizing file with
  | nil => exact answers.1
  | cons event rest ih => exact ih answers.later

theorem StoresWhile.nil : StoresWhile protocol file guarded holds ([] : Trace Core Value) :=
  fun before _ _ _ shape => absurd shape (by simp)

/-- Only a store of a guarded register has to be looked at. -/
theorem StoresWhile.snoc (sofar : StoresWhile protocol file guarded holds trace) {event : Event Core Value}
    (next : ∀ core word, event = .write core .interface word → protocol.store word = true →
      guarded (protocol.select word) → holds (file.after protocol trace)) :
    StoresWhile protocol file guarded holds (trace ++ [event]) := by
  intro before core word later shape
  rcases snoc_eq_append_cons shape with ⟨rfl, same⟩ | ⟨later', inside⟩
  · exact next core word same
  · exact sofar before core word later' inside

end Obligations

end KvmWorkload.Mailbox
