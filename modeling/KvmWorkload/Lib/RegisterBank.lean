import KvmWorkload.Lib.RegisterFile

/-! # Register files on several nodes

Every node has a register file of its own behind its own mailbox, and a core
reaches the file of the node it belongs to.  A trace of accesses through many
cores comes apart into one trace for each node; what holds of a single file is
carried over to the bank node by node.
-/

namespace KvmWorkload.Mailbox

variable {Core Value Key Content Node : Type}

def Event.core : Event Core Value → Core
  | .read core _ _ => core
  | .write core _ _ => core

/-- One register file for each node. -/
abbrev Bank (Node Key Content : Type) := Node → RegisterFile Key Content

section OnNode

variable [DecidableEq Node] (home : Core → Node)

/-- The accesses that reach `node`. -/
def onNode (node : Node) (trace : Trace Core Value) : Trace Core Value :=
  trace.filter fun event => home event.core = node

@[simp] theorem onNode_nil (node : Node) : onNode home node ([] : Trace Core Value) = [] := rfl

@[simp] theorem onNode_append (node : Node) (trace later : Trace Core Value) :
    onNode home node (trace ++ later) = onNode home node trace ++ onNode home node later :=
  List.filter_append ..

theorem onNode_own {core : Core} {trace : Trace Core Value} (alone : ∀ event ∈ trace, event.core = core) :
    onNode home (home core) trace = trace :=
  List.filter_eq_self.mpr fun event member => by rw [alone event member, decide_eq_true rfl]

theorem onNode_other {core : Core} {trace : Trace Core Value} (alone : ∀ event ∈ trace, event.core = core)
    {node : Node} (other : node ≠ home core) : onNode home node trace = [] := by
  refine List.filter_eq_nil_iff.mpr fun event member => ?_
  rw [alone event member, decide_eq_true_eq]
  exact Ne.symm other

end OnNode

namespace Bank

variable [DecidableEq Node] [DecidableEq Key] (protocol : Protocol Value Key Content) (home : Core → Node)

/-- What one access does to the bank. -/
def step (bank : Bank Node Key Content) (event : Event Core Value) : Bank Node Key Content :=
  Function.update bank (home event.core) ((bank (home event.core)).step protocol event)

/-- The bank after a trace. -/
def after (bank : Bank Node Key Content) (trace : Trace Core Value) : Bank Node Key Content :=
  trace.foldl (step protocol home) bank

theorem after_apply (bank : Bank Node Key Content) (trace : Trace Core Value) (node : Node) :
    bank.after protocol home trace node = (bank node).after protocol (onNode home node trace) := by
  induction trace generalizing bank with
  | nil => rfl
  | cons event rest ih =>
      rw [after, List.foldl_cons]
      refine (ih (bank.step protocol home event)).trans ?_
      by_cases here : home event.core = node
      · subst here
        rw [step, Function.update_self, onNode, onNode, List.filter_cons_of_pos (by simp)]
        rfl
      · rw [step, Function.update_of_ne (Ne.symm here), onNode, onNode, List.filter_cons_of_neg (by simpa using here)]

/-- Every read of a data register returns what the file of its node holds there. -/
def Answers (bank : Bank Node Key Content) (trace : Trace Core Value) : Prop :=
  ∀ node, Mailbox.Answers protocol (bank node) (onNode home node trace)

end Bank

section Appending

variable [DecidableEq Key] {protocol : Protocol Value Key Content} {file : RegisterFile Key Content}
  {guarded : Key → Prop} {holds : RegisterFile Key Content → Prop} {trace later : Trace Core Value}

theorem RegisterFile.after_append (file : RegisterFile Key Content) (trace later : Trace Core Value) :
    file.after protocol (trace ++ later) = (file.after protocol trace).after protocol later :=
  List.foldl_append ..

theorem StoresWhile.append (sofar : StoresWhile protocol file guarded holds trace)
    (next : StoresWhile protocol (file.after protocol trace) guarded holds later) :
    StoresWhile protocol file guarded holds (trace ++ later) := by
  intro before core word behind shape store inside
  rcases List.append_eq_append_iff.mp shape with ⟨middle, rfl, rest⟩ | ⟨middle, rest, shape'⟩
  · rw [RegisterFile.after_append]
    exact next middle core word behind rest store inside
  · cases middle with
    | nil =>
        rw [List.append_nil] at rest
        subst rest
        exact next [] core word behind shape'.symm store inside
    | cons event middle =>
        obtain ⟨rfl, rfl⟩ := List.cons.inj shape'
        exact sofar before core word middle rest store inside

/-- What the file answers behind a trace, it answers from the state that the trace left. -/
theorem Answers.behind (answers : Answers protocol file (trace ++ later)) :
    Answers protocol (file.after protocol trace) later := by
  induction trace generalizing file with
  | nil => exact answers
  | cons event rest ih => exact ih answers.later

theorem Answers.front (answers : Answers protocol file (trace ++ later)) : Answers protocol file trace := by
  induction trace generalizing file with
  | nil => trivial
  | cons event rest ih =>
      have behind : Answers protocol (file.step protocol event) rest := ih answers.later
      cases event with
      | read core reg value =>
          cases reg with
          | data => exact ⟨answers.1, behind⟩
          | interface => exact behind
      | write core reg value => exact behind

end Appending

theorem Bank.Answers.front [DecidableEq Node] [DecidableEq Key] {protocol : Protocol Value Key Content}
    {home : Core → Node} {bank : Bank Node Key Content} {trace later : Trace Core Value}
    (answers : bank.Answers protocol home (trace ++ later)) : bank.Answers protocol home trace := by
  intro node
  have here := answers node
  rw [onNode_append] at here
  exact Mailbox.Answers.front here

end KvmWorkload.Mailbox
