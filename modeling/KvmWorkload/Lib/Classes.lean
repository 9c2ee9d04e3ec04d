import KvmWorkload.Lib.Decimal
import Mathlib.Data.Finset.Basic

/-! # Classes of service

A processor sorts its cores into classes and keeps tables with a value for each
class.  A tool changes them.  What a tool accepts depends on the machine; a
command that it refuses changes nothing.
-/

namespace KvmWorkload

/-- The class of each core, and the tables. -/
structure Classes (κ : Type) where
  assoc : Nat → Nat
  value : κ → Nat → Text

/-- What a core gets from a table. -/
def Classes.of {κ : Type} (s : Classes κ) (table : κ) (core : Nat) : Text := s.value table (s.assoc core)

inductive ClassCommand (κ : Type) where
  /-- Every class and every core back to the start. -/
  | reset
  | associate (cos : Nat) (cores : Finset Nat)
  | allocate (table : κ) (cos : Nat) (value : Text)

structure ClassTool (κ : Type) where
  accepts : ClassCommand κ → Bool
  /-- What each class carries in a table after a reset. -/
  full : κ → Text

section ClassTool

variable {κ γ : Type} [DecidableEq κ]

/-- What a command does when it is accepted. -/
def ClassCommand.apply (full : κ → Text) (s : Classes κ) : ClassCommand κ → Classes κ
  | .reset => ⟨fun _ => 0, fun table _ => full table⟩
  | .associate cos cores => { s with assoc := fun core => if core ∈ cores then cos else s.assoc core }
  | .allocate table cos value =>
      { s with value := Function.update s.value table (Function.update (s.value table) cos value) }

def ClassTool.step (tool : ClassTool κ) (s : Classes κ) (command : ClassCommand κ) : Classes κ :=
  if tool.accepts command then command.apply tool.full s else s

variable {tool : ClassTool κ}

/-- As long as nothing is refused, a script has the effect of its commands. -/
theorem ClassTool.foldl_step {commands : List (ClassCommand κ)}
    (accepted : ∀ command ∈ commands, tool.accepts command = true) (s : Classes κ) :
    commands.foldl tool.step s = commands.foldl (ClassCommand.apply tool.full) s := by
  induction commands generalizing s with
  | nil => rfl
  | cons command rest ih =>
      rw [List.forall_mem_cons] at accepted
      rw [List.foldl_cons, List.foldl_cons, ih accepted.2, ClassTool.step, if_pos accepted.1]

theorem foldl_elim {σ α : Type} (step : σ → α → σ) (read : γ → Option α) (commands : List γ) (s : σ) :
    commands.foldl (fun s command => (read command).elim s (step s)) s =
      (commands.filterMap read).foldl step s := by
  induction commands generalizing s with
  | nil => rfl
  | cons command rest ih =>
      rw [List.foldl_cons, ih, List.filterMap_cons]
      cases read command <;> rfl

end ClassTool

end KvmWorkload
