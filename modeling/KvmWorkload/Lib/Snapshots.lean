import Mathlib.Data.List.Forall2

/-! # States at marked commands

A script issues a list of commands, and each control plane of the machine is a
step function over them.  Some commands are marked: there the state of the
plane is observed.  A campaign is a sequence of scripts on one machine.
-/

namespace KvmWorkload

variable {σ κ ρ : Type}

section Snapshots

variable (step : σ → κ → σ) (mark : κ → Bool)

/-- The states in front of the marked commands. -/
def snapshots : σ → List κ → List σ
  | _, [] => []
  | s, command :: rest =>
      if mark command then s :: snapshots (step s command) rest else snapshots (step s command) rest

variable {mark}

theorem snapshots_append (s : σ) (commands later : List κ) :
    snapshots step mark s (commands ++ later) =
      snapshots step mark s commands ++ snapshots step mark (commands.foldl step s) later := by
  induction commands generalizing s with
  | nil => rfl
  | cons command rest ih =>
      rw [List.cons_append, snapshots, snapshots, ih, List.foldl_cons]
      by_cases marked : mark command = true
      · rw [if_pos marked, if_pos marked, List.cons_append]
      · rw [if_neg marked, if_neg marked]

theorem snapshots_unmarked {commands : List κ} (unmarked : ∀ command ∈ commands, mark command = false) (s : σ) :
    snapshots step mark s commands = [] := by
  induction commands generalizing s with
  | nil => rfl
  | cons command rest ih =>
      rw [List.forall_mem_cons] at unmarked
      rw [snapshots, unmarked.1, ih unmarked.2]
      rfl

theorem snapshots_single {before after : List κ} {command : κ} (here : mark command = true)
    (front : ∀ command ∈ before, mark command = false) (back : ∀ command ∈ after, mark command = false) (s : σ) :
    snapshots step mark s (before ++ command :: after) = [before.foldl step s] := by
  rw [snapshots_append, snapshots_unmarked step front, List.nil_append, snapshots, if_pos here,
    snapshots_unmarked step back]

end Snapshots

/-- When every script keeps the invariant and is observed once, in a state that suits it, each script
    of a campaign is observed in a state that suits it. -/
theorem forall₂_snapshots (Inv : σ → Prop) {step : σ → κ → σ} {mark : κ → Bool} {script : ρ → List κ}
    {Suits : ρ → σ → Prop}
    (each : ∀ run s, Inv s → Inv ((script run).foldl step s) ∧
      ∃ observed, snapshots step mark s (script run) = [observed] ∧ Suits run observed)
    (runs : List ρ) {s : σ} (start : Inv s) :
    List.Forall₂ Suits runs (snapshots step mark s (runs.flatMap script)) := by
  induction runs generalizing s with
  | nil => exact .nil
  | cons run rest ih =>
      obtain ⟨kept, observed, once, suits⟩ := each run s start
      rw [List.flatMap_cons, snapshots_append, once]
      exact .cons suits (ih kept)

theorem snapshots_last {step : σ → κ → σ} {mark : κ → Bool} {script : ρ → List κ} {run : ρ} {before : List κ}
    (once : ∀ s, snapshots step mark s (script run) = [before.foldl step s]) (earlier : List ρ) (s : σ) :
    (snapshots step mark s ((earlier ++ [run]).flatMap script)).getLast? =
      some (before.foldl step ((earlier.flatMap script).foldl step s)) := by
  rw [List.flatMap_append, List.flatMap_singleton, snapshots_append, once, List.getLast?_concat]

/-- What the last command that sets a value has set, if one does. -/
def latest {β : Type} (sets : κ → Option β) (current : β) (commands : List κ) : β :=
  commands.foldl (fun value command => (sets command).getD value) current

section Latest

variable {β : Type} {sets : κ → Option β} {commands : List κ}

theorem latest_append (current : β) (later : List κ) :
    latest sets current (commands ++ later) = latest sets (latest sets current commands) later := List.foldl_append

theorem latest_of_none (none : ∀ command ∈ commands, sets command = none) (current : β) :
    latest sets current commands = current := by
  induction commands with
  | nil => rfl
  | cons command rest ih =>
      rw [List.forall_mem_cons] at none
      rw [latest, List.foldl_cons, none.1]
      exact ih none.2

theorem latest_of_some {command : κ} (member : command ∈ commands) (set : (sets command).isSome) (value value' : β) :
    latest sets value commands = latest sets value' commands := by
  induction commands generalizing value value' with
  | nil => exact absurd member List.not_mem_nil
  | cons first rest ih =>
      rw [latest, latest, List.foldl_cons, List.foldl_cons]
      rcases List.mem_cons.mp member with here | later
      · subst here
        obtain ⟨new, given⟩ := Option.isSome_iff_exists.mp set
        rw [given]
        rfl
      · exact ih later _ _

end Latest

end KvmWorkload
