import Mathlib.Data.List.Nodup

/-! # Interleavings of programs

Several actors run at the same time, each a fixed list of actions.  A run is
the list of all actions in the order in which they happened, each with the
actor that took it.
-/

namespace KvmWorkload

variable {ι α : Type} [DecidableEq ι]

/-- The actions of one actor, in order. -/
def project (actor : ι) (events : List (ι × α)) : List α :=
  (events.filter fun event => event.1 = actor).map Prod.snd

/-- Every actor's actions are its program, and nobody else acts. -/
structure Interleaves (actors : List ι) (program : ι → List α) (events : List (ι × α)) : Prop where
  each : ∀ actor ∈ actors, project actor events = program actor
  only : ∀ event ∈ events, event.1 ∈ actors

/-- The run in which each actor ends before the next one starts. -/
def oneByOne (actors : List ι) (program : ι → List α) : List (ι × α) :=
  actors.flatMap fun actor => (program actor).map (Prod.mk actor)

theorem project_append (actor : ι) (events later : List (ι × α)) :
    project actor (events ++ later) = project actor events ++ project actor later := by
  simp only [project, List.filter_append, List.map_append]

theorem project_own (actor : ι) (actions : List α) :
    project actor (actions.map (Prod.mk actor)) = actions := by
  simp [project, List.filter_map, Function.comp_def]

theorem project_other {actor other : ι} (different : other ≠ actor) (actions : List α) :
    project actor (actions.map (Prod.mk other)) = [] := by
  simp [project, List.filter_map, Function.comp_def, different]

theorem project_oneByOne_absent {actors : List ι} {actor : ι} (absent : actor ∉ actors) (program : ι → List α) :
    project actor (oneByOne actors program) = [] := by
  induction actors with
  | nil => rfl
  | cons first rest ih =>
      rw [List.mem_cons, not_or] at absent
      rw [oneByOne, List.flatMap_cons, project_append, project_other (Ne.symm absent.1), List.nil_append]
      exact ih absent.2

theorem project_oneByOne {actors : List ι} (distinct : actors.Nodup) {actor : ι} (member : actor ∈ actors)
    (program : ι → List α) : project actor (oneByOne actors program) = program actor := by
  induction actors with
  | nil => cases member
  | cons first rest ih =>
      obtain ⟨fresh, distinct⟩ := List.nodup_cons.mp distinct
      rw [oneByOne, List.flatMap_cons, project_append]
      cases member with
      | head =>
          have others := project_oneByOne_absent fresh program
          rw [oneByOne] at others
          rw [project_own, others, List.append_nil]
      | tail _ inside =>
          have different : first ≠ actor := fun same => fresh (same ▸ inside)
          rw [project_other different, List.nil_append]
          exact ih distinct inside

/-- Running one after the other is an interleaving. -/
theorem oneByOne_interleaves {actors : List ι} (distinct : actors.Nodup) (program : ι → List α) :
    Interleaves actors program (oneByOne actors program) := by
  constructor
  · exact fun actor member => project_oneByOne distinct member program
  · intro event member
    obtain ⟨actor, inside, member⟩ := List.mem_flatMap.mp member
    obtain ⟨action, -, rfl⟩ := List.mem_map.mp member
    exact inside

theorem Interleaves.mem {actors : List ι} {program : ι → List α} {events : List (ι × α)}
    (run : Interleaves actors program events) {event : ι × α} (member : event ∈ events) :
    event.2 ∈ program event.1 := by
  rw [← run.each event.1 (run.only event member)]
  exact List.mem_map_of_mem (List.mem_filter.mpr ⟨member, decide_eq_true rfl⟩)

/-- A single actor has one run only. -/
theorem Interleaves.single {actor : ι} {program : ι → List α} {events : List (ι × α)}
    (run : Interleaves [actor] program events) : events = (program actor).map (Prod.mk actor) := by
  have alone : ∀ event ∈ events, event.1 = actor := fun event member => by simpa using run.only event member
  have everything : events.filter (fun event => event.1 = actor) = events :=
    List.filter_eq_self.mpr fun event member => by simpa using alone event member
  have actions := run.each actor List.mem_cons_self
  rw [project, everything] at actions
  rw [← actions, List.map_map]
  conv_lhs => rw [← List.map_id events]
  apply List.map_congr_left
  intro event member
  exact Prod.ext (alone event member) rfl

theorem view_foldl {σ ν : Type} {step : σ → α → σ} {view : σ → ν} {own : ν → α → ν} {actor : ι}
    {events : List (ι × α)}
    (mine : ∀ event ∈ events, event.1 = actor → ∀ s, view (step s event.2) = own (view s) event.2)
    (others : ∀ event ∈ events, event.1 ≠ actor → ∀ s, view (step s event.2) = view s) (s : σ) :
    view (events.foldl (fun s event => step s event.2) s) = (project actor events).foldl own (view s) := by
  induction events generalizing s with
  | nil => rfl
  | cons event events ih =>
      rw [List.forall_mem_cons] at mine others
      rw [List.foldl_cons, ih mine.2 others.2, project, project, List.filter_cons]
      by_cases here : event.1 = actor
      · rw [mine.1 here, if_pos (decide_eq_true here), List.map_cons, List.foldl_cons]
      · rw [others.1 here, if_neg (by simpa using here)]

end KvmWorkload
