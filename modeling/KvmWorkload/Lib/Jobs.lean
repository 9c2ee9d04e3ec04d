import Mathlib.Logic.Relation
import Mathlib.Data.List.Basic

/-! # A script and its background jobs

A script issues commands and starts jobs: one at a time in the foreground, for
whose end it waits, and any number in the background, which come up and end
whenever they like.  A tool lists some of them, and the script can wait until it
lists none any more, or stop those that it lists.
-/

namespace KvmWorkload

inductive ScriptAction (κ ι : Type) where
  | command (command : κ)
  /-- `job &`. -/
  | spawn (job : ι)
  /-- A job in the foreground. -/
  | call (job : ι)
  /-- Wait until no job is listed. -/
  | await
  /-- Stop all jobs that are listed. -/
  | stop

/-- A background job, and whether it has come up. -/
structure Started (ι : Type) where
  job : ι
  up : Bool

/-- Which jobs a tool lists once they are up, and which of them may not be up when the script looks. -/
structure Listing (ι : Type) where
  lists : ι → Bool
  slow : ι → Bool

/-- A running script: what it still has to do, the job it waits for, and the jobs behind it. -/
structure Running (κ ι : Type) where
  todo : List (ScriptAction κ ι)
  current : Option ι
  background : List (Started ι)

variable {κ ι : Type}

/-- Whether a job is listed when the script looks. -/
def Listing.sees (tool : Listing ι) (entry : Started ι) : Bool :=
  tool.lists entry.job && (entry.up || !tool.slow entry.job)

inductive ScriptStep (tool : Listing ι) : Running κ ι → Running κ ι → Prop where
  | command {command : κ} {todo : List (ScriptAction κ ι)} {background : List (Started ι)} :
      ScriptStep tool ⟨.command command :: todo, none, background⟩ ⟨todo, none, background⟩
  | spawn {job : ι} {todo : List (ScriptAction κ ι)} {background : List (Started ι)} :
      ScriptStep tool ⟨.spawn job :: todo, none, background⟩ ⟨todo, none, ⟨job, false⟩ :: background⟩
  | call {job : ι} {todo : List (ScriptAction κ ι)} {background : List (Started ι)} :
      ScriptStep tool ⟨.call job :: todo, none, background⟩ ⟨todo, some job, background⟩
  | returned {job : ι} {todo : List (ScriptAction κ ι)} {background : List (Started ι)} :
      ScriptStep tool ⟨todo, some job, background⟩ ⟨todo, none, background⟩
  | comesUp {todo : List (ScriptAction κ ι)} {current : Option ι} {entry : Started ι} {before after : List (Started ι)} :
      ScriptStep tool ⟨todo, current, before ++ entry :: after⟩
        ⟨todo, current, before ++ { entry with up := true } :: after⟩
  | ended {todo : List (ScriptAction κ ι)} {current : Option ι} {entry : Started ι} {before after : List (Started ι)} :
      ScriptStep tool ⟨todo, current, before ++ entry :: after⟩ ⟨todo, current, before ++ after⟩
  | await {todo : List (ScriptAction κ ι)} {background : List (Started ι)}
      (gone : ∀ entry ∈ background, tool.sees entry = false) :
      ScriptStep tool ⟨.await :: todo, none, background⟩ ⟨todo, none, background⟩
  | stop {todo : List (ScriptAction κ ι)} {background : List (Started ι)} :
      ScriptStep tool ⟨.stop :: todo, none, background⟩ ⟨todo, none, background.filter fun entry => !tool.sees entry⟩

/-- The states that a script can reach. -/
def Reaches (tool : Listing ι) (script : List (ScriptAction κ ι)) : Running κ ι → Prop :=
  Relation.ReflTransGen (ScriptStep tool) ⟨script, none, []⟩

/-- A round starts one job in the background and one in the foreground, and sees to it that no job is
    listed. -/
structure Round (κ ι : Type) where
  before : List κ
  spawned : ι
  called : ι
  /-- Whether it waits or stops. -/
  waits : Bool
  after : List κ

namespace Round

/-- Seeing to it that no listed job is left. -/
def clear (waits : Bool) : ScriptAction κ ι := if waits then .await else .stop

def actions (round : Round κ ι) : List (ScriptAction κ ι) :=
  round.before.map .command ++
    .spawn round.spawned :: .call round.called :: clear round.waits :: round.after.map .command

end Round

/-- The actions of a script that concern jobs. -/
def jobActions (script : List (ScriptAction κ ι)) : List (ScriptAction κ ι) :=
  script.filter fun
    | .command _ => false
    | _ => true

section JobActions

variable (todo : List (ScriptAction κ ι))

@[simp] theorem jobActions_command (command : κ) : jobActions (.command command :: todo) = jobActions todo := rfl

@[simp] theorem jobActions_spawn (job : ι) : jobActions (.spawn job :: todo) = .spawn job :: jobActions todo := rfl

@[simp] theorem jobActions_call (job : ι) : jobActions (.call job :: todo) = .call job :: jobActions todo := rfl

@[simp] theorem jobActions_await : jobActions (.await :: todo) = .await :: jobActions todo := rfl

@[simp] theorem jobActions_stop : jobActions (.stop :: todo) = .stop :: jobActions todo := rfl

theorem jobActions_commands (commands : List κ) : jobActions (commands.map .command ++ todo) = jobActions todo := by
  induction commands with
  | nil => rfl
  | cons command rest ih => exact ih

end JobActions

theorem jobActions_rounds (round : Round κ ι) (left : List (Round κ ι)) :
    jobActions ((round :: left).flatMap Round.actions) =
      .spawn round.spawned :: .call round.called :: Round.clear round.waits ::
        jobActions (left.flatMap Round.actions) := by
  rw [List.flatMap_cons, Round.actions, List.append_assoc, jobActions_commands]
  simp only [List.cons_append, jobActions_spawn, jobActions_call]
  cases round.waits <;> simp [Round.clear, jobActions_commands]

/-- How far a script of rounds has come.  Jobs that are `quiet` may run at any time. -/
inductive Phase (quiet : ι → Prop) (rounds : List (Round κ ι)) : Running κ ι → Prop where
  | between {todo : List (ScriptAction κ ι)} {background : List (Started ι)} (left : List (Round κ ι))
      (sub : left <:+ rounds) (next : jobActions todo = jobActions (left.flatMap Round.actions))
      (only : ∀ entry ∈ background, quiet entry.job) : Phase quiet rounds ⟨todo, none, background⟩
  | spawned {todo : List (ScriptAction κ ι)} {background : List (Started ι)} (round : Round κ ι)
      (left : List (Round κ ι)) (sub : round :: left <:+ rounds)
      (next : jobActions todo =
        .call round.called :: Round.clear round.waits :: jobActions (left.flatMap Round.actions))
      (only : ∀ entry ∈ background, entry.job = round.spawned ∨ quiet entry.job) :
      Phase quiet rounds ⟨todo, none, background⟩
  | called {todo : List (ScriptAction κ ι)} {current : Option ι} {background : List (Started ι)} (round : Round κ ι)
      (left : List (Round κ ι)) (sub : round :: left <:+ rounds)
      (next : jobActions todo = Round.clear round.waits :: jobActions (left.flatMap Round.actions))
      (measured : ∀ job ∈ current, job = round.called)
      (only : ∀ entry ∈ background, entry.job = round.spawned ∨ quiet entry.job) :
      Phase quiet rounds ⟨todo, current, background⟩

section Rounds

variable {tool : Listing ι} {quiet : ι → Prop} {rounds : List (Round κ ι)} {s s' : Running κ ι}

/-- A job that the script does not overlook when it waits, or one that may go on. -/
def Listing.Waited (tool : Listing ι) (quiet : ι → Prop) (job : ι) : Prop :=
  (tool.lists job = true ∧ tool.slow job = false) ∨ quiet job

/-- The rounds that are left start with a spawn. -/
theorem spawn_of_next {left : List (Round κ ι)} {action : ScriptAction κ ι} {rest : List (ScriptAction κ ι)}
    (next : action :: rest = jobActions (left.flatMap Round.actions)) :
    ∃ round later, left = round :: later ∧ action = .spawn round.spawned ∧
      rest = .call round.called :: Round.clear round.waits :: jobActions (later.flatMap Round.actions) := by
  cases left with
  | nil => cases next
  | cons round later =>
      rw [jobActions_rounds, List.cons.injEq] at next
      exact ⟨round, later, rfl, next.1, next.2⟩

theorem quiet_of_unseen {round : Round κ ι} (waited : tool.Waited quiet round.spawned) {entry : Started ι}
    (only : entry.job = round.spawned ∨ quiet entry.job) (unseen : tool.sees entry = false) : quiet entry.job := by
  rcases only with same | still
  · rw [← same] at waited
    rcases waited with ⟨lists, prompt⟩ | still
    · rw [Listing.sees, lists, prompt, Bool.not_false, Bool.or_true] at unseen
      cases unseen
    · exact still
  · exact still

/-- Behind the call of a round, its end comes next. -/
theorem clear_of_next {action : ScriptAction κ ι} {waits : Bool} {rest later : List (ScriptAction κ ι)}
    (next : action :: rest = Round.clear waits :: later) : action = .await ∨ action = .stop := by
  rw [List.cons.injEq, Round.clear] at next
  rw [next.1]
  cases waits with
  | true => exact .inl rfl
  | false => exact .inr rfl

/-- Background jobs may come up and end. -/
theorem Phase.of_jobs {todo : List (ScriptAction κ ι)} {current : Option ι} {background background' : List (Started ι)}
    (jobs : ∀ entry ∈ background', ∃ earlier ∈ background, earlier.job = entry.job)
    (phase : Phase quiet rounds ⟨todo, current, background⟩) : Phase quiet rounds ⟨todo, current, background'⟩ := by
  have keep : ∀ P : ι → Prop, (∀ entry ∈ background, P entry.job) → ∀ entry ∈ background', P entry.job := by
    intro P all entry member
    obtain ⟨earlier, there, same⟩ := jobs entry member
    exact same ▸ all earlier there
  cases phase with
  | between left sub next only => exact .between left sub next (keep quiet only)
  | spawned round left sub next only =>
      exact .spawned round left sub next (keep (fun job => job = round.spawned ∨ quiet job) only)
  | called round left sub next measured only =>
      exact .called round left sub next measured (keep (fun job => job = round.spawned ∨ quiet job) only)

/-- A round ends with jobs that nobody sees. -/
theorem Phase.of_cleared {round : Round κ ι} {left : List (Round κ ι)} {todo : List (ScriptAction κ ι)}
    {background background' : List (Started ι)} (waited : tool.Waited quiet round.spawned)
    (sub : round :: left <:+ rounds) (next : jobActions todo = jobActions (left.flatMap Round.actions))
    (only : ∀ entry ∈ background, entry.job = round.spawned ∨ quiet entry.job)
    (kept : ∀ entry ∈ background', entry ∈ background ∧ tool.sees entry = false) :
    Phase quiet rounds ⟨todo, none, background'⟩ := by
  refine .between left ((List.suffix_cons round left).trans sub) next fun entry member => ?_
  obtain ⟨member, unseen⟩ := kept entry member
  exact quiet_of_unseen waited (only entry member) unseen

theorem Phase.step (waited : ∀ round ∈ rounds, tool.Waited quiet round.spawned) (phase : Phase quiet rounds s)
    (step : ScriptStep tool s s') : Phase quiet rounds s' := by
  cases step with
  | command =>
      cases phase with
      | between left sub next only => exact .between left sub next only
      | spawned round left sub next only => exact .spawned round left sub next only
      | called round left sub next measured only => exact .called round left sub next measured only
  | spawn =>
      cases phase with
      | between left sub next only =>
          obtain ⟨round, later, rfl, same, rest⟩ := spawn_of_next next
          cases same
          refine .spawned round later sub rest ?_
          rw [List.forall_mem_cons]
          exact ⟨.inl rfl, fun entry member => .inr (only entry member)⟩
      | spawned round left sub next only => cases next
      | called round left sub next measured only => exact absurd (clear_of_next next) (by simp)
  | call =>
      cases phase with
      | between left sub next only =>
          obtain ⟨round, later, rfl, same, rest⟩ := spawn_of_next next
          cases same
      | spawned round left sub next only =>
          rw [jobActions_call, List.cons.injEq, ScriptAction.call.injEq] at next
          exact .called round left sub next.2 (by simp [next.1]) only
      | called round left sub next measured only => exact absurd (clear_of_next next) (by simp)
  | returned =>
      cases phase with
      | called round left sub next measured only => exact .called round left sub next (by simp) only
  | @comesUp _ _ entry before after =>
      refine phase.of_jobs fun other member => ?_
      rcases List.mem_append.mp member with first | rest
      · exact ⟨other, List.mem_append_left _ first, rfl⟩
      · rcases List.mem_cons.mp rest with rfl | last
        · exact ⟨entry, List.mem_append_right _ List.mem_cons_self, rfl⟩
        · exact ⟨other, List.mem_append_right _ (List.mem_cons_of_mem _ last), rfl⟩
  | ended =>
      refine phase.of_jobs fun other member => ⟨other, ?_, rfl⟩
      exact List.mem_append.mpr ((List.mem_append.mp member).imp_right (List.mem_cons_of_mem _))
  | await gone =>
      cases phase with
      | between left sub next only =>
          obtain ⟨round, later, rfl, same, rest⟩ := spawn_of_next next
          cases same
      | spawned round left sub next only => cases next
      | called round left sub next measured only =>
          rw [jobActions_await, List.cons.injEq] at next
          exact .of_cleared (waited round (sub.subset List.mem_cons_self)) sub next.2 only fun entry member =>
            ⟨member, gone entry member⟩
  | stop =>
      cases phase with
      | between left sub next only =>
          obtain ⟨round, later, rfl, same, rest⟩ := spawn_of_next next
          cases same
      | spawned round left sub next only => cases next
      | called round left sub next measured only =>
          rw [jobActions_stop, List.cons.injEq] at next
          exact .of_cleared (waited round (sub.subset List.mem_cons_self)) sub next.2 only fun entry member => by
            simpa using List.mem_filter.mp member

theorem Phase.of_reaches (waited : ∀ round ∈ rounds, tool.Waited quiet round.spawned)
    (reached : Reaches tool (rounds.flatMap Round.actions) s) : Phase quiet rounds s := by
  induction reached with
  | refl => exact .between rounds (List.suffix_refl _) rfl (by simp)
  | tail _ step ih => exact ih.step waited step

/-- When every round starts a job that is waited for or quiet, a job in the foreground has only the job
    of its own round beside it. -/
theorem partner_of_reaches (waited : ∀ round ∈ rounds, tool.Waited quiet round.spawned)
    (reached : Reaches tool (rounds.flatMap Round.actions) s) {job : ι} (running : s.current = some job) :
    ∃ round ∈ rounds, round.called = job ∧
      ∀ entry ∈ s.background, entry.job = round.spawned ∨ quiet entry.job := by
  cases Phase.of_reaches waited reached with
  | between => cases running
  | spawned => cases running
  | called round left sub next measured only =>
      exact ⟨round, sub.subset List.mem_cons_self, (measured job running).symm, only⟩

end Rounds

section Leftovers

variable (tool : Listing ι)

theorem steps_commands (commands : List κ) (todo : List (ScriptAction κ ι)) (background : List (Started ι)) :
    Relation.ReflTransGen (ScriptStep tool) ⟨commands.map .command ++ todo, none, background⟩
      ⟨todo, none, background⟩ := by
  induction commands with
  | nil => exact .refl
  | cons command rest ih => exact .head .command ih

theorem steps_to_call (round : Round κ ι) (todo : List (ScriptAction κ ι)) (background : List (Started ι)) :
    Relation.ReflTransGen (ScriptStep tool) ⟨round.actions ++ todo, none, background⟩
      ⟨Round.clear round.waits :: (round.after.map .command ++ todo), some round.called,
        ⟨round.spawned, false⟩ :: background⟩ := by
  rw [Round.actions, List.append_assoc]
  exact ((steps_commands tool round.before _ background).tail .spawn).tail .call

variable {tool}

theorem steps_round {round : Round κ ι} {background : List (Started ι)}
    (unseen : ∀ entry ∈ ⟨round.spawned, false⟩ :: background, tool.sees entry = false)
    (todo : List (ScriptAction κ ι)) :
    Relation.ReflTransGen (ScriptStep tool) ⟨round.actions ++ todo, none, background⟩
      ⟨todo, none, ⟨round.spawned, false⟩ :: background⟩ := by
  have cleared : ScriptStep tool
      ⟨Round.clear round.waits :: (round.after.map .command ++ todo), none, ⟨round.spawned, false⟩ :: background⟩
      ⟨round.after.map .command ++ todo, none, ⟨round.spawned, false⟩ :: background⟩ := by
    cases round.waits with
    | true => exact .await unseen
    | false =>
        have same : (⟨round.spawned, false⟩ :: background).filter (fun entry => !tool.sees entry) =
            ⟨round.spawned, false⟩ :: background :=
          List.filter_eq_self.mpr fun entry member => by rw [unseen entry member]; rfl
        have stopped : ScriptStep tool
            ⟨.stop :: (round.after.map .command ++ todo), none, ⟨round.spawned, false⟩ :: background⟩
            ⟨_, none, (⟨round.spawned, false⟩ :: background).filter fun entry => !tool.sees entry⟩ := .stop
        rwa [same] at stopped
  exact (((steps_to_call tool round todo background).tail .returned).tail cleared).trans
    (steps_commands tool round.after todo _)

theorem leftover_reaches {first : Round κ ι} (unseen : tool.sees ⟨first.spawned, false⟩ = false)
    (second : Round κ ι) (later : List (Round κ ι)) :
    ∃ s, Reaches tool ((first :: second :: later).flatMap Round.actions) s ∧ s.current = some second.called ∧
      ⟨first.spawned, false⟩ ∈ s.background := by
  rw [List.flatMap_cons, List.flatMap_cons]
  refine ⟨_, (steps_round (by simpa using unseen) _).trans (steps_to_call tool second _ _), rfl, ?_⟩
  exact List.mem_cons_of_mem _ List.mem_cons_self

end Leftovers

end KvmWorkload
