import Mathlib.Data.List.Forall2
import Mathlib.Tactic.Common

/-! # Programs that keep their state when they stop

Rules of pre- and postconditions for `EStateM`.  The state at an error is as
observable as the state at the end, so a triple has a condition for both.
-/

namespace KvmWorkload

variable {ε σ α β : Type}

@[simp] theorem pure_ok {a b : α} {s s' : σ} :
    (pure a : EStateM ε σ α) s = .ok b s' ↔ a = b ∧ s = s' :=
  EStateM.Result.ok.injEq .. |>.to_iff

theorem throw_run (e : ε) (s : σ) : (throw e : EStateM ε σ α) s = .error e s := rfl

@[simp] theorem throw_ok {e : ε} {b : α} {s s' : σ} :
    ¬ (throw e : EStateM ε σ α) s = .ok b s' := nofun

@[simp] theorem modify_ok {f : σ → σ} {u : PUnit} {s s' : σ} :
    (modify f : EStateM ε σ PUnit) s = .ok u s' ↔ f s = s' :=
  (EStateM.Result.ok.injEq .. |>.to_iff).trans (and_iff_right rfl)

@[simp] theorem get_ok {a s s' : σ} :
    (get : EStateM ε σ σ) s = .ok a s' ↔ s = a ∧ s = s' :=
  EStateM.Result.ok.injEq .. |>.to_iff

theorem bind_ok {first : EStateM ε σ α} {next : α → EStateM ε σ β} {b : β} {s s' : σ} :
    (first >>= next) s = .ok b s' ↔ ∃ a t, first s = .ok a t ∧ next a t = .ok b s' := by
  change EStateM.bind first next s = .ok b s' ↔ _
  rw [EStateM.bind]
  cases run : first s with
  | ok a t => simp
  | error e t => simp

@[simp] theorem map_ok {f : α → β} {prog : EStateM ε σ α} {b : β} {s s' : σ} :
    (f <$> prog) s = .ok b s' ↔ ∃ a, prog s = .ok a s' ∧ f a = b := by
  change EStateM.map f prog s = .ok b s' ↔ _
  rw [EStateM.map]
  cases run : prog s with
  | ok a t => simp [and_comm]
  | error e t => simp

theorem bind_of_ok {first : EStateM ε σ α} {next : α → EStateM ε σ β} {a : α} {s t : σ}
    (ends : first s = .ok a t) : (first >>= next) s = next a t := by
  change EStateM.bind first next s = next a t
  rw [EStateM.bind, ends]

theorem bind_of_error {first : EStateM ε σ α} {next : α → EStateM ε σ β} {e : ε} {s t : σ}
    (stops : first s = .error e t) : (first >>= next) s = .error e t := by
  change EStateM.bind first next s = .error e t
  rw [EStateM.bind, stops]

@[simp] theorem except_ok_bind (a : α) (next : α → Except ε β) : (Except.ok a >>= next) = next a := rfl

theorem except_bind_ok {first : Except ε α} {next : α → Except ε β} {b : β} :
    (first >>= next) = .ok b ↔ ∃ a, first = .ok a ∧ next a = .ok b := by
  cases first with
  | ok a => simp [bind, Except.bind]
  | error e => simp [bind, Except.bind]

theorem except_ite_ok {p : Prop} [Decidable p] {a b : α} {e : ε} :
    (if p then .ok a else .error e : Except ε α) = .ok b ↔ p ∧ a = b := by
  split_ifs with holds
  · simp [holds]
  · simp [holds]

theorem except_guard_ok {c : Bool} {a b : α} {e : ε} :
    (if c then .error e else .ok a : Except ε α) = .ok b ↔ c = false ∧ a = b := by
  cases c <;> simp

/-- A traversal ends with the results of its items. -/
theorem except_mapM_ok {f : α → Except ε β} {xs : List α} {ys : List β} :
    xs.mapM f = .ok ys ↔ List.Forall₂ (fun x y => f x = .ok y) xs ys := by
  induction xs generalizing ys with
  | nil =>
      rw [List.mapM_nil, List.forall₂_nil_left_iff]
      exact ⟨fun ends => (Except.ok.inj ends).symm, fun empty => congrArg _ empty.symm⟩
  | cons x xs ih =>
      rw [List.mapM_cons, except_bind_ok, List.forall₂_cons_left_iff]
      constructor
      · rintro ⟨y, here, run⟩
        obtain ⟨rest, later, ends⟩ := except_bind_ok.mp run
        cases ends
        exact ⟨y, rest, here, ih.mp later, rfl⟩
      · rintro ⟨y, rest, here, later, rfl⟩
        exact ⟨y, here, except_bind_ok.mpr ⟨rest, ih.mpr later, rfl⟩⟩

/-- A traversal ends when it can treat every item. -/
theorem except_exists_mapM_ok {f : α → Except ε β} {xs : List α} (each : ∀ x ∈ xs, ∃ y, f x = .ok y) :
    ∃ ys, xs.mapM f = .ok ys := by
  simp only [except_mapM_ok]
  induction xs with
  | nil => exact ⟨[], .nil⟩
  | cons x xs ih =>
      obtain ⟨y, here⟩ := each x List.mem_cons_self
      obtain ⟨ys, later⟩ := ih fun x member => each x (List.mem_cons_of_mem _ member)
      exact ⟨y :: ys, .cons here later⟩

theorem except_foldlM_eq {f : α → Except ε β} {g : σ → β → σ} (xs : List α) (s : σ) :
    xs.foldlM (fun s x => do return g s (← f x)) s = do return (← xs.mapM f).foldl g s := by
  induction xs generalizing s with
  | nil => rfl
  | cons x xs ih =>
      rw [List.foldlM_cons, List.mapM_cons]
      cases f x with
      | error e => rfl
      | ok y =>
          change xs.foldlM _ (g s y) = _
          rw [ih]
          cases xs.mapM f <;> rfl

theorem except_foldlM_ite {f : σ → α → Except ε σ} {next : σ → α → σ} {good : α → Prop} [DecidablePred good] {e : ε}
    (step : ∀ s x, f s x = if good x then .ok (next s x) else .error e) (xs : List α) (s : σ) :
    xs.foldlM f s = if ∀ x ∈ xs, good x then .ok (xs.foldl next s) else .error e := by
  induction xs generalizing s with
  | nil => simp [pure, Except.pure]
  | cons x xs ih =>
      rw [List.foldlM_cons, step]
      by_cases passes : good x
      · rw [if_pos passes]
        change xs.foldlM f (next s x) = _
        rw [ih]
        simp only [List.forall_mem_cons, passes, true_and, List.foldl_cons]
      · rw [if_neg passes, if_neg fun all => passes (all x List.mem_cons_self)]
        rfl

/-- A loop that can take every step takes them all, with a relation between the items so far and the
    state. -/
theorem except_foldlM_history {f : σ → α → Except ε σ} {R : List α → σ → Prop} {xs : List α}
    (step : ∀ {done a s}, a ∈ xs → R done s → ∃ s', f s a = .ok s' ∧ R (done ++ [a]) s')
    {done : List α} {s : σ} (start : R done s) : ∃ s', xs.foldlM f s = .ok s' ∧ R (done ++ xs) s' := by
  induction xs generalizing done s with
  | nil => exact ⟨s, rfl, by simpa using start⟩
  | cons a rest ih =>
      obtain ⟨t, first, before⟩ := step List.mem_cons_self start
      obtain ⟨s', others, ends⟩ := ih (fun later => step (List.mem_cons_of_mem a later)) before
      refine ⟨s', ?_, by simpa using ends⟩
      rw [List.foldlM_cons, first]
      exact others

theorem forM_cons_ok {f : α → EStateM ε σ Unit} {a : α} {rest : List α} {u : Unit} {s s' : σ} :
    (a :: rest).forM f s = .ok u s' ↔ ∃ t, f a s = .ok () t ∧ rest.forM f t = .ok u s' := by
  change (f a >>= fun _ => rest.forM f) s = .ok u s' ↔ _
  rw [bind_ok]
  constructor
  · rintro ⟨⟨⟩, t, first, others⟩
    exact ⟨t, first, others⟩
  · rintro ⟨t, first, others⟩
    exact ⟨⟨⟩, t, first, others⟩

theorem forM_append_ok {f : α → EStateM ε σ Unit} {xs ys : List α} {u : Unit} {s s' : σ} :
    (xs ++ ys).forM f s = .ok u s' ↔ ∃ t, xs.forM f s = .ok () t ∧ ys.forM f t = .ok u s' := by
  induction xs generalizing s with
  | nil =>
      constructor
      · exact fun run => ⟨s, rfl, run⟩
      · rintro ⟨t, done, run⟩
        obtain ⟨-, rfl⟩ := pure_ok.mp done
        exact run
  | cons a xs ih =>
      rw [List.cons_append, forM_cons_ok]
      simp only [ih, forM_cons_ok]
      exact ⟨fun ⟨t, first, t', others, rest⟩ => ⟨t', ⟨t, first, others⟩, rest⟩,
        fun ⟨t', ⟨t, first, others⟩, rest⟩ => ⟨t, first, t', others, rest⟩⟩

theorem forM_flatMap (xs : List α) (inner : α → List β) (f : β → EStateM ε σ Unit) :
    (xs.flatMap inner).forM f = xs.forM fun a => (inner a).forM f := by
  induction xs with
  | nil => rfl
  | cons a rest ih =>
      have joined : (inner a ++ rest.flatMap inner).forM f =
          ((inner a).forM f >>= fun _ => (rest.flatMap inner).forM f) := List.forM_append
      rw [List.flatMap_cons, joined, ih]
      rfl

/-- A relation between the work done and the state, kept by every round, holds behind a loop that
    comes to its end. -/
theorem forM_ok_history {f : α → EStateM ε σ Unit} {R : List α → σ → Prop}
    (step : ∀ {done a s s'}, R done s → f a s = .ok () s' → R (done ++ [a]) s')
    {done xs : List α} {u : Unit} {s s' : σ} (start : R done s) (run : xs.forM f s = .ok u s') :
    R (done ++ xs) s' := by
  induction xs generalizing done s with
  | nil =>
      obtain ⟨-, rfl⟩ := pure_ok.mp run
      simpa using start
  | cons a rest ih =>
      obtain ⟨t, first, others⟩ := forM_cons_ok.mp run
      simpa using ih (step start first) others

theorem forM_ok_invariant {f : α → EStateM ε σ Unit} {Inv : σ → Prop}
    (step : ∀ {a s s'}, Inv s → f a s = .ok () s' → Inv s') {xs : List α} {u : Unit} {s s' : σ}
    (start : Inv s) (run : xs.forM f s = .ok u s') : Inv s' :=
  @forM_ok_history ε σ α f (fun _ => Inv) step [] xs u s s' start run

/-- The state at the end of a run that does not stop. -/
def finalState : EStateM.Result ε σ α → Option σ
  | .ok _ s => some s
  | .error _ _ => none

theorem ok_of_finalState {result : EStateM.Result ε σ Unit} {s : σ}
    (ends : finalState result = some s) : result = .ok () s := by
  cases result with
  | ok u s' => exact congrArg (EStateM.Result.ok ()) (Option.some.inj ends)
  | error e s' => simp [finalState] at ends

/-- What is seen of a run that ends, with the state that it is seen of. -/
theorem exists_ok_of_view {result : EStateM.Result ε σ Unit} {view : σ → β} {seen : β}
    (ends : (finalState result).map view = some seen) : ∃ s, result = .ok () s ∧ view s = seen := by
  obtain ⟨s, ends, same⟩ := Option.map_eq_some_iff.mp ends
  exact ⟨s, ok_of_finalState ends, same⟩

theorem exists_ok_of_isSome {result : EStateM.Result ε σ Unit}
    (ends : (finalState result).isSome = true) : ∃ s, result = .ok () s := by
  obtain ⟨s, ends⟩ := Option.isSome_iff_exists.mp ends
  exact ⟨s, ok_of_finalState ends⟩

/-- At most `n` rounds of `while more: body`. -/
def whileFor (more : σ → Bool) (body : EStateM ε σ Unit) : Nat → EStateM ε σ Unit
  | 0 => pure ()
  | n + 1 => do
      if more (← get) then do
        body
        whileFor more body n
      else pure ()

section WhileFor

variable {more : σ → Bool} {body : EStateM ε σ Unit}

theorem whileFor_succ_of_more {n : Nat} {s t : σ} (continues : more s = true)
    (round : body s = .ok () t) :
    whileFor more body (n + 1) s = whileFor more body n t := by
  have unfolded : whileFor more body (n + 1) s =
      (if more s then (body >>= fun _ => whileFor more body n) else pure ()) s := rfl
  rw [unfolded, if_pos continues, bind_of_ok round]

theorem whileFor_succ_of_error {n : Nat} {s t : σ} {e : ε} (continues : more s = true)
    (stops : body s = .error e t) : whileFor more body (n + 1) s = .error e t := by
  have unfolded : whileFor more body (n + 1) s =
      (if more s then (body >>= fun _ => whileFor more body n) else pure ()) s := rfl
  rw [unfolded, if_pos continues, bind_of_error stops]

theorem whileFor_of_done {n : Nat} {s : σ} (done : more s = false) :
    whileFor more body n s = .ok () s := by
  cases n with
  | zero => rfl
  | succ n =>
      have unfolded : whileFor more body (n + 1) s =
          (if more s then (body >>= fun _ => whileFor more body n) else pure ()) s := rfl
      rw [unfolded, done]
      rfl

theorem whileFor_invariant {Inv : σ → Prop}
    (round : ∀ s, Inv s → more s = true → ∃ t, body s = .ok () t ∧ Inv t) (n : Nat) {s : σ}
    (start : Inv s) : ∃ t, whileFor more body n s = .ok () t ∧ Inv t := by
  induction n generalizing s with
  | zero => exact ⟨s, rfl, start⟩
  | succ n ih =>
      cases continues : more s with
      | false => exact ⟨s, whileFor_of_done continues, start⟩
      | true =>
          obtain ⟨t, ends, kept⟩ := round s start continues
          rw [whileFor_succ_of_more continues ends]
          exact ih kept

/-- A loop with a quantity that falls in every round comes to its end within that many rounds. -/
theorem whileFor_ends {Inv : σ → Prop} (left : σ → Nat)
    (round : ∀ s, Inv s → more s = true → ∃ t, body s = .ok () t ∧ Inv t ∧ left t < left s)
    {n : Nat} {s : σ} (start : Inv s) (enough : left s ≤ n) :
    ∃ t, whileFor more body n s = .ok () t ∧ Inv t ∧ more t = false := by
  induction n generalizing s with
  | zero =>
      cases continues : more s with
      | false => exact ⟨s, rfl, start, continues⟩
      | true =>
          obtain ⟨t, -, -, less⟩ := round s start continues
          omega
  | succ n ih =>
      cases continues : more s with
      | false => exact ⟨s, whileFor_of_done continues, start, continues⟩
      | true =>
          obtain ⟨t, ends, kept, less⟩ := round s start continues
          rw [whileFor_succ_of_more continues ends]
          exact ih kept (by omega)

theorem whileFor_modify_ends {step : σ → σ} {Inv : σ → Prop} (left : σ → Nat)
    (round : ∀ s, Inv s → more s = true → Inv (step s) ∧ left (step s) < left s) {n : Nat} {s : σ}
    (start : Inv s) (enough : left s ≤ n) :
    ∃ t, whileFor (ε := ε) more (modify step) n s = .ok () t ∧ Inv t ∧ more t = false :=
  whileFor_ends left (fun s kept continues => ⟨step s, rfl, round s kept continues⟩) start enough

end WhileFor

/-- A loop with a result for every item and a variable that it carries along; it ends at the first
    error, with the results so far. -/
def scanUntil (step : σ → α → Except ε (β × σ)) : σ → List α → List β × Option ε
  | _, [] => ([], none)
  | s, item :: items =>
      match step s item with
      | .error e => ([], some e)
      | .ok (result, s') =>
          let later := scanUntil step s' items
          (result :: later.1, later.2)

section ScanUntil

variable {step : σ → α → Except ε (β × σ)} {s s' : σ} {item : α} {items : List α}

@[simp] theorem scanUntil_nil : scanUntil step s [] = ([], none) := rfl

theorem scanUntil_cons_of_ok {result : β} (runs : step s item = .ok (result, s')) :
    scanUntil step s (item :: items) =
      (result :: (scanUntil step s' items).1, (scanUntil step s' items).2) := by
  rw [scanUntil, runs]

theorem scanUntil_cons_of_error {e : ε} (stops : step s item = .error e) :
    scanUntil step s (item :: items) = ([], some e) := by
  rw [scanUntil, stops]

theorem scanUntil_getElem? {k : Nat} {result : β} (here : (scanUntil step s items).1[k]? = some result) :
    ∃ item, items[k]? = some item ∧ ∃ before after, step before item = .ok (result, after) := by
  induction items generalizing s k with
  | nil => cases here
  | cons item items ih =>
      cases runs : step s item with
      | error e =>
          rw [scanUntil_cons_of_error runs] at here
          cases here
      | ok pair =>
          rw [scanUntil_cons_of_ok runs] at here
          cases k with
          | zero =>
              cases here
              exact ⟨item, rfl, s, pair.2, runs⟩
          | succ k => exact ih here

end ScanUntil

/-- From a state in `P`, the program ends in `Q` or stops in `E`. -/
def Triple (P : σ → Prop) (prog : EStateM ε σ α) (Q : α → σ → Prop) (E : σ → Prop) : Prop :=
  ∀ s, P s →
    match prog s with
    | .ok a s' => Q a s'
    | .error _ s' => E s'

/-- The state that a program leaves behind, whichever way it ends. -/
def stateAfter (prog : EStateM ε σ α) (s : σ) : σ :=
  match prog s with
  | .ok _ s' => s'
  | .error _ s' => s'

theorem stateAfter_bind {first : EStateM ε σ α} {next : α → EStateM ε σ β} {a : α} {s t : σ}
    (ends : first s = .ok a t) : stateAfter (first >>= next) s = stateAfter (next a) t := by
  rw [stateAfter, bind_of_ok ends, stateAfter]

theorem Triple.stateAfter {P R : σ → Prop} {prog : EStateM ε σ α}
    (triple : Triple P prog (fun _ => R) R) {s : σ} (start : P s) : R (stateAfter prog s) := by
  have ends := triple s start
  rw [KvmWorkload.stateAfter]
  cases run : prog s with
  | ok a s' => rwa [run] at ends
  | error e s' => rwa [run] at ends

/-- A program that cannot stop early returns. -/
theorem Triple.returns {P : σ → Prop} {Q : α → σ → Prop} {prog : EStateM ε σ α}
    (triple : Triple P prog Q fun _ => False) {s : σ} (start : P s) :
    ∃ a s', prog s = .ok a s' ∧ Q a s' := by
  have ends := triple s start
  cases run : prog s with
  | ok a s' =>
      rw [run] at ends
      exact ⟨a, s', rfl, ends⟩
  | error e s' =>
      rw [run] at ends
      exact ends.elim

theorem Triple.pure {P : σ → Prop} {E : σ → Prop} (a : α) :
    Triple (ε := ε) P (Pure.pure a) (fun _ => P) E := fun _ start => start

theorem Triple.throw {P : σ → Prop} {Q : α → σ → Prop} (e : ε) :
    Triple P (MonadExcept.throw e : EStateM ε σ α) Q P := fun _ start => start

theorem Triple.bind {P : σ → Prop} {R : α → σ → Prop} {Q : β → σ → Prop} {E : σ → Prop}
    {first : EStateM ε σ α} {next : α → EStateM ε σ β} (left : Triple P first R E)
    (right : ∀ a, Triple (R a) (next a) Q E) : Triple P (first >>= next) Q E := by
  intro s start
  have middle := left s start
  change match EStateM.bind first next s with | .ok a s' => Q a s' | .error _ s' => E s'
  rw [EStateM.bind]
  cases run : first s with
  | ok a s' =>
      rw [run] at middle
      exact right a s' middle
  | error e s' =>
      rw [run] at middle
      exact middle

theorem Triple.consequence {P P' : σ → Prop} {Q Q' : α → σ → Prop} {E E' : σ → Prop}
    {prog : EStateM ε σ α} (triple : Triple P' prog Q' E') (pre : ∀ s, P s → P' s)
    (post : ∀ a s, Q' a s → Q a s) (stop : ∀ s, E' s → E s) : Triple P prog Q E := by
  intro s start
  have ends := triple s (pre s start)
  cases run : prog s with
  | ok a s' => rw [run] at ends; exact post a s' ends
  | error e s' => rw [run] at ends; exact stop s' ends

theorem Triple.forM {Inv E : σ → Prop} {f : α → EStateM ε σ Unit}
    (step : ∀ a, Triple Inv (f a) (fun _ => Inv) E) (xs : List α) :
    Triple Inv (xs.forM f) (fun _ => Inv) E := by
  induction xs with
  | nil => exact Triple.pure _
  | cons a xs ih => exact (step a).bind fun _ => ih

theorem foldl_stateAfter {Inv : σ → Prop} {progs : List (EStateM ε σ Unit)}
    (keeps : ∀ prog ∈ progs, Triple Inv prog (fun _ => Inv) Inv) {s : σ} (start : Inv s) :
    Inv (progs.foldl (fun s prog => stateAfter prog s) s) := by
  induction progs generalizing s with
  | nil => exact start
  | cons prog rest ih =>
      refine ih (fun prog member => keeps prog (List.mem_cons_of_mem _ member)) ?_
      exact (keeps prog List.mem_cons_self).stateAfter start

/-- The view at the end is that at the start, whichever way the program ends. -/
def Keeps {γ : Type} (view : σ → γ) (prog : EStateM ε σ α) : Prop :=
  ∀ s, view (stateAfter prog s) = view s

namespace Keeps

variable {γ : Type} {view : σ → γ}

theorem pure (a : α) : Keeps view (Pure.pure a : EStateM ε σ α) := fun _ => rfl

theorem throw (e : ε) : Keeps view (MonadExcept.throw e : EStateM ε σ α) := fun _ => rfl

theorem get : Keeps view (MonadState.get : EStateM ε σ σ) := fun _ => rfl

theorem modify {f : σ → σ} (step : ∀ s, view (f s) = view s) :
    Keeps view (modify f : EStateM ε σ PUnit) := step

theorem bind {first : EStateM ε σ α} {next : α → EStateM ε σ β} (left : Keeps view first)
    (right : ∀ a, Keeps view (next a)) : Keeps view (first >>= next) := by
  intro s
  have start := left s
  cases run : first s with
  | ok a t =>
      rw [stateAfter, run] at start
      rw [stateAfter_bind run, right a t, start]
  | error e t =>
      rw [stateAfter, run] at start
      rw [stateAfter, bind_of_error run, start]

theorem map {f : α → β} {prog : EStateM ε σ α} (keeps : Keeps view prog) : Keeps view (f <$> prog) := by
  intro s
  have start := keeps s
  change view (stateAfter (EStateM.map f prog) s) = view s
  simp only [stateAfter, EStateM.map] at start ⊢
  cases run : prog s with
  | ok a t => simpa only [run] using start
  | error e t => simpa only [run] using start

theorem error {prog : EStateM ε σ α} (keeps : Keeps view prog) {e : ε} {s t : σ}
    (run : prog s = .error e t) : view t = view s := by
  have same := keeps s
  rwa [stateAfter, run] at same

end Keeps

/-- The quantity at the end is at least that at the start, whichever way the program ends. -/
def Grows (view : σ → Nat) (prog : EStateM ε σ α) : Prop := ∀ s, view s ≤ view (stateAfter prog s)

namespace Grows

variable {view : σ → Nat}

theorem pure (a : α) : Grows view (Pure.pure a : EStateM ε σ α) := fun _ => Nat.le_refl _

theorem after_bind {first : EStateM ε σ α} {next : α → EStateM ε σ β}
    (right : ∀ a, Grows view (next a)) (s : σ) :
    view (stateAfter first s) ≤ view (stateAfter (first >>= next) s) := by
  cases run : first s with
  | ok a t =>
      rw [stateAfter_bind run, stateAfter, run]
      exact right a t
  | error e t => simp only [stateAfter, run, bind_of_error run, Nat.le_refl]

theorem bind {first : EStateM ε σ α} {next : α → EStateM ε σ β} (left : Grows view first)
    (right : ∀ a, Grows view (next a)) : Grows view (first >>= next) :=
  fun s => Nat.le_trans (left s) (after_bind right s)

theorem forM {f : α → EStateM ε σ Unit} (step : ∀ a, Grows view (f a)) (xs : List α) :
    Grows view (xs.forM f) := by
  induction xs with
  | nil => exact pure _
  | cons a xs ih => exact bind (step a) fun _ => ih

end Grows

/-- The result, with the state changed by `f`. -/
def mapState (f : σ → σ) : EStateM.Result ε σ α → EStateM.Result ε σ α
  | .ok a s => .ok a (f s)
  | .error e s => .error e (f s)

/-- It makes no difference whether the state is changed before the program or behind it. -/
def Commutes (f : σ → σ) (prog : EStateM ε σ α) : Prop := ∀ s, prog (f s) = mapState f (prog s)

namespace Commutes

variable {f : σ → σ}

theorem pure (a : α) : Commutes f (Pure.pure a : EStateM ε σ α) := fun _ => rfl

theorem throw (e : ε) : Commutes f (MonadExcept.throw e : EStateM ε σ α) := fun _ => rfl

/-- A read of something that the change leaves alone. -/
theorem gets {view : σ → α} (same : ∀ s, view (f s) = view s) :
    Commutes f (fun s => .ok (view s) s : EStateM ε σ α) := by
  intro s
  change EStateM.Result.ok (view (f s)) (f s) = .ok (view s) (f s)
  rw [same]

theorem modify {g : σ → σ} (swap : ∀ s, g (f s) = f (g s)) : Commutes f (modify g : EStateM ε σ PUnit) :=
  fun s => congrArg (EStateM.Result.ok PUnit.unit) (swap s)

theorem bind {first : EStateM ε σ α} {next : α → EStateM ε σ β} (left : Commutes f first)
    (right : ∀ a, Commutes f (next a)) : Commutes f (first >>= next) := by
  intro s
  have start := left s
  cases run : first s with
  | ok a t =>
      rw [run] at start
      rw [bind_of_ok start, bind_of_ok run, right a t]
  | error e t =>
      rw [run] at start
      rw [bind_of_error start, bind_of_error run]
      rfl

theorem forM {body : α → EStateM ε σ Unit} (step : ∀ a, Commutes f (body a)) (xs : List α) :
    Commutes f (xs.forM body) := by
  induction xs with
  | nil => exact pure _
  | cons a xs ih => exact bind (step a) fun _ => ih

end Commutes

end KvmWorkload
