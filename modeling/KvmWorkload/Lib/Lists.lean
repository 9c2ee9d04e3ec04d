import Mathlib.Algebra.BigOperators.Group.List.Basic
import Mathlib.Algebra.GroupWithZero.Nat
import Mathlib.Algebra.Order.BigOperators.Group.List
import Mathlib.Algebra.Order.Group.Nat
import Mathlib.Algebra.Order.Ring.Rat
import Mathlib.Data.List.Induction
import Mathlib.Data.List.Nodup
import Mathlib.Data.List.Pairwise
import Mathlib.Data.List.Forall2
import Mathlib.Logic.Function.Basic

/-! # Lists as histories and as bags

A total over items is right for every weighting exactly when it is taken over
the same items with the same multiplicities.
-/

namespace KvmWorkload

variable {α β : Type}

/-- Where an item of `xs ++ [x]` stands: at the end or inside `xs`. -/
theorem snoc_eq_append_cons {xs before after : List α} {x y : α}
    (shape : xs ++ [x] = before ++ y :: after) :
    (xs = before ∧ x = y) ∨ ∃ after', xs = before ++ y :: after' := by
  rcases List.eq_nil_or_concat after with rfl | ⟨after', last, rfl⟩
  · have same := List.append_inj' shape rfl
    exact .inl ⟨same.1, (List.cons.inj same.2).1⟩
  · rw [List.concat_eq_append, ← List.cons_append, ← List.append_assoc] at shape
    exact .inr ⟨after', (List.append_inj' shape rfl).1⟩

theorem sum_indicator [DecidableEq α] (a : α) (xs : List α) :
    (xs.map fun x => if x = a then (1 : ℚ) else 0).sum = xs.count a := by
  induction xs with
  | nil => simp
  | cons x xs ih =>
      rw [List.map_cons, List.sum_cons, ih, List.count_cons]
      by_cases same : x = a
      · simp [same, add_comm]
      · simp [same]

theorem perm_iff_sum_eq [DecidableEq α] {xs ys : List α} :
    xs.Perm ys ↔ ∀ weight : α → ℚ, (xs.map weight).sum = (ys.map weight).sum := by
  constructor
  · exact fun perm weight => (perm.map weight).sum_eq
  · intro sums
    refine List.perm_iff_count.mpr fun a => ?_
    have counts := sums fun x => if x = a then 1 else 0
    rw [sum_indicator, sum_indicator] at counts
    exact_mod_cast counts

/-- The value that the last entry for a key has in a list of settings. -/
def lastEntry [DecidableEq α] (settings : List (α × β)) (key : α) : Option β :=
  match settings with
  | [] => none
  | (k, value) :: rest => (lastEntry rest key).or (if k = key then some value else none)

/-- Settings made one after the other. -/
def applySettings [DecidableEq α] (settings : List (α × β)) (table : α → β) : α → β :=
  settings.foldl (fun table entry => Function.update table entry.1 entry.2) table

/-- The last setting for a key stays. -/
theorem applySettings_apply [DecidableEq α] (settings : List (α × β)) (table : α → β) (key : α) :
    applySettings settings table key = (lastEntry settings key).getD (table key) := by
  induction settings generalizing table with
  | nil => rfl
  | cons entry rest ih =>
      rw [applySettings, List.foldl_cons, ← applySettings, ih, lastEntry]
      cases lastEntry rest key with
      | some value => rfl
      | none =>
          by_cases same : entry.1 = key
          · simp [← same]
          · simp [same, Function.update_of_ne (Ne.symm same)]

theorem lastEntry_of_not_mem [DecidableEq α] {settings : List (α × β)} {key : α} (absent : key ∉ settings.map Prod.fst) :
    lastEntry settings key = none := by
  induction settings with
  | nil => rfl
  | cons entry rest ih =>
      rw [List.map_cons, List.mem_cons, not_or] at absent
      rw [lastEntry, ih absent.2, if_neg (Ne.symm absent.1)]
      rfl

theorem exists_lastEntry [DecidableEq α] {settings : List (α × β)} {key : α} (member : key ∈ settings.map Prod.fst) :
    ∃ value, (key, value) ∈ settings ∧ lastEntry settings key = some value := by
  induction settings with
  | nil => exact absurd member List.not_mem_nil
  | cons entry rest ih =>
      by_cases later : key ∈ rest.map Prod.fst
      · obtain ⟨value, inside, held⟩ := ih later
        refine ⟨value, List.mem_cons_of_mem entry inside, ?_⟩
        rw [lastEntry, held, Option.some_or]
      · have here : key = entry.1 := (List.mem_cons.mp member).resolve_right later
        refine ⟨entry.2, ?_, ?_⟩
        · rw [here]
          exact List.mem_cons_self
        · rw [lastEntry, lastEntry_of_not_mem later, if_pos here.symm, Option.none_or]

theorem lastEntry_of_mem [DecidableEq α] {settings : List (α × β)} (distinct : (settings.map Prod.fst).Nodup) {key : α}
    {value : β} (member : (key, value) ∈ settings) : lastEntry settings key = some value := by
  induction settings with
  | nil => exact absurd member List.not_mem_nil
  | cons entry rest ih =>
      rw [List.map_cons, List.nodup_cons] at distinct
      rw [lastEntry]
      rcases List.mem_cons.mp member with here | later
      · rw [← here] at distinct ⊢
        rw [lastEntry_of_not_mem distinct.1, if_pos rfl]
        rfl
      · rw [ih distinct.2 later]
        rfl

/-- A search loop that holds the first item until it meets one that it accepts. -/
def keepLast (accept : α → Bool) (best : Option α) (item : α) : Option α :=
  if best.isNone || accept item then some item else best

theorem foldl_keepLast {accept : α → Bool} {first : α} (acceptable : accept first = true) (rest : List α) :
    ∃ before best after, first :: rest = before ++ best :: after ∧
      (first :: rest).foldl (keepLast accept) none = some best ∧ accept best = true ∧
        ∀ item ∈ after, accept item = false := by
  induction rest using List.reverseRecOn with
  | nil => exact ⟨[], first, [], rfl, rfl, acceptable, by simp⟩
  | append_singleton rest last ih =>
      obtain ⟨before, best, after, shape, held, good, others⟩ := ih
      rw [← List.cons_append, List.foldl_append, held, List.foldl_cons, List.foldl_nil]
      cases accepts : accept last with
      | true =>
          refine ⟨first :: rest, last, [], rfl, ?_, accepts, by simp⟩
          simp [keepLast, accepts]
      | false =>
          refine ⟨before, best, after ++ [last], ?_, ?_, good, ?_⟩
          · rw [shape, List.append_assoc, List.cons_append]
          · simp [keepLast, accepts]
          · intro item member
            rcases List.mem_append.mp member with earlier | now
            · exact others item earlier
            · rwa [List.mem_singleton.mp now]

theorem mem_of_lt_of_sorted [Preorder α] {before after : List α} {item later : α}
    (sorted : (before ++ item :: after).Pairwise (· < ·)) (member : later ∈ before ++ item :: after)
    (larger : item < later) : later ∈ after := by
  rcases List.mem_append.mp member with earlier | behind
  · have smaller := (List.pairwise_append.mp sorted).2.2 later earlier item List.mem_cons_self
    exact absurd larger smaller.asymm
  · rcases List.mem_cons.mp behind with rfl | behind
    · exact absurd larger (lt_irrefl _)
    · exact behind

theorem foldl_keepLast_of_sorted {β : Type} [Preorder β] {f : β → α} {accept : α → Bool} {first : β} {rest : List β}
    (acceptable : accept (f first) = true) (sorted : (first :: rest).Pairwise (· < ·)) :
    ∃ best ∈ first :: rest, ((first :: rest).map f).foldl (keepLast accept) none = some (f best) ∧
      accept (f best) = true ∧ ∀ later ∈ first :: rest, best < later → accept (f later) = false := by
  obtain ⟨before, best, after, shape, held, good, others⟩ := foldl_keepLast acceptable (rest.map f)
  rw [← List.map_cons] at shape held
  obtain ⟨smaller, behind, cutHere, -, tail⟩ := List.map_eq_append_iff.mp shape
  obtain ⟨item, larger, rfl, rfl, rfl⟩ := List.map_eq_cons_iff.mp tail
  refine ⟨item, by simp [cutHere], held, good, fun later member above => ?_⟩
  rw [cutHere] at sorted member
  exact others _ (List.mem_map_of_mem (mem_of_lt_of_sorted sorted member above))

theorem exists_of_countP_lt_take {p : α → Bool} {xs ys : List α} {n : Nat}
    (more : xs.countP p < ((xs ++ ys).take n).countP p) : ∃ m, n = xs.length + m + 1 ∧ ys ≠ [] := by
  have within : ∀ {zs}, List.Sublist zs xs → ((xs ++ ys).take n) ≠ zs := by
    rintro zs inside rfl
    exact absurd (inside.countP_le (p := p)) (Nat.not_le.mpr more)
  have beyond : xs.length < n := by
    by_contra short
    refine within (List.take_sublist n xs) ?_
    rw [List.take_append_of_le_length (by omega)]
  refine ⟨n - xs.length - 1, by omega, ?_⟩
  rintro rfl
  refine within (List.take_sublist n xs) ?_
  rw [List.append_nil]

theorem forall₂_exists_right {R : α → β → Prop} {xs : List α} {ys : List β}
    (related : List.Forall₂ R xs ys) {x : α} (member : x ∈ xs) : ∃ y ∈ ys, R x y := by
  induction related with
  | nil => cases member
  | cons head _ ih =>
      rcases List.mem_cons.mp member with rfl | later
      · exact ⟨_, List.mem_cons_self, head⟩
      · obtain ⟨y, inside, holds⟩ := ih later
        exact ⟨y, List.mem_cons_of_mem _ inside, holds⟩

theorem forall₂_exists_left {R : α → β → Prop} {xs : List α} {ys : List β}
    (related : List.Forall₂ R xs ys) {y : β} (member : y ∈ ys) : ∃ x ∈ xs, R x y :=
  forall₂_exists_right related.flip member

theorem forall₂_getElem? {R : α → β → Prop} {xs : List α} {ys : List β}
    (related : List.Forall₂ R xs ys) {i : Nat} {x : α} (here : xs[i]? = some x) :
    ∃ y, ys[i]? = some y ∧ R x y := by
  induction related generalizing i with
  | nil => cases here
  | cons head _ ih =>
      cases i with
      | zero =>
          cases here
          exact ⟨_, rfl, head⟩
      | succ i => exact ih here

theorem forall₂_comp {γ : Type} {R : α → β → Prop} {S : β → γ → Prop} {xs : List α} {ys : List β} {zs : List γ}
    (first : List.Forall₂ R xs ys) (second : List.Forall₂ S ys zs) :
    List.Forall₂ (fun x z => ∃ y, R x y ∧ S y z) xs zs := by
  induction first generalizing zs with
  | nil =>
      cases second
      exact .nil
  | cons here _ ih =>
      cases second with
      | cons there later => exact .cons ⟨_, here, there⟩ (ih later)

/-- Two relations hold between the same pairs of a list when they agree wherever a third one, which
    holds between all of them, does. -/
theorem pairwise_iff_of_mem {R S T : α → α → Prop} {xs : List α} (between : xs.Pairwise T)
    (agree : ∀ a ∈ xs, ∀ b ∈ xs, T a b → (R a b ↔ S a b)) : xs.Pairwise R ↔ xs.Pairwise S := by
  constructor
  · intro related
    exact (related.and between).imp_of_mem fun aIn bIn both => (agree _ aIn _ bIn both.2).mp both.1
  · intro related
    exact (related.and between).imp_of_mem fun aIn bIn both => (agree _ aIn _ bIn both.2).mpr both.1

theorem forall₂_zip_concat {γ : Type} {R : α → β × γ → Prop} {as : List α} {bs : List β} {cs : List γ}
    {a : α} {b : β} {c : γ} (lengths : bs.length = cs.length) (before : List.Forall₂ R as (bs.zip cs))
    (last : R a (b, c)) : List.Forall₂ R (as ++ [a]) ((bs ++ [b]).zip (cs ++ [c])) := by
  rw [List.zip_append lengths]
  exact List.rel_append before (.cons last .nil)

theorem forall_mem_iff_of_forall₂ {P : α → Prop} {Q : β → Prop} {xs : List α} {ys : List β}
    (related : List.Forall₂ (fun x y => P x ↔ Q y) xs ys) :
    (∀ x ∈ xs, P x) ↔ ∀ y ∈ ys, Q y := by
  induction related with
  | nil => simp
  | cons head _ ih => rw [List.forall_mem_cons, List.forall_mem_cons, head, ih]

theorem flatMap_perm_of_forall₂ {f : α → List β} {γ : Type} {g : γ → List β} {xs : List α}
    {ys : List γ} (pieces : List.Forall₂ (fun x y => (g y).Perm (f x)) xs ys) :
    (ys.flatMap g).Perm (xs.flatMap f) := by
  induction pieces with
  | nil => exact List.Perm.refl _
  | cons head _ ih =>
      rw [List.flatMap_cons, List.flatMap_cons]
      exact head.append ih

theorem not_nodup_flatMap {f : α → List β} {xs : List α} {x y : α} {b : β} (left : x ∈ xs)
    (right : y ∈ xs) (differ : x ≠ y) (inLeft : b ∈ f x) (inRight : b ∈ f y) :
    ¬ (xs.flatMap f).Nodup := by
  intro nodup
  have disjoint := (List.nodup_flatMap.mp nodup).2
  have : Std.Symm (Function.onFun List.Disjoint f) := ⟨fun _ _ => List.disjoint_symm⟩
  exact disjoint.forall left right differ inLeft inRight

theorem sum_map_eq_iff {f g : α → Nat} {xs : List α} (below : ∀ x ∈ xs, f x ≤ g x) :
    (xs.map f).sum ≤ (xs.map g).sum ∧
      ((xs.map f).sum = (xs.map g).sum ↔ ∀ x ∈ xs, f x = g x) := by
  induction xs with
  | nil => simp
  | cons x xs ih =>
      obtain ⟨here, later⟩ := List.forall_mem_cons.mp below
      obtain ⟨le, eq⟩ := ih later
      rw [List.map_cons, List.map_cons, List.sum_cons, List.sum_cons, List.forall_mem_cons, ← eq]
      omega

theorem existsUnique_getElem?_iff [BEq α] [LawfulBEq α] {xs : List α} {x : α} :
    (∃! k : Nat, xs[k]? = some x) ↔ xs.count x = 1 := by
  induction xs with
  | nil => simp
  | cons y ys ih =>
      by_cases same : y = x
      · subst same
        rw [List.count_cons_self, Nat.add_eq_right, List.count_eq_zero]
        constructor
        · intro ⟨k, _, unique⟩ member
          obtain ⟨i, found⟩ := List.mem_iff_getElem?.mp member
          have later : i + 1 = k := unique (i + 1) found
          have first : 0 = k := unique 0 rfl
          omega
        · intro absent
          refine ⟨0, rfl, ?_⟩
          intro k found
          cases k with
          | zero => rfl
          | succ k =>
              have inside : ys[k]? = some y := found
              exact absurd (List.mem_of_getElem? inside) absent
      · rw [List.count_cons_of_ne same, ← ih]
        have shifted : ∀ k, (y :: ys)[k]? = some x ↔ ∃ i, k = i + 1 ∧ ys[i]? = some x := by
          intro k
          cases k with
          | zero => simp [same]
          | succ k => simp
        constructor
        · intro ⟨k, found, unique⟩
          obtain ⟨i, rfl, inside⟩ := (shifted k).mp found
          exact ⟨i, inside, fun j other => Nat.succ.inj (unique (j + 1) other)⟩
        · intro ⟨i, inside, unique⟩
          refine ⟨i + 1, inside, ?_⟩
          intro k found
          obtain ⟨j, rfl, other⟩ := (shifted k).mp found
          rw [unique j other]

/-- Numbers that together stay below a bound each cover the places below it exactly once only when
    one of them covers all. -/
theorem countP_lt_eq_one_iff {f : α → Nat} {xs : List α} {bound : Nat}
    (below : (xs.map f).sum ≤ bound) :
    (∀ j < bound, xs.countP (fun x => j < f x) = 1) ↔ bound = 0 ∨ ∃ x ∈ xs, f x = bound := by
  constructor
  · intro once
    cases bound with
    | zero => exact .inl rfl
    | succ n =>
        have positive : 0 < xs.countP (fun x => n < f x) := by rw [once n n.lt_succ_self]; decide
        obtain ⟨x, member, large⟩ := List.countP_pos_iff.mp positive
        have small : f x ≤ (xs.map f).sum := List.le_sum_of_mem (List.mem_map_of_mem member)
        have large : n < f x := of_decide_eq_true large
        exact .inr ⟨x, member, by omega⟩
  · intro sole j inside
    obtain rfl | ⟨x, member, whole⟩ := sole
    · exact absurd inside (Nat.not_lt_zero j)
    · obtain ⟨front, back, rfl⟩ := List.append_of_mem member
      rw [List.map_append, List.map_cons, List.sum_append, List.sum_cons] at below
      have none : ∀ {ys : List α}, (ys.map f).sum = 0 → ys.countP (fun x => j < f x) = 0 := by
        intro ys empty
        apply List.countP_eq_zero.mpr
        intro y inYs
        have small : f y ≤ (ys.map f).sum := List.le_sum_of_mem (List.mem_map_of_mem inYs)
        simp only [decide_eq_true_eq]
        omega
      rw [List.countP_append, List.countP_cons, none (by omega), none (by omega)]
      simp [whole, inside]

end KvmWorkload
