import Mathlib.Data.List.Nodup

/-! # Dictionaries

A dictionary that keeps the order in which its keys were inserted.
-/

namespace KvmWorkload

structure Dict (κ ν : Type) where
  entries : List (κ × ν)
  distinct : (entries.map Prod.fst).Nodup

namespace Dict

variable {κ ν : Type} [DecidableEq κ]

def empty : Dict κ ν := ⟨[], List.nodup_nil⟩

def keys (dict : Dict κ ν) : List κ := dict.entries.map Prod.fst

def get? (dict : Dict κ ν) (key : κ) : Option ν := dict.entries.lookup key

/-- `key in dict`. -/
def has (dict : Dict κ ν) (key : κ) : Bool := (dict.get? key).isSome

/-- The value of a key changed in place. -/
def modify (dict : Dict κ ν) (key : κ) (change : ν → ν) : Dict κ ν where
  entries := dict.entries.map fun entry => (entry.1, if entry.1 = key then change entry.2 else entry.2)
  distinct := by
    rw [List.map_map]
    exact dict.distinct

/-- A new key at the end. -/
def push (dict : Dict κ ν) (key : κ) (value : ν) (fresh : key ∉ dict.keys) : Dict κ ν where
  entries := dict.entries ++ [(key, value)]
  distinct := by
    rw [List.map_append, List.map_singleton]
    exact List.nodup_append'.mpr
      ⟨dict.distinct, List.nodup_singleton key, List.disjoint_singleton.mpr fresh⟩

/-- `dict[key] = value`. -/
def set (dict : Dict κ ν) (key : κ) (value : ν) : Dict κ ν :=
  if fresh : key ∉ dict.keys then dict.push key value fresh else dict.modify key fun _ => value

/-- A key has the value that it stands with. -/
theorem mem_entries_iff {dict : Dict κ ν} {key : κ} {value : ν} :
    (key, value) ∈ dict.entries ↔ dict.get? key = some value := by
  unfold get?
  rw [List.lookup_eq_some_iff]
  constructor
  · intro member
    obtain ⟨before, after, split⟩ := List.append_of_mem member
    refine ⟨before, after, split, ?_⟩
    intro entry earlier
    have distinct := dict.distinct
    rw [split, List.map_append, List.map_cons, List.nodup_append'] at distinct
    have apart : entry.1 ≠ key := by
      intro same
      exact distinct.2.2 (List.mem_map_of_mem earlier) (same ▸ List.mem_cons_self)
    simpa using apart.symm
  · rintro ⟨before, after, split, -⟩
    rw [split]
    exact List.mem_append_right _ List.mem_cons_self

theorem mem_keys_iff {dict : Dict κ ν} {key : κ} : key ∈ dict.keys ↔ ∃ value, dict.get? key = some value := by
  unfold keys
  rw [List.mem_map]
  constructor
  · rintro ⟨⟨_, value⟩, member, rfl⟩
    exact ⟨value, mem_entries_iff.mp member⟩
  · rintro ⟨value, found⟩
    exact ⟨(key, value), mem_entries_iff.mpr found, rfl⟩

theorem keys_modify (dict : Dict κ ν) (key : κ) (change : ν → ν) :
    (dict.modify key change).keys = dict.keys := by
  simp [keys, modify]

theorem get?_modify (dict : Dict κ ν) (key other : κ) (change : ν → ν) :
    (dict.modify key change).get? other =
      if other = key then (dict.get? other).map change else dict.get? other := by
  unfold get? modify
  dsimp only
  induction dict.entries with
  | nil => simp
  | cons entry entries ih =>
      rw [List.map_cons, List.lookup_cons, List.lookup_cons, ih]
      by_cases here : other = entry.1
      · subst here
        simp only [beq_self_eq_true, Option.map_some]
        split_ifs <;> rfl
      · have miss : (other == entry.1) = false := by simpa using here
        simp only [miss]

theorem keys_set_of_fresh {dict : Dict κ ν} {key : κ} (fresh : key ∉ dict.keys) (value : ν) :
    (dict.set key value).keys = dict.keys ++ [key] := by
  rw [set, dif_pos fresh]
  simp [push, keys]

theorem get?_set_of_fresh {dict : Dict κ ν} {key : κ} (fresh : key ∉ dict.keys) (value : ν) (other : κ) :
    (dict.set key value).get? other = if other = key then some value else dict.get? other := by
  rw [set, dif_pos fresh]
  unfold get? push
  rw [List.lookup_append, List.lookup_cons, List.lookup_nil]
  by_cases same : other = key
  · have missing : dict.get? other = none := by
      by_contra found
      obtain ⟨value, found⟩ := Option.ne_none_iff_exists'.mp found
      exact fresh (mem_keys_iff.mpr ⟨value, same ▸ found⟩)
    unfold get? at missing
    rw [missing, if_pos same]
    simp [same]
  · have miss : (other == key) = false := by simpa using same
    simp [miss, same]

theorem get?_set (dict : Dict κ ν) (key other : κ) (value : ν) :
    (dict.set key value).get? other = if other = key then some value else dict.get? other := by
  by_cases fresh : key ∉ dict.keys
  · exact get?_set_of_fresh fresh value other
  · rw [set, dif_neg fresh, get?_modify]
    by_cases same : other = key
    · obtain ⟨old, found⟩ := mem_keys_iff.mp (not_not.mp fresh)
      rw [if_pos same, if_pos same, same, found, Option.map_some]
    · rw [if_neg same, if_neg same]

@[simp] theorem get?_empty (key : κ) : (empty : Dict κ ν).get? key = none := rfl

theorem foldl_set_of_fresh {names : List κ} (distinct : names.Nodup) {dict : Dict κ ν}
    (fresh : ∀ key ∈ names, key ∉ dict.keys) (value : ν) :
    (names.foldl (fun dict key => dict.set key value) dict).keys = dict.keys ++ names ∧
      ∀ other, (names.foldl (fun dict key => dict.set key value) dict).get? other =
        if other ∈ names then some value else dict.get? other := by
  induction names generalizing dict with
  | nil => exact ⟨(List.append_nil _).symm, fun other => (if_neg List.not_mem_nil).symm⟩
  | cons key names ih =>
      rw [List.nodup_cons] at distinct
      rw [List.forall_mem_cons] at fresh
      have keys := keys_set_of_fresh fresh.1 value
      have later : ∀ other ∈ names, other ∉ (dict.set key value).keys := by
        intro other member
        have apart : other ≠ key := ne_of_mem_of_not_mem member distinct.1
        rw [keys, List.mem_append, List.mem_singleton]
        exact not_or.mpr ⟨fresh.2 other member, apart⟩
      obtain ⟨all, found⟩ := ih distinct.2 later
      constructor
      · rw [List.foldl_cons, all, keys, List.append_assoc]
        rfl
      · intro other
        rw [List.foldl_cons, found, get?_set_of_fresh fresh.1]
        by_cases here : other = key
        · simp [here]
        · simp [here]

section Entries

variable {ι : Type} {key : ι → κ} {value : ι → ν}

theorem get?_foldl_set_of_not_mem {items : List ι} {other : κ} (absent : other ∉ items.map key) (dict : Dict κ ν) :
    (items.foldl (fun dict item => dict.set (key item) (value item)) dict).get? other = dict.get? other := by
  induction items generalizing dict with
  | nil => rfl
  | cons item items ih =>
      rw [List.map_cons, List.mem_cons, not_or] at absent
      rw [List.foldl_cons, ih absent.2, get?_set, if_neg absent.1]

/-- Entries with different keys are all there. -/
theorem get?_foldl_set_of_mem {items : List ι} (distinct : (items.map key).Nodup) {item : ι} (member : item ∈ items)
    (dict : Dict κ ν) :
    (items.foldl (fun dict item => dict.set (key item) (value item)) dict).get? (key item) = some (value item) := by
  induction items generalizing dict with
  | nil => cases member
  | cons first items ih =>
      rw [List.map_cons, List.nodup_cons] at distinct
      rw [List.foldl_cons]
      rcases List.mem_cons.mp member with rfl | later
      · rw [get?_foldl_set_of_not_mem distinct.1, get?_set, if_pos rfl]
      · exact ih distinct.2 later _

theorem entries_set_of_fresh {dict : Dict κ ν} {key : κ} (fresh : key ∉ dict.keys) (value : ν) :
    (dict.set key value).entries = dict.entries ++ [(key, value)] := by
  rw [set, dif_pos fresh]
  rfl

theorem entries_foldl_set {items : List ι} (distinct : (items.map key).Nodup) {dict : Dict κ ν}
    (fresh : ∀ item ∈ items, key item ∉ dict.keys) :
    (items.foldl (fun dict item => dict.set (key item) (value item)) dict).entries =
      dict.entries ++ items.map fun item => (key item, value item) := by
  induction items generalizing dict with
  | nil => exact (List.append_nil _).symm
  | cons item items ih =>
      rw [List.map_cons, List.nodup_cons] at distinct
      rw [List.forall_mem_cons] at fresh
      have later : ∀ other ∈ items, key other ∉ (dict.set (key item) (value item)).keys := by
        intro other member
        rw [keys_set_of_fresh fresh.1, List.mem_append, List.mem_singleton, not_or]
        exact ⟨fresh.2 other member, fun same => distinct.1 (same ▸ List.mem_map_of_mem member)⟩
      rw [List.foldl_cons, ih distinct.2 later, entries_set_of_fresh fresh.1, List.append_assoc]
      rfl

end Entries

section Groups

variable {α ι : Type}

/-- `dict[key].append(value)`, which starts a list for a new key. -/
def append (dict : Dict κ (List α)) (key : κ) (value : α) : Dict κ (List α) :=
  dict.set key ((dict.get? key).getD [] ++ [value])

/-- A group that nothing was appended to is not there. -/
def group : List α → Option (List α)
  | [] => none
  | value :: rest => some (value :: rest)

theorem get?_foldl_append {key : ι → κ} {value : ι → α} (items done : List ι) {dict : Dict κ (List α)}
    (before : ∀ k, dict.get? k = group ((done.filter fun item => key item = k).map value)) (k : κ) :
    (items.foldl (fun dict item => dict.append (key item) (value item)) dict).get? k =
      group (((done ++ items).filter fun item => key item = k).map value) := by
  induction items generalizing done dict with
  | nil => rw [List.append_nil]; exact before k
  | cons item items ih =>
      rw [List.append_cons]
      refine ih (done ++ [item]) fun k => ?_
      change (dict.append (key item) (value item)).get? k = _
      rw [append, get?_set, before, before, List.filter_append, List.map_append]
      by_cases same : k = key item
      · subst same
        have here : [item].filter (fun other => decide (key other = key item)) = [item] := by simp
        rw [if_pos rfl, here]
        cases (done.filter fun other => decide (key other = key item)).map value <;> rfl
      · have other : [item].filter (fun item => decide (key item = k)) = [] := by simp [Ne.symm same]
        rw [if_neg same, other, List.map_nil, List.append_nil]

theorem get?_foldl_append_empty (key : ι → κ) (value : ι → α) (items : List ι) (k : κ) :
    (items.foldl (fun dict item => dict.append (key item) (value item)) empty).get? k =
      group ((items.filter fun item => key item = k).map value) :=
  get?_foldl_append items [] (fun _ => rfl) k

@[simp] theorem getD_group (values : List α) : (group values).getD [] = values := by cases values <;> rfl

theorem isEmpty_foldl_append (key : ι → κ) (value : ι → α) (items : List ι) :
    (items.foldl (fun dict item => dict.append (key item) (value item)) empty).entries.isEmpty = items.isEmpty := by
  cases items with
  | nil => rfl
  | cons item items =>
      have found := get?_foldl_append_empty key value (item :: items) (key item)
      rw [List.filter_cons, if_pos (decide_eq_true rfl), List.map_cons, group] at found
      cases entries : ((item :: items).foldl (fun dict item => dict.append (key item) (value item)) empty).entries with
      | nil => rw [get?, entries] at found; cases found
      | cons first rest => rfl

end Groups

end Dict

end KvmWorkload
