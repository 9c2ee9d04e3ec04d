import Mathlib.Data.List.Nodup
import Mathlib.Data.List.SplitLengths

/-! # Segments of a list

A list that is handed out piece by piece from its front.  The pieces of a list
without repetitions are disjoint; the pieces of a list of pairs are lists of
whole pairs when their lengths are even.  Slices of equal width are pieces of
the numbers behind a start.
-/

namespace KvmWorkload

variable {α : Type}

theorem sublist_of_mem_splitLengths {sizes : List Nat} {l piece : List α}
    (member : piece ∈ sizes.splitLengths l) : piece.Sublist l := by
  induction sizes generalizing l with
  | nil => simp at member
  | cons n sizes ih =>
      rw [List.splitLengths_cons] at member
      rcases List.mem_cons.mp member with rfl | later
      · exact List.take_sublist ..
      · exact (ih later).trans (List.drop_sublist ..)

theorem splitLengths_pairwise_disjoint {l : List α} (nodup : l.Nodup) (sizes : List Nat) :
    (sizes.splitLengths l).Pairwise List.Disjoint := by
  induction sizes generalizing l with
  | nil => exact .nil
  | cons n sizes ih =>
      rw [List.splitLengths_cons]
      refine .cons (fun piece later x here there => ?_) (ih (nodup.sublist (List.drop_sublist ..)))
      have behind := (sublist_of_mem_splitLengths later).subset there
      exact List.disjoint_take_drop nodup le_rfl here behind

/-- The members of pairs, one pair after the other. -/
def unpair (pairs : List (α × α)) : List α := pairs.flatMap fun pair => [pair.1, pair.2]

theorem take_unpair (pairs : List (α × α)) (k : Nat) :
    (unpair pairs).take (2 * k) = unpair (pairs.take k) := by
  induction pairs generalizing k with
  | nil => simp [unpair]
  | cons pair pairs ih =>
      cases k with
      | zero => simp [unpair]
      | succ k =>
          have later := ih k
          simp only [unpair] at later
          simp [unpair, Nat.mul_succ, later]

theorem drop_unpair (pairs : List (α × α)) (k : Nat) :
    (unpair pairs).drop (2 * k) = unpair (pairs.drop k) := by
  induction pairs generalizing k with
  | nil => simp [unpair]
  | cons pair pairs ih =>
      cases k with
      | zero => simp [unpair]
      | succ k =>
          have later := ih k
          simp only [unpair] at later
          simp [unpair, Nat.mul_succ, later]

theorem splitLengths_unpair (pairs : List (α × α)) (halves : List Nat) :
    (halves.map (2 * ·)).splitLengths (unpair pairs) = (halves.splitLengths pairs).map unpair := by
  induction halves generalizing pairs with
  | nil => rfl
  | cons k halves ih =>
      rw [List.map_cons, List.splitLengths_cons, List.splitLengths_cons, take_unpair, drop_unpair, ih]
      rfl

theorem mem_unpair {pairs : List (α × α)} {x : α} :
    x ∈ unpair pairs ↔ ∃ pair ∈ pairs, x = pair.1 ∨ x = pair.2 := by
  simp [unpair]

theorem fst_mem_unpair_iff {pairs group : List (α × α)}
    (distinct : (pairs.map Prod.fst ++ pairs.map Prod.snd).Nodup) (inside : group ⊆ pairs)
    {pair : α × α} (member : pair ∈ pairs) : pair.1 ∈ unpair group ↔ pair.2 ∈ unpair group := by
  obtain ⟨firsts, seconds, apart⟩ := List.nodup_append.mp distinct
  have other : ∀ p ∈ pairs, ∀ q ∈ pairs, p.1 ≠ q.2 := fun p left q right =>
    apart p.1 (List.mem_map_of_mem left) q.2 (List.mem_map_of_mem right)
  constructor
  · intro first
    obtain ⟨p, found, same | same⟩ := mem_unpair.mp first
    · rw [List.inj_on_of_nodup_map firsts member (inside found) same]
      exact mem_unpair.mpr ⟨p, found, .inr rfl⟩
    · exact absurd same (other pair member p (inside found))
  · intro second
    obtain ⟨p, found, same | same⟩ := mem_unpair.mp second
    · exact absurd same.symm (other p (inside found) pair member)
    · rw [List.inj_on_of_nodup_map seconds member (inside found) same]
      exact mem_unpair.mpr ⟨p, found, .inl rfl⟩

/-- The `k`-th slice behind `start`. -/
def slice (start width k : Nat) : List Nat := List.range' (start + k * width) width

@[simp] theorem length_slice (start width k : Nat) : (slice start width k).length = width :=
  List.length_range'

theorem mem_slice_iff {start width k x : Nat} (positive : 0 < width) :
    x ∈ slice start width k ↔ start ≤ x ∧ (x - start) / width = k := by
  unfold slice
  rw [List.mem_range'_1]
  constructor
  · intro inside
    refine ⟨by omega, Nat.div_eq_of_lt_le (by omega) ?_⟩
    rw [Nat.succ_mul]
    omega
  · rintro ⟨behind, rfl⟩
    have whole := Nat.div_add_mod' (x - start) width
    have part := Nat.mod_lt (x - start) positive
    omega

theorem slice_disjoint {start width k k' : Nat} (positive : 0 < width) (differ : k ≠ k') :
    (slice start width k).Disjoint (slice start width k') := by
  intro x left right
  rw [mem_slice_iff positive] at left right
  exact differ (left.2.symm.trans right.2)

theorem slice_inside {start width n k x : Nat} (below : k < n) (member : x ∈ slice start width k) :
    start ≤ x ∧ x < start + n * width := by
  unfold slice at member
  rw [List.mem_range'_1] at member
  have room : (k + 1) * width ≤ n * width := Nat.mul_le_mul_right width below
  rw [Nat.succ_mul] at room
  omega

/-- The first `n` slices. -/
def slices (start width n : Nat) : List (List Nat) := (List.range n).map (slice start width)

@[simp] theorem length_slices (start width n : Nat) : (slices start width n).length = n := by
  simp [slices]

theorem slices_pairwise (start n : Nat) {width : Nat} (positive : 0 < width) :
    (slices start width n).Pairwise List.Disjoint :=
  List.pairwise_map.mpr (List.nodup_range.imp fun differ => slice_disjoint positive differ)

theorem slices_inside {start width n : Nat} {piece : List Nat} (member : piece ∈ slices start width n)
    {x : Nat} (inside : x ∈ piece) : start ≤ x ∧ x < start + n * width := by
  obtain ⟨k, below, rfl⟩ := List.mem_map.mp member
  exact slice_inside (List.mem_range.mp below) inside

theorem slices_width {start width n : Nat} {piece : List Nat} (member : piece ∈ slices start width n) :
    piece.Nodup ∧ piece.length = width := by
  obtain ⟨k, -, rfl⟩ := List.mem_map.mp member
  exact ⟨List.nodup_range', length_slice ..⟩

section Blocks

variable {blocks : List (List α)} {width : Nat}

theorem length_flatten_blocks (uniform : ∀ block ∈ blocks, block.length = width) :
    blocks.flatten.length = blocks.length * width := by
  rw [List.length_flatten, List.map_congr_left uniform, List.map_const', List.sum_replicate_nat]

theorem getElem?_flatten_blocks (uniform : ∀ block ∈ blocks, block.length = width) {k : Nat} (inside : k < width)
    (e : Nat) : blocks.flatten[e * width + k]? = blocks[e]?.bind (·[k]?) := by
  induction blocks generalizing e with
  | nil => simp
  | cons block blocks ih =>
      have size : block.length = width := uniform block List.mem_cons_self
      rw [List.flatten_cons]
      cases e with
      | zero => rw [Nat.zero_mul, Nat.zero_add, List.getElem?_append_left (size ▸ inside)]; rfl
      | succ e =>
          rw [Nat.succ_mul, List.getElem?_append_right (by omega), size,
            show e * width + width + k - width = e * width + k by omega,
            ih fun block member => uniform block (List.mem_cons_of_mem _ member)]
          rfl

theorem flatMap_range'_getElem? {β : Type} (f : α → Option β) (items : List α) (start count : Nat) :
    ((List.range' start count).flatMap fun e => (items[e]?.bind f).toList) =
      ((items.drop start).take count).filterMap f := by
  induction count generalizing start with
  | zero => simp
  | succ count ih =>
      rw [List.range'_succ, List.flatMap_cons, ih]
      by_cases inside : start < items.length
      · rw [List.drop_eq_getElem_cons inside, List.take_succ_cons, List.getElem?_eq_getElem inside, Option.bind_some]
        cases found : f items[start] with
        | none => rw [List.filterMap_cons_none found]; rfl
        | some value => rw [List.filterMap_cons_some found]; rfl
      · rw [List.drop_eq_nil_of_le (by omega), List.drop_eq_nil_of_le (by omega),
          List.getElem?_eq_none (by omega)]
        simp

end Blocks

end KvmWorkload
