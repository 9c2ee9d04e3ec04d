import KvmWorkload.Lib.Fields
import KvmWorkload.Reporter.CpuCores

/-! # Core sets as text

`CPUcores.__str__` compresses a mask into single cores, adjacent pairs and
ranges; `CPUcores.all_cores` lists every core.  Both texts are read back by
`from_desc`.  The printer closes a run one position after its last core, so
the loop has to go one position past the top bit.
-/

namespace KvmWorkload.Reporter

/-- `fmt(curr_core, step)` inside `CPUcores.__str__`: a run of `step` cores that
    ends at `currCore`. -/
def fmt (currCore step : Nat) : Text :=
  let step := step - 1
  if step = 0 then
    decimal currCore
  else if step = 1 then
    decimal (currCore - 1) ++ ',' :: decimal currCore
  else
    decimal (currCore - step) ++ '-' :: decimal currCore

/-- The variables of `CPUcores.__str__` that live across positions. -/
structure Printing where
  step : Nat
  desc : List Text

/-- One iteration of the loop of `CPUcores.__str__`. -/
def Printing.visit (self : Nat) (st : Printing) (coreId : Nat) : Printing :=
  if (1 <<< coreId) &&& self ≠ 0 then
    { st with step := st.step + 1 }
  else if st.step > 0 then
    { step := 0, desc := st.desc ++ [fmt (coreId - 1) st.step] }
  else
    st

/-- The printer after the positions below `coreId`. -/
def printedUpTo (self coreId : Nat) : Printing :=
  (List.range coreId).foldl (Printing.visit self) { step := 0, desc := [] }

/-- `CPUcores.__str__`: positions up to and including the bit length. -/
def str (self : Nat) : Text := [','].intercalate (printedUpTo self (self.size + 1)).desc

/-- `CPUcores.all_cores`. -/
def allCores (self : Nat) : Text := [','].intercalate ((iter self).map decimal)

/-- What the reader sees in the text of one run. -/
def runItems (currCore step : Nat) : List Item :=
  if step ≤ 1 then
    [.single (.ofNat currCore)]
  else if step = 2 then
    [.single (.ofNat (currCore - 1)), .single (.ofNat currCore)]
  else
    [.range (.ofNat (currCore - (step - 1))) (.ofNat currCore)]

theorem runItems_ne_nil (currCore step : Nat) : runItems currCore step ≠ [] := by
  unfold runItems
  split
  · simp
  · split <;> simp

theorem fmt_eq_descText (currCore step : Nat) : fmt currCore step = descText (runItems currCore step) := by
  unfold fmt runItems
  by_cases one : step ≤ 1
  · simp [one, descText, Item.text, Nat.sub_eq_zero_of_le one]
  · by_cases two : step = 2
    · simp [two, descText, Item.text]
    · have long : step - 1 ≠ 0 ∧ step - 1 ≠ 1 := by omega
      simp [one, two, long, descText, Item.text]

theorem descCores_runItems {stop step : Nat} (pos : 0 < step) (fits : step ≤ stop) :
    descCores (runItems (stop - 1) step) = Finset.Ico (stop - step) stop := by
  ext i
  unfold runItems
  split
  · simp [descCores, Item.cores]
    omega
  · split
    · simp [descCores, Item.cores]
      omega
    · simp [descCores, Item.cores]
      omega

theorem descCores_append (items more : List Item) :
    descCores (items ++ more) = descCores items ∪ descCores more := by
  induction items with
  | nil => simp [descCores]
  | cons item rest ih => simp only [List.cons_append, descCores, ih, Finset.union_assoc]

theorem descText_append {items more : List Item} (left : items ≠ []) (right : more ≠ []) :
    descText (items ++ more) = descText items ++ ',' :: descText more := by
  induction items with
  | nil => exact absurd rfl left
  | cons item rest ih =>
      cases rest with
      | nil =>
          cases more with
          | nil => exact absurd rfl right
          | cons next more => simp [descText]
      | cons next rest => simpa [descText] using ih (by simp)

/-- The invariant of the loop: the finished runs are `items`, the open run reaches up to the
    current position, and together they are the cores seen so far. -/
structure Printed (mask coreId : Nat) (st : Printing) (items : List Item) : Prop where
  fits : st.step ≤ coreId
  text : [','].intercalate st.desc = descText items
  empty : st.desc = [] ↔ items = []
  cores : ∀ i, i ∈ descCores items ∨ (coreId - st.step ≤ i ∧ i < coreId) ↔
    i < coreId ∧ mask.testBit i = true

theorem intercalate_fmt {desc : List Text} {items : List Item}
    (text : [','].intercalate desc = descText items) (empty : desc = [] ↔ items = [])
    (currCore step : Nat) :
    [','].intercalate (desc ++ [fmt currCore step]) = descText (items ++ runItems currCore step) := by
  rw [fmt_eq_descText]
  by_cases first : desc = []
  · rw [first, empty.mp first]
    simp
  · rw [← intercalate_concat first, text,
      descText_append (mt empty.mpr first) (runItems_ne_nil currCore step)]

section Visit

variable {mask coreId : Nat} {st : Printing} {items : List Item}

theorem Printed.extend (printed : Printed mask coreId st items) (bit : mask.testBit coreId = true) :
    Printed mask (coreId + 1) { st with step := st.step + 1 } items where
  fits := Nat.succ_le_succ printed.fits
  text := printed.text
  empty := printed.empty
  cores i := by
    have seen := printed.cores i
    have fits := printed.fits
    have here : i = coreId → mask.testBit i = true := by rintro rfl; exact bit
    dsimp only
    grind

theorem Printed.close (printed : Printed mask coreId st items) (clear : ¬ mask.testBit coreId = true)
    (pending : st.step > 0) :
    Printed mask (coreId + 1) { step := 0, desc := st.desc ++ [fmt (coreId - 1) st.step] }
      (items ++ runItems (coreId - 1) st.step) where
  fits := Nat.zero_le _
  text := intercalate_fmt printed.text printed.empty _ _
  empty := by simp [runItems_ne_nil]
  cores i := by
    rw [descCores_append, Finset.mem_union, descCores_runItems pending printed.fits, Finset.mem_Ico]
    have seen := printed.cores i
    grind

theorem Printed.skip (printed : Printed mask coreId st items) (clear : ¬ mask.testBit coreId = true)
    (idle : ¬ st.step > 0) : Printed mask (coreId + 1) st items where
  fits := Nat.le_succ_of_le printed.fits
  text := printed.text
  empty := printed.empty
  cores i := by
    have seen := printed.cores i
    grind

/-- One position keeps the invariant. -/
theorem Printed.visit (printed : Printed mask coreId st items) :
    ∃ items', Printed mask (coreId + 1) (st.visit mask coreId) items' := by
  by_cases bit : (1 <<< coreId) &&& mask ≠ 0
  · rw [Printing.visit, if_pos bit]
    exact ⟨items, printed.extend (shift_and_ne_zero_iff.mp bit)⟩
  · rw [Printing.visit, if_neg bit]
    have clear := mt shift_and_ne_zero_iff.mpr bit
    by_cases pending : st.step > 0
    · rw [if_pos pending]
      exact ⟨_, printed.close clear pending⟩
    · rw [if_neg pending]
      exact ⟨items, printed.skip clear pending⟩

end Visit

theorem exists_printed (self coreId : Nat) : ∃ items, Printed self coreId (printedUpTo self coreId) items := by
  induction coreId with
  | zero => exact ⟨[], by constructor <;> simp [printedUpTo, descText, descCores]⟩
  | succ coreId ih =>
      obtain ⟨items, printed⟩ := ih
      have next : printedUpTo self (coreId + 1) = (printedUpTo self coreId).visit self coreId := by
        simp [printedUpTo, List.range_succ]
      rw [next]
      exact printed.visit

/-- The compressed text consists of items that name exactly the cores of the mask: the position
    past the top bit is clear, so no run is left open. -/
theorem exists_items_str (self : Nat) :
    ∃ items, str self = descText items ∧ descCores items = coreSet self := by
  obtain ⟨items, printed⟩ := exists_printed self (self.size + 1)
  refine ⟨items, printed.text, ?_⟩
  have top : ∀ i, self.testBit i = true → i < self.size :=
    fun i bit => Nat.lt_size.mpr (Nat.ge_two_pow_of_testBit bit)
  ext i
  have seen := printed.cores i
  have last := printed.cores self.size
  have topBit := top self.size
  rw [mem_coreSet]
  grind

theorem coreSet_nonempty {mask : Nat} (pos : 0 < mask) : coreSet mask ≠ ∅ := by
  intro empty
  have zero : coreSet mask = coreSet 0 := by rw [empty]; rfl
  exact Nat.ne_of_gt pos (coreSet_injective zero)

theorem exists_some_items_str {self : Nat} (pos : 0 < self) :
    ∃ items, items ≠ [] ∧ str self = descText items ∧ descCores items = coreSet self := by
  obtain ⟨items, text, cores⟩ := exists_items_str self
  refine ⟨items, ?_, text, cores⟩
  rintro rfl
  exact coreSet_nonempty pos cores.symm

theorem fromDesc_str {c : Nat} (pos : 0 < c) : fromDesc (str c) = c := by
  obtain ⟨items, more, text, cores⟩ := exists_some_items_str pos
  apply coreSet_injective
  rw [text, coreSet_fromDesc more, cores]

theorem coreSet_fromDesc_join {m n : Nat} (left : 0 < m) (right : 0 < n) :
    coreSet (fromDesc (str m ++ ',' :: str n)) = coreSet m ∪ coreSet n := by
  obtain ⟨mItems, mMore, mText, mCores⟩ := exists_some_items_str left
  obtain ⟨nItems, nMore, nText, nCores⟩ := exists_some_items_str right
  rw [mText, nText, ← descText_append mMore nMore, coreSet_fromDesc (by simp [mMore]),
    descCores_append, mCores, nCores]

theorem fromDesc_allCores {c : Nat} (pos : 0 < c) : fromDesc (allCores c) = c := by
  have more : iter c ≠ [] := by
    rw [iter_eq_bitIndices]
    intro none
    apply coreSet_nonempty pos
    rw [coreSet, none, List.toFinset_nil]
  apply coreSet_injective
  change coreSet (fromDesc (listText (iter c))) = coreSet c
  rw [coreSet_fromDesc_listText more, iter_eq_bitIndices]
  rfl

/-- Both spellings of a set with at least one core are read back as that set. -/
theorem fromDesc_roundTrip {c : Nat} (pos : 0 < c) : fromDesc (str c) = c ∧ fromDesc (allCores c) = c :=
  ⟨fromDesc_str pos, fromDesc_allCores pos⟩

/-- A mask with a pair at bit 0, a single core and a range that reaches the top bit. -/
theorem fromDesc_roundTrip_runs :
    str 0b1110_1011 = "0,1,3,5-7".toList ∧
      fromDesc (str 0b1110_1011) = 0b1110_1011 ∧ fromDesc (allCores 0b1110_1011) = 0b1110_1011 :=
  ⟨by decide, fromDesc_roundTrip (by decide)⟩

end KvmWorkload.Reporter
