import KvmWorkload.Lib.Decimal
import KvmWorkload.Lib.Exec
import Mathlib.Data.Nat.Size
import Mathlib.Data.Nat.Bitwise
import Mathlib.Algebra.Ring.Parity
import Mathlib.Data.Finset.Sort
import Mathlib.Order.Interval.Finset.Nat

/-! # Core sets of the validation-case generator

`womix/reporter/hwdrc_validation_cases.py` holds a set of cores as an integer
bit mask (`CPUcores`).  Descriptions such as `0-3,8` are read by a one-pass
scanner with a sentinel; sets are written back by iterating the mask.
-/

namespace KvmWorkload.Reporter

/-- `set_mask(b, e)`: the bits between `b` and `e`, in whichever order they come.
    The source's `b == -1` is `none`. -/
def setMask (b : Option Nat) (e : Nat) : Nat :=
  let b := b.getD e
  let (b, e) := if b > e then (e, b) else (b, e)
  (List.range' b (e + 1 - b)).foldl (fun src i => src ||| (1 <<< i)) 0

/-- The variables of `from_desc` that live across characters. -/
structure Scan where
  cores : Nat
  start : Option Nat
  tmp : Nat

/-- One iteration of the character loop of `from_desc`. -/
def Scan.step (st : Scan) (s : Char) : Scan :=
  let c := s.toNat
  if 47 < c ∧ c < 58 then
    { st with tmp := st.tmp * 10 + c - 48 }
  else
    let start := st.start.getD st.tmp
    if c ≠ 45 then
      { cores := st.cores ||| setMask (some start) st.tmp, start := none, tmp := 0 }
    else
      { st with start := some start, tmp := 0 }

/-- The statement after the loop: the last item has no separator behind it. -/
def Scan.finish (st : Scan) : Nat := st.cores ||| setMask st.start st.tmp

/-- `CPUcores.from_desc`. -/
def fromDesc (coreDesc : Text) : Nat :=
  (coreDesc.foldl Scan.step { cores := 0, start := none, tmp := 0 }).finish

/-- `CPUcores.__iter__`: positions up to and including the bit length. -/
def iter (self : Nat) : List Nat :=
  (List.range (self.size + 1)).filter fun coreId => decide ((1 <<< coreId) &&& self ≠ 0)

/-- The loop of `CPUcores.__len__`: each round clears the lowest set bit. -/
def lenLoop (tmp length : Nat) : Nat :=
  if 0 < tmp then lenLoop (tmp &&& (tmp - 1)) (length + 1) else length
termination_by tmp
decreasing_by
  have := Nat.and_le_right (n := tmp) (m := tmp - 1)
  omega

/-- `CPUcores.__len__`. -/
def len (self : Nat) : Nat := lenLoop self 0

/-- The core ids of a mask. -/
def coreSet (mask : Nat) : Finset Nat := mask.bitIndices.toFinset

@[simp] theorem mem_coreSet {i mask : Nat} : i ∈ coreSet mask ↔ mask.testBit i = true := by
  simp only [coreSet, List.mem_toFinset, Nat.mem_bitIndices]

theorem coreSet_injective : Function.Injective coreSet := by
  intro m n same
  apply Nat.eq_of_testBit_eq
  intro i
  have member : i ∈ coreSet m ↔ i ∈ coreSet n := by rw [same]
  simpa only [mem_coreSet, Bool.coe_iff_coe] using member

theorem pos_of_mem_coreSet {mask i : Nat} (inside : i ∈ coreSet mask) : 0 < mask := by
  apply Nat.pos_of_ne_zero
  rintro rfl
  simp at inside

@[simp] theorem coreSet_or (m n : Nat) : coreSet (m ||| n) = coreSet m ∪ coreSet n := by
  ext i
  simp only [mem_coreSet, Nat.testBit_or, Bool.or_eq_true, Finset.mem_union]

theorem testBit_orBits (bits : List Nat) (src i : Nat) :
    (bits.foldl (fun src j => src ||| (1 <<< j)) src).testBit i = true ↔
      src.testBit i = true ∨ i ∈ bits := by
  induction bits generalizing src with
  | nil => simp
  | cons j rest ih =>
      rw [List.foldl_cons, ih, Nat.testBit_or, Nat.one_shiftLeft, Nat.testBit_two_pow]
      simp only [Bool.or_eq_true, decide_eq_true_eq, List.mem_cons]
      grind

theorem coreSet_setMask (b e : Nat) :
    coreSet (setMask (some b) e) = Finset.Icc (min b e) (max b e) := by
  ext i
  simp only [mem_coreSet, setMask, Option.getD_some, testBit_orBits, Nat.zero_testBit,
    Bool.false_eq_true, false_or, Finset.mem_Icc]
  split <;> simp only [List.mem_range'_1] <;> omega

theorem setMask_none (e : Nat) : setMask none e = setMask (some e) e := rfl

/-- An item of a core description. -/
inductive Item where
  | single (n : Numeral)
  | range (a b : Numeral)

namespace Item

def text : Item → Text
  | .single n => n.digits
  | .range a b => a.digits ++ '-' :: b.digits

def cores : Item → Finset Nat
  | .single n => {n.value}
  | .range a b => Finset.Icc (min a.value b.value) (max a.value b.value)

end Item

/-- A comma-separated description. -/
def descText (items : List Item) : Text := [','].intercalate (items.map Item.text)

/-- The cores that a description names. -/
def descCores : List Item → Finset Nat
  | [] => ∅
  | item :: rest => item.cores ∪ descCores rest

theorem step_digit {c : Char} (digit : c.isDigit) (st : Scan) :
    st.step c = { st with tmp := 10 * st.tmp + (c.toNat - 48) } := by
  have code := (isDigit_iff_code c).mp digit
  simp only [Scan.step, if_pos code]
  congr 1
  omega

theorem foldl_digits {digits : Text} (all : ∀ c ∈ digits, c.isDigit) (st : Scan) :
    digits.foldl Scan.step st = { st with tmp := Nat.ofDigitChars 10 digits st.tmp } := by
  induction digits generalizing st with
  | nil => simp only [List.foldl_nil, Nat.ofDigitChars_nil]
  | cons c rest ih =>
      rw [List.foldl_cons, step_digit (all c List.mem_cons_self),
        ih (fun d member => all d (List.mem_cons_of_mem c member)), Nat.ofDigitChars_cons]
      rfl

/-- The scanner between two items. -/
def Scan.fresh (cores : Nat) : Scan := { cores := cores, start := none, tmp := 0 }

theorem step_comma (st : Scan) : st.step ',' = Scan.fresh st.finish := by
  cases st with
  | mk cores start tmp =>
      cases start <;> simp [Scan.step, Scan.finish, Scan.fresh, setMask_none]

theorem coreSet_finish_item (item : Item) (cores : Nat) :
    coreSet (item.text.foldl Scan.step (Scan.fresh cores)).finish = coreSet cores ∪ item.cores := by
  cases item with
  | single n =>
      rw [Item.text, foldl_digits n.isDigit, Scan.finish, coreSet_or]
      simp only [Scan.fresh, setMask_none, coreSet_setMask, min_self, max_self, Finset.Icc_self]
      rfl
  | range a b =>
      rw [Item.text, List.foldl_append, foldl_digits a.isDigit, List.foldl_cons]
      have dash : ({ Scan.fresh cores with tmp := Nat.ofDigitChars 10 a.digits 0 } : Scan).step '-' =
          { cores := cores, start := some a.value, tmp := 0 } := by
        simp [Scan.step, Scan.fresh, Numeral.value, readDecimal]
      rw [Scan.fresh] at dash ⊢
      rw [dash, foldl_digits b.isDigit, Scan.finish, coreSet_or, coreSet_setMask]
      rfl

theorem coreSet_finish_desc {items : List Item} (more : items ≠ []) (cores : Nat) :
    coreSet ((descText items).foldl Scan.step (Scan.fresh cores)).finish =
      coreSet cores ∪ descCores items := by
  induction items generalizing cores with
  | nil => exact absurd rfl more
  | cons item rest ih =>
      cases rest with
      | nil => simp [descText, descCores, coreSet_finish_item]
      | cons next rest =>
          have shape : descText (item :: next :: rest) =
              item.text ++ ',' :: descText (next :: rest) := by
            simp [descText]
          rw [shape, List.foldl_append, List.foldl_cons, step_comma, ih (by simp),
            coreSet_finish_item, Finset.union_assoc]
          rfl

/-- `from_desc` denotes the union of its items. -/
theorem coreSet_fromDesc {items : List Item} (more : items ≠ []) :
    coreSet (fromDesc (descText items)) = descCores items := by
  have scanned := coreSet_finish_desc more 0
  simpa only [fromDesc, Scan.fresh, coreSet, Nat.bitIndices_zero, List.toFinset_nil,
    Finset.empty_union] using scanned

theorem mem_descCores {items : List Item} {i : Nat} :
    i ∈ descCores items ↔ ∃ item ∈ items, i ∈ item.cores := by
  induction items with
  | nil => simp [descCores]
  | cons item rest ih => simp [descCores, ih]

/-- The bits of the result are the cores of the items, in whichever order and however often they
    are named. -/
theorem fromDesc_bits {items : List Item} (more : items ≠ []) (i : Nat) :
    (fromDesc (descText items)).testBit i = true ↔ ∃ item ∈ items, i ∈ item.cores := by
  rw [← mem_coreSet, coreSet_fromDesc more, mem_descCores]

theorem isDigit_zeroFive : ∀ c ∈ "05".toList, c.isDigit := by
  have all : "05".toList.all Char.isDigit = true := by decide
  exact List.all_eq_true.mp all

/-- A repeated core, a leading zero and a range that goes down: `7,05-3,3`. -/
def mixedItems : List Item :=
  [.single (.ofNat 7), .range ⟨"05".toList, List.cons_ne_nil _ _, isDigit_zeroFive⟩ (.ofNat 3),
    .single (.ofNat 3)]

theorem fromDesc_bits_mixed :
    mixedItems ≠ [] ∧ descText mixedItems = "7,05-3,3".toList ∧
      fromDesc (descText mixedItems) = 0b1011_1000 ∧
      ((fromDesc (descText mixedItems)).testBit 4 = true ↔ ∃ item ∈ mixedItems, 4 ∈ item.cores) := by
  have more : mixedItems ≠ [] := List.cons_ne_nil _ _
  exact ⟨more, by decide, by decide, fromDesc_bits more 4⟩

theorem fromDesc_nil : fromDesc [] = 1 := by decide

/-- `",".join(map(str, cores))`. -/
def listText (cores : List Nat) : Text := [','].intercalate (cores.map decimal)

theorem coreSet_fromDesc_listText {cores : List Nat} (more : cores ≠ []) :
    coreSet (fromDesc (listText cores)) = cores.toFinset := by
  have asItems : listText cores = descText (cores.map fun n => .single (.ofNat n)) := by
    simp [listText, descText, Item.text, Function.comp_def]
  rw [asItems, coreSet_fromDesc (by simpa using more)]
  clear asItems more
  induction cores with
  | nil => rfl
  | cons n rest ih =>
      simp only [List.map_cons, descCores, Item.cores, Numeral.ofNat_value, ih,
        List.toFinset_cons, Finset.insert_eq]

theorem shift_and_ne_zero (self i : Nat) :
    decide ((1 <<< i) &&& self ≠ 0) = self.testBit i := by
  rw [Nat.one_shiftLeft, Nat.and_comm, Nat.and_two_pow]
  cases self.testBit i <;> simp

theorem shift_and_ne_zero_iff {self i : Nat} : (1 <<< i) &&& self ≠ 0 ↔ self.testBit i = true := by
  rw [← shift_and_ne_zero, decide_eq_true_iff]

/-- Iteration yields the positions of the one bits, in increasing order. -/
theorem iter_eq_bitIndices (self : Nat) : iter self = self.bitIndices := by
  have sorted : (iter self).SortedLT :=
    ((List.sortedLT_range _).pairwise.filter _).sortedLT
  apply sorted.eq_of_mem_iff Nat.bitIndices_sorted
  intro i
  simp only [iter, shift_and_ne_zero, List.mem_filter, List.mem_range, Nat.mem_bitIndices]
  constructor
  · exact fun both => both.2
  · intro bit
    have inside : i < self.size := Nat.lt_size.mpr (Nat.ge_two_pow_of_testBit bit)
    exact ⟨Nat.lt_succ_of_lt inside, bit⟩

theorem iter_eq_of_coreSet {mask : Nat} {ids : List Nat} (sorted : ids.Pairwise (· < ·))
    (denotes : coreSet mask = ids.toFinset) : iter mask = ids := by
  rw [iter_eq_bitIndices]
  apply Nat.bitIndices_sorted.eq_of_mem_iff sorted.sortedLT
  intro i
  rw [← List.mem_toFinset, ← List.mem_toFinset, ← denotes]
  rfl

theorem length_bitIndices_clear {n : Nat} (pos : 0 < n) :
    (n &&& (n - 1)).bitIndices.length + 1 = n.bitIndices.length := by
  induction n using Nat.strong_induction_on with
  | _ n ih =>
      rcases Nat.even_or_odd' n with ⟨m, rfl | rfl⟩
      · have shape : 2 * m &&& (2 * m - 1) = 2 * (m &&& (m - 1)) := by
          have below : 2 * m - 1 = Nat.bit true (m - 1) := by simp [Nat.bit_val]; omega
          have whole : 2 * m = Nat.bit false m := by simp [Nat.bit_val]
          rw [below, whole, Nat.land_bit]
          simp [Nat.bit_val]
        simpa [shape] using ih m (by omega) (by omega)
      · have shape : 2 * m + 1 &&& (2 * m + 1 - 1) = 2 * m := by
          have below : 2 * m + 1 - 1 = Nat.bit false m := by simp [Nat.bit_val]
          have whole : 2 * m + 1 = Nat.bit true m := by simp [Nat.bit_val]
          rw [below, whole, Nat.land_bit, Nat.and_self]
          simp [Nat.bit_val]
        rw [shape]
        simp

theorem lenLoop_eq (tmp length : Nat) : lenLoop tmp length = length + tmp.bitIndices.length := by
  fun_induction lenLoop tmp length with
  | case1 tmp length pos ih =>
      have cleared := length_bitIndices_clear pos
      omega
  | case2 tmp length done =>
      have zero : tmp = 0 := by omega
      simp [zero]

theorem len_eq_length_iter (self : Nat) : len self = (iter self).length := by
  rw [len, lenLoop_eq, iter_eq_bitIndices, Nat.zero_add]

theorem len_eq_card (self : Nat) : len self = (coreSet self).card := by
  rw [len, lenLoop_eq, Nat.zero_add, coreSet, List.toFinset_card_of_nodup Nat.bitIndices_nodup]

/-- The variables of `__len__`. -/
structure Counting where
  tmp : Nat
  length : Nat

def Counting.round (s : Counting) : Counting where
  tmp := s.tmp &&& (s.tmp - 1)
  length := s.length + 1

/-- The `while` loop of `__len__`, cut off after a number of rounds. -/
def lenWhile (rounds : Nat) : EStateM Empty Counting Unit :=
  whileFor (fun s => decide (s.tmp > 0)) (modify Counting.round) rounds

/-- The variable of `__iter__`, and what it has yielded so far. -/
structure Iterating where
  coreId : Nat
  yielded : List Nat

def Iterating.round (self : Nat) (s : Iterating) : Iterating where
  coreId := s.coreId + 1
  yielded := if (1 <<< s.coreId) &&& self ≠ 0 then s.yielded ++ [s.coreId] else s.yielded

/-- The `while` loop of `__iter__`, cut off after a number of rounds. -/
def iterWhile (self rounds : Nat) : EStateM Empty Iterating Unit :=
  whileFor (fun s => decide (s.coreId ≤ self.size)) (modify (Iterating.round self)) rounds

theorem Counting.round_counts {s : Counting} (more : 0 < s.tmp) :
    lenLoop s.round.tmp s.round.length = lenLoop s.tmp s.length ∧
      s.round.tmp.bitIndices.length < s.tmp.bitIndices.length := by
  constructor
  · conv_rhs => rw [lenLoop, if_pos more]
    rfl
  · exact Nat.lt_of_succ_le (length_bitIndices_clear more).le

theorem lenWhile_ends {c rounds : Nat} (enough : len c ≤ rounds) :
    lenWhile rounds ⟨c, 0⟩ = .ok () ⟨0, len c⟩ := by
  have round : ∀ s : Counting, lenLoop s.tmp s.length = len c → decide (s.tmp > 0) = true →
      lenLoop s.round.tmp s.round.length = len c ∧
        s.round.tmp.bitIndices.length < s.tmp.bitIndices.length := by
    intro s counted more
    obtain ⟨same, less⟩ := Counting.round_counts (of_decide_eq_true more)
    exact ⟨same.trans counted, less⟩
  have left : c.bitIndices.length ≤ rounds := by
    rwa [len, lenLoop_eq, Nat.zero_add] at enough
  obtain ⟨⟨tmp, length⟩, ends, counted, done⟩ :=
    whileFor_modify_ends (fun s : Counting => s.tmp.bitIndices.length) round (s := ⟨c, 0⟩) rfl left
  obtain rfl : tmp = 0 := Nat.eq_zero_of_not_pos (of_decide_eq_false done)
  rw [lenLoop_eq, Nat.bitIndices_zero] at counted
  rw [lenWhile, ends, ← counted]
  rfl

/-- The invariant of the scan: the positions so far have been visited, and the one bits among them
    yielded. -/
structure Visited (mask : Nat) (s : Iterating) : Prop where
  within : s.coreId ≤ mask.size + 1
  yielded : s.yielded = (List.range s.coreId).filter fun coreId => decide ((1 <<< coreId) &&& mask ≠ 0)

theorem Visited.round {mask : Nat} {s : Iterating} (visited : Visited mask s)
    (more : s.coreId ≤ mask.size) : Visited mask (s.round mask) where
  within := Nat.succ_le_succ more
  yielded := by
    rw [Iterating.round, List.range_succ, List.filter_append, ← visited.yielded,
      List.filter_singleton]
    by_cases bit : (1 <<< s.coreId) &&& mask ≠ 0
    · rw [if_pos bit, decide_eq_true bit]
      rfl
    · rw [if_neg bit, decide_eq_false bit]
      exact (List.append_nil _).symm

theorem iterWhile_ends {c rounds : Nat} (enough : c.size < rounds) :
    iterWhile c rounds ⟨0, []⟩ = .ok () ⟨c.size + 1, iter c⟩ := by
  have start : Visited c ⟨0, []⟩ := ⟨Nat.zero_le _, rfl⟩
  obtain ⟨⟨coreId, yielded⟩, ends, visited, done⟩ :=
    whileFor_modify_ends (fun s : Iterating => c.size + 1 - s.coreId)
      (fun s visited more => by
        have inside : s.coreId ≤ c.size := of_decide_eq_true more
        refine ⟨Visited.round visited inside, ?_⟩
        change c.size + 1 - (s.coreId + 1) < c.size + 1 - s.coreId
        omega)
      start enough
  obtain rfl : coreId = c.size + 1 :=
    Nat.le_antisymm visited.within (Nat.lt_of_not_le (of_decide_eq_false done))
  obtain rfl : yielded = iter c := visited.yielded
  exact ends

/-- Both loops come to an end, and the count is the number of ids that the iteration yields, which
    are the positions of the one bits in increasing order. -/
theorem len_counts_iter (c : Nat) :
    (∀ rounds, len c ≤ rounds → lenWhile rounds ⟨c, 0⟩ = .ok () ⟨0, len c⟩) ∧
      (∀ rounds, c.size < rounds → iterWhile c rounds ⟨0, []⟩ = .ok () ⟨c.size + 1, iter c⟩) ∧
      len c = (iter c).length ∧ (iter c).Pairwise (· < ·) ∧ ∀ i, i ∈ iter c ↔ c.testBit i = true := by
  refine ⟨fun _ => lenWhile_ends, fun _ => iterWhile_ends, len_eq_length_iter c, ?_, fun i => ?_⟩
  · rw [iter_eq_bitIndices]
    exact Nat.bitIndices_sorted.pairwise
  · rw [iter_eq_bitIndices, Nat.mem_bitIndices]

/-- The cores 1, 2 and 4. -/
theorem len_counts_iter_three :
    lenWhile 3 ⟨0b10110, 0⟩ = .ok () ⟨0, 3⟩ ∧ iterWhile 0b10110 6 ⟨0, []⟩ = .ok () ⟨6, [1, 2, 4]⟩ := by
  obtain ⟨counts, yields, same, -⟩ := len_counts_iter 0b10110
  have ids : iter 0b10110 = [1, 2, 4] := by decide
  have three : len 0b10110 = 3 := by rw [same, ids]; rfl
  have size : Nat.size 0b10110 = 5 := by decide
  have ended := counts 3 three.le
  have scanned := yields 6 (by rw [size]; decide)
  rw [three] at ended
  rw [size, ids] at scanned
  exact ⟨ended, scanned⟩

end KvmWorkload.Reporter
