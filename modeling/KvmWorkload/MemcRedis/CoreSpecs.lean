import KvmWorkload.Lib.Exec
import KvmWorkload.Lib.Lists
import KvmWorkload.MemcRedis.Clients
import KvmWorkload.Reporter.CpuCores

/-! # Four readers of core lists

The load generators, cpustat.py, run_wrk_collect_data.py and the validation-case
generator each read core lists such as `0,2-35` with a parser of their own.
Only the last one reads an item that is a single core: the others unpack the
two ends of a range.
-/

namespace KvmWorkload

/-- A segment of a core list.  `split` has no `None` among its results, so the test for it never
    holds. -/
def segmentCores (segment : Text) : Except MemcRedis.PyError (List Nat) :=
  match segment.splitOn '-' with
  | [low, high] => do
      let low ← MemcRedis.parseInt low
      let high ← MemcRedis.parseInt high
      pure (List.range' low (high + 1 - low))
  | _ => .error .valueError

/-- The number of entries of `cpu`. -/
def countSegments (c : Text) : Except MemcRedis.PyError Nat := do
  let cpu ← (c.splitOn ',').mapM segmentCores
  pure cpu.flatten.length

/-- `get_cores` of cpustat.py. -/
def Cpustat.getCores (c : Text) : Except MemcRedis.PyError Nat := countSegments c

/-- `get_cores` of run_wrk_collect_data.py. -/
def RunWrkCollectData.getCores (c : Text) : Except MemcRedis.PyError Nat := countSegments c

namespace MemcRedis

open Reporter

theorem segmentCores_eq : segmentCores = coreSlice := by
  funext segment
  unfold segmentCores coreSlice
  rfl

/-- Single cores and upward ranges, and no core named twice. -/
structure Documented (items : List Item) : Prop where
  more : items ≠ []
  upward : ∀ a b, Item.range a b ∈ items → a.value ≤ b.value
  once : items.Pairwise fun item other => Disjoint item.cores other.cores

/-- All four readers find the same cores in a list. -/
structure ReadersAgree (spec : Text) : Prop where
  listed : ∃ ids, getCoreList spec = .ok ids ∧ ids.Nodup ∧ ids.toFinset = coreSet (fromDesc spec)
  cpustat : Cpustat.getCores spec = .ok (coreSet (fromDesc spec)).card
  runWrk : RunWrkCollectData.getCores spec = .ok (coreSet (fromDesc spec)).card

theorem parseInt_digits (n : Numeral) : parseInt n.digits = .ok n.value := by
  have digits : n.digits.all Char.isDigit = true := List.all_eq_true.mpr n.isDigit
  rw [parseInt, if_pos ⟨n.nonempty, digits⟩]
  rfl

theorem not_mem_digits (n : Numeral) {c : Char} (digit : c.isDigit = false) : c ∉ n.digits := by
  intro member
  rw [n.isDigit c member] at digit
  cases digit

theorem coreSlice_single (n : Numeral) : coreSlice (Item.single n).text = .error .valueError := by
  unfold coreSlice Item.text
  rw [splitOn_of_not_mem (not_mem_digits n (by decide))]

theorem coreSlice_range (a b : Numeral) :
    coreSlice (Item.range a b).text = .ok (List.range' a.value (b.value + 1 - a.value)) := by
  have split : (Item.range a b).text.splitOn '-' = [a.digits, b.digits] := by
    unfold Item.text
    rw [List.splitOn_append_cons_self, splitOn_of_not_mem (not_mem_digits a (by decide)),
      splitOn_of_not_mem (not_mem_digits b (by decide)), List.singleton_append]
  unfold coreSlice
  rw [split]
  simp only [parseInt_digits]
  rfl

theorem toFinset_slice {a b : Numeral} (upward : a.value ≤ b.value) :
    (List.range' a.value (b.value + 1 - a.value)).toFinset = (Item.range a b).cores := by
  ext core
  have cores : (Item.range a b).cores = Finset.Icc (min a.value b.value) (max a.value b.value) := rfl
  rw [cores, List.mem_toFinset, List.mem_range'_1, min_eq_left upward, max_eq_right upward,
    Finset.mem_Icc]
  omega

theorem not_mem_text (item : Item) : ',' ∉ item.text := by
  cases item with
  | single n => exact not_mem_digits n (by decide)
  | range a b =>
      unfold Item.text
      rw [List.mem_append, List.mem_cons]
      rintro (left | dash | right)
      · exact not_mem_digits a (by decide) left
      · cases dash
      · exact not_mem_digits b (by decide) right

theorem splitOn_descText {items : List Item} (more : items ≠ []) :
    (descText items).splitOn ',' = items.map Item.text := by
  apply List.splitOn_intercalate
  · intro text member
    obtain ⟨item, -, rfl⟩ := List.mem_map.mp member
    exact not_mem_text item
  · simpa using more

theorem descText_isEmpty {items : List Item} (more : items ≠ []) : (descText items).isEmpty = false := by
  have texts := splitOn_descText more
  cases text : descText items with
  | nil =>
      rw [text] at texts
      obtain ⟨item, member, here⟩ := List.mem_map.mp (texts ▸ List.mem_singleton.mpr rfl : [] ∈ items.map Item.text)
      cases item with
      | single n => exact absurd here n.nonempty
      | range a b => exact absurd (List.append_eq_nil_iff.mp here).1 a.nonempty
  | cons c rest => rfl

theorem mapM_coreSlice {items : List Item} (upward : ∀ a b, Item.range a b ∈ items → a.value ≤ b.value)
    (ranges : ∀ item ∈ items, ∃ a b, item = .range a b) :
    ∃ slices, (items.map Item.text).mapM coreSlice = .ok slices ∧
      List.Forall₂ (fun item slice => slice.Nodup ∧ slice.toFinset = item.cores) items slices := by
  induction items with
  | nil => exact ⟨[], rfl, .nil⟩
  | cons item rest ih =>
      obtain ⟨⟨a, b, rfl⟩, later⟩ := List.forall_mem_cons.mp ranges
      obtain ⟨slices, run, read⟩ := ih (fun a b member => upward a b (List.mem_cons_of_mem _ member)) later
      refine ⟨List.range' a.value (b.value + 1 - a.value) :: slices, ?_, .cons ⟨List.nodup_range', ?_⟩ read⟩
      · rw [List.map_cons, List.mapM_cons, coreSlice_range, run]
        rfl
      · exact toFinset_slice (upward a b List.mem_cons_self)

theorem toFinset_flatten {items : List Item} {slices : List (List Nat)}
    (read : List.Forall₂ (fun item slice => slice.Nodup ∧ slice.toFinset = item.cores) items slices) :
    slices.flatten.toFinset = descCores items := by
  induction read with
  | nil => rfl
  | cons here _ ih => rw [List.flatten_cons, List.toFinset_append, ih, here.2, descCores]

theorem nodup_flatten {items : List Item} {slices : List (List Nat)}
    (read : List.Forall₂ (fun item slice => slice.Nodup ∧ slice.toFinset = item.cores) items slices)
    (once : items.Pairwise fun item other => Disjoint item.cores other.cores) :
    slices.flatten.Nodup := by
  induction read with
  | nil => exact List.nodup_nil
  | @cons item slice rest slices here later ih =>
      obtain ⟨apart, others⟩ := List.pairwise_cons.mp once
      rw [List.flatten_cons]
      apply here.1.append (ih others)
      intro core left right
      have inItem : core ∈ item.cores := by rw [← here.2]; exact List.mem_toFinset.mpr left
      have inRest : core ∈ descCores rest := by
        rw [← toFinset_flatten later]
        exact List.mem_toFinset.mpr right
      obtain ⟨other, member, inOther⟩ := mem_descCores.mp inRest
      exact Finset.disjoint_left.mp (apart other member) inItem inOther

theorem ranges_of_getCoreList {items : List Item} (more : items ≠ []) {ids : List Nat}
    (run : getCoreList (descText items) = .ok ids) : ∀ item ∈ items, ∃ a b, item = .range a b := by
  intro item member
  rw [getCoreList, descText_isEmpty more, if_neg Bool.false_ne_true] at run
  obtain ⟨slices, run, -⟩ := except_bind_ok.mp run
  rw [splitOn_descText more, except_mapM_ok, List.forall₂_map_left_iff] at run
  obtain ⟨slice, -, read⟩ := forall₂_exists_right run member
  cases item with
  | single n =>
      rw [coreSlice_single] at read
      cases read
  | range a b => exact ⟨a, b, rfl⟩

/-- The readers agree on a documented list exactly when every item of it is a range. -/
theorem readersAgree_iff {items : List Item} (documented : Documented items) :
    ReadersAgree (descText items) ↔ ∀ item ∈ items, ∃ a b, item = .range a b := by
  constructor
  · intro agree
    obtain ⟨ids, run, -⟩ := agree.listed
    exact ranges_of_getCoreList documented.more run
  · intro ranges
    obtain ⟨slices, run, read⟩ := mapM_coreSlice documented.upward ranges
    have once := nodup_flatten read documented.once
    have cores : slices.flatten.toFinset = coreSet (fromDesc (descText items)) := by
      rw [toFinset_flatten read, coreSet_fromDesc documented.more]
    have number : countSegments (descText items) = .ok (coreSet (fromDesc (descText items))).card := by
      rw [← cores, List.toFinset_card_of_nodup once, countSegments, segmentCores_eq,
        splitOn_descText documented.more, run]
      rfl
    refine ⟨⟨slices.flatten, ?_, once, cores⟩, number, number⟩
    rw [← splitOn_descText documented.more] at run
    exact getCoreList_of_slices run

/-- `0-1,24-25`, as in the comments of cpustat.py. -/
def twoRanges : List Item := [.range (.ofNat 0) (.ofNat 1), .range (.ofNat 24) (.ofNat 25)]

theorem twoRanges_documented : Documented twoRanges where
  more := List.cons_ne_nil _ _
  upward := by
    intro a b member
    simp only [twoRanges, List.mem_cons, Item.range.injEq, List.not_mem_nil, or_false] at member
    rcases member with ⟨rfl, rfl⟩ | ⟨rfl, rfl⟩
    · decide
    · decide
  once := by
    have apart : Disjoint (Item.range (.ofNat 0) (.ofNat 1)).cores
        (Item.range (.ofNat 24) (.ofNat 25)).cores := by decide
    exact List.pairwise_pair.mpr apart

theorem twoRanges_agree :
    Documented twoRanges ∧ descText twoRanges = "0-1,24-25".toList ∧ ReadersAgree (descText twoRanges) := by
  refine ⟨twoRanges_documented, by decide, (readersAgree_iff twoRanges_documented).mpr ?_⟩
  intro item member
  simp only [twoRanges, List.mem_cons, List.not_mem_nil, or_false] at member
  rcases member with rfl | rfl
  · exact ⟨_, _, rfl⟩
  · exact ⟨_, _, rfl⟩

/-- `0,2-35`, as in the usage text of run_wrk_collect_data.py. -/
def usageItems : List Item := [.single (.ofNat 0), .range (.ofNat 2) (.ofNat 35)]

theorem usageItems_documented : Documented usageItems where
  more := List.cons_ne_nil _ _
  upward := by
    intro a b member
    simp only [usageItems, List.mem_cons, reduceCtorEq, Item.range.injEq, List.not_mem_nil, or_false,
      false_or] at member
    obtain ⟨rfl, rfl⟩ := member
    decide
  once := by
    have apart : Disjoint (Item.single (.ofNat 0)).cores (Item.range (.ofNat 2) (.ofNat 35)).cores := by
      decide
    exact List.pairwise_pair.mpr apart

/-- The generator finds 35 cores, and all other readers raise. -/
theorem usageItems_not_agree :
    Documented usageItems ∧ descText usageItems = "0,2-35".toList ∧
      len (fromDesc (descText usageItems)) = 35 ∧
      getCoreList (descText usageItems) = .error .valueError ∧
      Cpustat.getCores (descText usageItems) = .error .valueError ∧
      RunWrkCollectData.getCores (descText usageItems) = .error .valueError ∧
      ¬ ReadersAgree (descText usageItems) := by
  have raises : getCoreList (descText usageItems) = .error .valueError := by decide
  refine ⟨usageItems_documented, by decide, by decide +kernel, raises, by decide, by decide, ?_⟩
  intro agree
  obtain ⟨ids, run, -⟩ := agree.listed
  rw [raises] at run
  cases run

end MemcRedis

end KvmWorkload
