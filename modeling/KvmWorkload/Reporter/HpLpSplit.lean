import KvmWorkload.Reporter.CpuCores

/-! # High-priority and low-priority cores

`get_hp_lp_cores` counts the described cores, deals them out in increasing
order, and sends both halves through text once more.  The text form cannot
carry an empty half: `from_desc("")` is core 0.
-/

namespace KvmWorkload.Reporter

/-- The variables of the dealing loop. -/
structure Deal where
  i : Nat
  hpCores : List Text
  lpCores : List Text

/-- One iteration of `for core in core_set`.

    The source compares `i` with the quotient `total_cores * ratio / 100`, a
    double; for every mask that fits in memory (fewer than `2^46` cores) that
    comparison is the exact one written here. -/
def Deal.step (totalCores ratio : Nat) (deal : Deal) (core : Nat) : Deal :=
  let i := deal.i + 1
  if i * 100 ≤ totalCores * ratio then
    { deal with i := i, hpCores := deal.hpCores ++ [decimal core] }
  else
    { deal with i := i, lpCores := deal.lpCores ++ [decimal core] }

/-- `get_hp_lp_cores`. -/
def getHpLpCores (allCores : Text) (ratio : Nat) : Nat × Nat :=
  let coreSet := fromDesc allCores
  let totalCores := len coreSet
  let deal := (iter coreSet).foldl (Deal.step totalCores ratio) { i := 0, hpCores := [], lpCores := [] }
  (fromDesc ([','].intercalate deal.hpCores), fromDesc ([','].intercalate deal.lpCores))

/-- The number of cores that the loop deals to the high-priority side. -/
def hpShare (totalCores ratio : Nat) : Nat := totalCores * ratio / 100

theorem le_hpShare_iff {k totalCores ratio : Nat} :
    k ≤ hpShare totalCores ratio ↔ k * 100 ≤ totalCores * ratio := by
  rw [hpShare, Nat.le_div_iff_mul_le (by omega)]

theorem hpShare_lt_iff {totalCores ratio : Nat} (some_core : 0 < totalCores) :
    hpShare totalCores ratio < totalCores ↔ ratio < 100 := by
  rw [hpShare, Nat.div_lt_iff_lt_mul (by omega), Nat.mul_lt_mul_left some_core]

theorem foldl_deal (totalCores ratio : Nat) (ids : List Nat) (deal : Deal) :
    ids.foldl (Deal.step totalCores ratio) deal =
      { i := deal.i + ids.length
        hpCores := deal.hpCores ++ (ids.take (hpShare totalCores ratio - deal.i)).map decimal
        lpCores := deal.lpCores ++ (ids.drop (hpShare totalCores ratio - deal.i)).map decimal } := by
  induction ids generalizing deal with
  | nil => simp
  | cons core rest ih =>
      rw [List.foldl_cons, ih]
      by_cases high : deal.i + 1 ≤ hpShare totalCores ratio
      · have room : hpShare totalCores ratio - deal.i = hpShare totalCores ratio - (deal.i + 1) + 1 := by
          omega
        simp only [Deal.step, le_hpShare_iff.mp high, if_true, room, List.take_succ_cons, List.drop_succ_cons,
          List.map_cons, List.append_assoc, List.singleton_append, List.length_cons]
        congr 1
        omega
      · have full : hpShare totalCores ratio - deal.i = 0 := by omega
        have still : hpShare totalCores ratio - (deal.i + 1) = 0 := by omega
        simp only [Deal.step, mt le_hpShare_iff.mpr high, if_false, full, still, List.take_zero, List.drop_zero,
          List.map_nil, List.map_cons, List.append_assoc, List.singleton_append, List.length_cons]
        congr 1
        omega

theorem getHpLpCores_eq (allCores : Text) (ratio : Nat) :
    getHpLpCores allCores ratio =
      (fromDesc (listText ((iter (fromDesc allCores)).take (hpShare (len (fromDesc allCores)) ratio))),
       fromDesc (listText ((iter (fromDesc allCores)).drop (hpShare (len (fromDesc allCores)) ratio)))) := by
  simp only [getHpLpCores, foldl_deal, Nat.sub_zero, List.nil_append, listText]

theorem getHpLpCores_of_ids {text : Text} {ids : List Nat} (sorted : ids.Pairwise (· < ·))
    (denotes : coreSet (fromDesc text) = ids.toFinset) (ratio : Nat) :
    getHpLpCores text ratio =
      (fromDesc (listText (ids.take (hpShare ids.length ratio))),
       fromDesc (listText (ids.drop (hpShare ids.length ratio)))) := by
  rw [getHpLpCores_eq, len_eq_length_iter, iter_eq_of_coreSet sorted denotes]

/-- What a split of the described cores at `ratio` percent should be. -/
structure IsSplit (described : Finset Nat) (ratio hp lp : Nat) : Prop where
  disjoint : Disjoint (coreSet hp) (coreSet lp)
  cover : coreSet hp ∪ coreSet lp = described
  share : len hp = hpShare described.card ratio
  below : ∀ a ∈ coreSet hp, ∀ b ∈ coreSet lp, a < b

theorem isSplit_of_cut {ids : List Nat} (sorted : ids.Pairwise (· < ·)) {ratio : Nat}
    (some_hp : ids.take (hpShare ids.length ratio) ≠ [])
    (some_lp : ids.drop (hpShare ids.length ratio) ≠ []) :
    IsSplit ids.toFinset ratio
      (fromDesc (listText (ids.take (hpShare ids.length ratio))))
      (fromDesc (listText (ids.drop (hpShare ids.length ratio)))) := by
  have distinct : ids.Nodup := sorted.imp (fun less => Nat.ne_of_lt less)
  have cut : ids.take (hpShare ids.length ratio) ++ ids.drop (hpShare ids.length ratio) = ids :=
    List.take_append_drop _ _
  have across : ∀ a ∈ ids.take (hpShare ids.length ratio),
      ∀ b ∈ ids.drop (hpShare ids.length ratio), a < b := by
    rw [← cut] at sorted
    exact (List.pairwise_append.mp sorted).2.2
  refine ⟨?_, ?_, ?_, ?_⟩
  · rw [coreSet_fromDesc_listText some_hp, coreSet_fromDesc_listText some_lp,
      List.disjoint_toFinset_iff_disjoint]
    intro a left right
    exact Nat.lt_irrefl a (across a left a right)
  · rw [coreSet_fromDesc_listText some_hp, coreSet_fromDesc_listText some_lp,
      ← List.toFinset_append, cut]
  · rw [len_eq_card, coreSet_fromDesc_listText some_hp,
      List.toFinset_card_of_nodup distinct, List.toFinset_card_of_nodup (distinct.sublist (List.take_sublist _ _)),
      List.length_take, min_eq_left]
    have inside : 0 < (ids.drop (hpShare ids.length ratio)).length := List.length_pos_of_ne_nil some_lp
    rw [List.length_drop] at inside
    omega
  · intro a left b right
    rw [coreSet_fromDesc_listText some_hp, List.mem_toFinset] at left
    rw [coreSet_fromDesc_listText some_lp, List.mem_toFinset] at right
    exact across a left b right

theorem coreSet_fromDesc_nil : coreSet (fromDesc (listText [])) = {0} := by decide

theorem not_isSplit_of_no_hp {ids : List Nat} {ratio : Nat} (none_hp : hpShare ids.length ratio = 0)
    (distinct : ids.Nodup) (lp : Nat) :
    ¬ IsSplit ids.toFinset ratio (fromDesc (listText [])) lp := by
  intro split
  have share := split.share
  rw [len_eq_card, coreSet_fromDesc_nil, List.toFinset_card_of_nodup distinct, none_hp] at share
  simp at share

theorem not_isSplit_of_no_lp {ids : List Nat} (more : ids ≠ []) {ratio : Nat} :
    ¬ IsSplit ids.toFinset ratio (fromDesc (listText ids)) (fromDesc (listText [])) := by
  intro split
  have cover := split.cover
  have disjoint := split.disjoint
  rw [coreSet_fromDesc_listText more, coreSet_fromDesc_nil] at cover disjoint
  have inside : 0 ∈ ids.toFinset := by
    rw [← cover]
    exact Finset.mem_union_right _ (Finset.mem_singleton_self 0)
  exact Finset.disjoint_left.mp disjoint inside (Finset.mem_singleton_self 0)

theorem descCores_nonempty {items : List Item} (more : items ≠ []) : descCores items ≠ ∅ := by
  cases items with
  | nil => exact absurd rfl more
  | cons item rest =>
      have first : item.cores.Nonempty := by
        cases item with
        | single n => exact Finset.singleton_nonempty _
        | range a b => exact Finset.nonempty_Icc.mpr (by omega)
      exact (first.mono Finset.subset_union_left).ne_empty

/-- The split is right exactly when the ratio leaves at least one core on each side: no
    rounding, order or gap in the description matters beyond that. -/
theorem getHpLpCores_isSplit_iff {items : List Item} (more : items ≠ []) {ratio : Nat}
    (percent : ratio ≤ 100) :
    IsSplit (descCores items) ratio
        (getHpLpCores (descText items) ratio).1 (getHpLpCores (descText items) ratio).2 ↔
      100 ≤ (descCores items).card * ratio ∧ ratio < 100 := by
  let ids := (fromDesc (descText items)).bitIndices
  have sorted : ids.Pairwise (· < ·) := Nat.bitIndices_sorted.pairwise
  have distinct : ids.Nodup := Nat.bitIndices_nodup
  have described : ids.toFinset = descCores items := coreSet_fromDesc more
  have total : ids.length = (descCores items).card := by
    rw [← described, List.toFinset_card_of_nodup distinct]
  have nonempty : 0 < ids.length := by
    rw [total]
    exact Finset.card_pos.mpr (Finset.nonempty_iff_ne_empty.mpr (descCores_nonempty more))
  rw [getHpLpCores_of_ids sorted rfl ratio, ← described, List.toFinset_card_of_nodup distinct,
    ← hpShare_lt_iff nonempty]
  have some_hp : 1 ≤ hpShare ids.length ratio ↔ 100 ≤ ids.length * ratio := by
    rw [le_hpShare_iff, Nat.one_mul]
  rw [← some_hp]
  constructor
  · intro split
    constructor
    · by_contra short
      have none_hp : hpShare ids.length ratio = 0 := Nat.eq_zero_of_not_pos short
      rw [none_hp, List.take_zero] at split
      exact not_isSplit_of_no_hp none_hp distinct _ split
    · by_contra whole
      have all_hp : hpShare ids.length ratio = ids.length := by
        have hundred : ratio = 100 := by
          rw [hpShare_lt_iff nonempty] at whole
          omega
        rw [hpShare, hundred, Nat.mul_div_cancel _ (by omega)]
      rw [all_hp, List.take_length, List.drop_length] at split
      exact not_isSplit_of_no_lp (List.ne_nil_of_length_pos nonempty) split
  · rintro ⟨low, high⟩
    apply isSplit_of_cut sorted
    · exact List.ne_nil_of_length_pos (by rw [List.length_take]; omega)
    · exact List.ne_nil_of_length_pos (by rw [List.length_drop]; omega)

/-- `0-3` at 50 percent: the condition is met. -/
theorem getHpLpCores_isSplit_half :
    IsSplit {0, 1, 2, 3} 50
      (getHpLpCores (descText [.range (.ofNat 0) (.ofNat 3)]) 50).1
      (getHpLpCores (descText [.range (.ofNat 0) (.ofNat 3)]) 50).2 := by
  have described : descCores [.range (.ofNat 0) (.ofNat 3)] = {0, 1, 2, 3} := by decide
  rw [← described]
  exact (getHpLpCores_isSplit_iff (by simp) (by omega)).mpr (by decide)

/-- `4-7` at 0 percent: the high-priority side is core 0, which is not even described. -/
theorem getHpLpCores_not_isSplit_zero :
    ¬ IsSplit (descCores [.range (.ofNat 4) (.ofNat 7)]) 0
      (getHpLpCores (descText [.range (.ofNat 4) (.ofNat 7)]) 0).1
      (getHpLpCores (descText [.range (.ofNat 4) (.ofNat 7)]) 0).2 := by
  intro split
  have empty : (getHpLpCores (descText [.range (.ofNat 4) (.ofNat 7)]) 0).1 = fromDesc (listText []) := by
    simp [getHpLpCores_eq, hpShare]
  have share := split.share
  rw [empty, len_eq_card, coreSet_fromDesc_nil] at share
  simp [hpShare] at share

end KvmWorkload.Reporter
