import KvmWorkload.Reporter.CoreText
import KvmWorkload.Reporter.HpLpSplit

/-! # Splitting a hyper-threaded core set

With HT on, the generator first separates the two thread halves, splits each
half at the requested ratio and joins the results again.  The three splits are
chained through the explicit list and the joins through the compressed text.
-/

namespace KvmWorkload.Reporter

/-- `HP_WL` and `LP_WL`. -/
def hpWl : List Text := ["mlc_benchmark".toList, "rn50".toList, "specjbb".toList, "widedeep".toList]
def lpWl : List Text := ["mlc_benchmark".toList, "rn50".toList, "specjbb".toList]

/-- The core sets that `__main__` derives from its options. -/
def splitCores (desc : Text) (ratio : Nat) (ht : Text) : Nat × Nat :=
  if ht.map Char.toLower = "off".toList then
    getHpLpCores desc ratio
  else
    let (ht0, ht1) := getHpLpCores desc 50
    let (hp0, lp0) := getHpLpCores (allCores ht0) ratio
    let (hp1, lp1) := getHpLpCores (allCores ht1) ratio
    (fromDesc (str hp0 ++ ',' :: str hp1), fromDesc (str lp0 ++ ',' :: str lp1))

/-- A generated script: its path, its rows and the mode that `os.chmod` gets. -/
structure Script where
  fileName : Text
  rows : List Text
  mode : Nat

/-- The rows of one script. -/
def conf (hp0 lp0 : Nat) (hp lp : Text) : List Text :=
  ["#!/bin/bash".toList, [],
   "source process/hwdrc_process.inc.sh".toList,
   "source hook/pqos_msr.inc.sh".toList,
   "# source hook/emon.inc.sh".toList, [],
   "LP_CAT=0x7fff".toList,
   "LP_MBA=10 # change it if needed".toList, [],
   "HP_CORES=".toList ++ str hp0,
   "LP_CORES=".toList ++ str lp0,
   "HP_INSTANCES=".toList ++ decimal (len hp0),
   "LP_INSTANCES=".toList ++ decimal (len lp0),
   "hp=".toList ++ hp,
   "lp=".toList ++ lp,
   "mba_scaling $hp $lp".toList,
   "#KEEP_LP_RUNNING=0".toList,
   "workload_pair $hp $lp".toList]

/-- `creat_script`; the mode is the decimal number 755. -/
def creatScript (hp lp : Text) (conf : List Text) : Script where
  fileName := "../".toList ++ hp ++ '-' :: lp ++ "_colocation.sh".toList
  rows := conf
  mode := 755

/-- The scripts that `__main__` writes, one for each pair of workloads. -/
def main (desc : Text) (ratio : Nat) (ht : Text) : List Script :=
  let (hp0, lp0) := splitCores desc ratio ht
  hpWl.flatMap fun hp => lpWl.map fun lp => creatScript hp lp (conf hp0 lp0 hp lp)

theorem coreSet_fromDesc_range' {start count : Nat} (more : 0 < count) :
    coreSet (fromDesc (listText (List.range' start count))) = Finset.Ico start (start + count) := by
  rw [coreSet_fromDesc_listText (by simp; omega), List.toFinset_range'_1]

theorem fromDesc_range'_pos {start count : Nat} (more : 0 < count) :
    0 < fromDesc (listText (List.range' start count)) := by
  apply pos_of_mem_coreSet (i := start)
  rw [coreSet_fromDesc_range' more, Finset.mem_Ico]
  omega

/-- The two thread halves: `n` cores from `b` on and their siblings `S` further up. -/
def siblingDesc (b n S : Nat) : Text :=
  rangeText b (b + n - 1) ++ ',' :: rangeText (b + S) (b + S + n - 1)

theorem coreSet_siblingDesc {b n S : Nat} (more : 0 < n) :
    coreSet (fromDesc (siblingDesc b n S)) = (List.range' b n ++ List.range' (b + S) n).toFinset := by
  have asItems : siblingDesc b n S =
      descText [.range (.ofNat b) (.ofNat (b + n - 1)), .range (.ofNat (b + S)) (.ofNat (b + S + n - 1))] := by
    simp [siblingDesc, rangeText, descText, Item.text]
  rw [asItems, coreSet_fromDesc (by simp)]
  ext i
  simp [descCores, Item.cores, List.mem_range'_1]
  omega

theorem siblings_sorted {b n S : Nat} (apart : n ≤ S) :
    (List.range' b n ++ List.range' (b + S) n).Pairwise (· < ·) := by
  rw [List.pairwise_append]
  refine ⟨List.pairwise_lt_range', List.pairwise_lt_range', ?_⟩
  intro i low j high
  rw [List.mem_range'_1] at low high
  omega

theorem getHpLpCores_siblingDesc {b n S : Nat} (more : 0 < n) (apart : n ≤ S) :
    getHpLpCores (siblingDesc b n S) 50 =
      (fromDesc (listText (List.range' b n)), fromDesc (listText (List.range' (b + S) n))) := by
  have share : hpShare (List.range' b n ++ List.range' (b + S) n).length 50 = n := by
    simp [hpShare]
    omega
  rw [getHpLpCores_of_ids (siblings_sorted apart) (coreSet_siblingDesc more), share,
    List.take_left' (by simp), List.drop_left' (by simp)]

theorem getHpLpCores_half {start n : Nat} (more : 0 < n) (ratio : Nat)
    (inside : hpShare n ratio ≤ n) :
    getHpLpCores (allCores (fromDesc (listText (List.range' start n)))) ratio =
      (fromDesc (listText (List.range' start (hpShare n ratio))),
       fromDesc (listText (List.range' (start + hpShare n ratio) (n - hpShare n ratio)))) := by
  have denotes : coreSet (fromDesc (allCores (fromDesc (listText (List.range' start n))))) =
      (List.range' start n).toFinset := by
    rw [fromDesc_allCores (fromDesc_range'_pos more), coreSet_fromDesc_range' more, List.toFinset_range'_1]
  have cut : List.range' start n = List.range' start (hpShare n ratio) ++
      List.range' (start + hpShare n ratio) (n - hpShare n ratio) := by
    rw [List.range'_append_1, Nat.add_sub_cancel' inside]
  rw [getHpLpCores_of_ids List.pairwise_lt_range' denotes, List.length_range', cut,
    List.take_left' List.length_range', List.drop_left' List.length_range']

/-- What splitting a hyper-threaded set should give. -/
structure SiblingSplit (b n S : Nat) (hp lp : Finset Nat) : Prop where
  disjoint : Disjoint hp lp
  cover : hp ∪ lp = Finset.Ico b (b + n) ∪ Finset.Ico (b + S) (b + S + n)
  hpSiblings : ∀ i < n, (b + i ∈ hp ↔ b + S + i ∈ hp)
  lpSiblings : ∀ i < n, (b + i ∈ lp ↔ b + S + i ∈ lp)

theorem siblingSplit_of_cut {b n S k : Nat} (apart : n ≤ S) (inside : k ≤ n) :
    SiblingSplit b n S
      (Finset.Ico b (b + k) ∪ Finset.Ico (b + S) (b + S + k))
      (Finset.Ico (b + k) (b + n) ∪ Finset.Ico (b + S + k) (b + S + n)) := by
  constructor
  · rw [Finset.disjoint_left]
    intro i high low
    simp only [Finset.mem_union, Finset.mem_Ico] at high low
    omega
  · ext i
    simp only [Finset.mem_union, Finset.mem_Ico]
    omega
  · intro i _
    simp only [Finset.mem_union, Finset.mem_Ico]
    omega
  · intro i _
    simp only [Finset.mem_union, Finset.mem_Ico]
    omega

section HtOn

variable {b n S ratio : Nat} {ht : Text}

theorem coreSet_splitCores_siblingDesc (on : ht.map Char.toLower ≠ "off".toList) (apart : n ≤ S)
    (some_hp : 1 ≤ hpShare n ratio) (some_lp : hpShare n ratio ≤ n - 1) (more : 2 ≤ n) :
    coreSet (splitCores (siblingDesc b n S) ratio ht).1 =
        Finset.Ico b (b + hpShare n ratio) ∪ Finset.Ico (b + S) (b + S + hpShare n ratio) ∧
      coreSet (splitCores (siblingDesc b n S) ratio ht).2 =
        Finset.Ico (b + hpShare n ratio) (b + n) ∪ Finset.Ico (b + S + hpShare n ratio) (b + S + n) := by
  have nonempty : 0 < n := by omega
  have inside : hpShare n ratio ≤ n := by omega
  have rest : 0 < n - hpShare n ratio := by omega
  have upTo : ∀ start, start + hpShare n ratio + (n - hpShare n ratio) = start + n := by omega
  simp only [splitCores, if_neg on, getHpLpCores_siblingDesc nonempty apart,
    getHpLpCores_half nonempty ratio inside]
  constructor
  · rw [coreSet_fromDesc_join (fromDesc_range'_pos some_hp) (fromDesc_range'_pos some_hp),
      coreSet_fromDesc_range' some_hp, coreSet_fromDesc_range' some_hp]
  · rw [coreSet_fromDesc_join (fromDesc_range'_pos rest) (fromDesc_range'_pos rest),
      coreSet_fromDesc_range' rest, coreSet_fromDesc_range' rest, upTo, upTo]

/-- The settings of every generated script: the core lists read back to `hp` and `lp`, and the
    instance counts are their sizes. -/
structure Script.Sets (script : Script) (hp lp : Finset Nat) : Prop where
  hpCores : ∃ text, "HP_CORES=".toList ++ text ∈ script.rows ∧ coreSet (fromDesc text) = hp
  lpCores : ∃ text, "LP_CORES=".toList ++ text ∈ script.rows ∧ coreSet (fromDesc text) = lp
  hpInstances : "HP_INSTANCES=".toList ++ decimal hp.card ∈ script.rows
  lpInstances : "LP_INSTANCES=".toList ++ decimal lp.card ∈ script.rows

theorem sets_conf {hp0 lp0 : Nat} (some_hp : 0 < hp0) (some_lp : 0 < lp0) (hp lp : Text) :
    (creatScript hp lp (conf hp0 lp0 hp lp)).Sets (coreSet hp0) (coreSet lp0) := by
  have row : ∀ k text, (conf hp0 lp0 hp lp)[k]? = some text →
      text ∈ (creatScript hp lp (conf hp0 lp0 hp lp)).rows := fun _ _ found => List.mem_of_getElem? found
  constructor
  · exact ⟨str hp0, row 9 _ rfl, by rw [fromDesc_str some_hp]⟩
  · exact ⟨str lp0, row 10 _ rfl, by rw [fromDesc_str some_lp]⟩
  · rw [← len_eq_card]
    exact row 11 _ rfl
  · rw [← len_eq_card]
    exact row 12 _ rfl

/-- Every workload pair gets a script, and all scripts carry the same sibling-respecting split. -/
theorem main_keeps_siblings (on : ht.map Char.toLower ≠ "off".toList) (more : 2 ≤ n) (apart : n ≤ S)
    (some_hp : 1 ≤ n * ratio / 100) (some_lp : n * ratio / 100 ≤ n - 1) :
    ∃ hp lp, SiblingSplit b n S hp lp ∧
      (main (siblingDesc b n S) ratio ht).length = hpWl.length * lpWl.length ∧
      ∀ script ∈ main (siblingDesc b n S) ratio ht, script.Sets hp lp := by
  obtain ⟨high, low⟩ := coreSet_splitCores_siblingDesc (b := b) on apart some_hp some_lp more
  refine ⟨_, _, siblingSplit_of_cut apart (k := n * ratio / 100) (by omega), by simp [main, hpWl, lpWl], ?_⟩
  have hpPos : 0 < (splitCores (siblingDesc b n S) ratio ht).1 := by
    apply pos_of_mem_coreSet (i := b)
    rw [high, Finset.mem_union, Finset.mem_Ico, hpShare]
    omega
  have lpPos : 0 < (splitCores (siblingDesc b n S) ratio ht).2 := by
    apply pos_of_mem_coreSet (i := b + n - 1)
    rw [low, Finset.mem_union, Finset.mem_Ico, hpShare]
    omega
  intro script written
  obtain ⟨hp, -, written⟩ := List.mem_flatMap.mp written
  obtain ⟨lp, -, rfl⟩ := List.mem_map.mp written
  have sets := sets_conf hpPos lpPos hp lp
  rwa [high, low] at sets

/-- `0-3,8-11` with HT on at 50 percent. -/
theorem main_keeps_siblings_fourCores :
    siblingDesc 0 4 8 = "0-3,8-11".toList ∧
      ∃ hp lp, SiblingSplit 0 4 8 hp lp ∧
        (main (siblingDesc 0 4 8) 50 "on".toList).length = hpWl.length * lpWl.length ∧
        ∀ script ∈ main (siblingDesc 0 4 8) 50 "on".toList, script.Sets hp lp :=
  ⟨by decide, main_keeps_siblings (by decide) (by decide) (by decide) (by decide) (by decide)⟩

end HtOn

end KvmWorkload.Reporter
