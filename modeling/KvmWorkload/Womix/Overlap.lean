import KvmWorkload.Womix.Process

/-! # Which workloads run at the same time

A run of a validation script starts the low-priority workload in the background
and measures the high-priority one.  Behind it `wait_docker_stop` waits until
docker lists no container any more.  A workload that is not in a container is
not waited for, and may go on while later runs are measured.
-/

namespace KvmWorkload.Womix

/-- `docker ps -q`.  A container whose workload is slow may not be up when it is first called. -/
def docker (slow : Text → Bool) : Listing Job where
  lists job := decide (kind job.workload = .container)
  slow job := slow job.workload

def Brief (job : Job) : Prop := kind job.workload = .brief

/-- What runs beside the measured workload belongs to the same run. -/
def Alone (s : Running Command Job) : Prop :=
  ∀ job ∈ s.current, ∀ other ∈ s.background, ¬ Brief other.job →
    ∃ path, job.dataFolder = path ++ "/hp".toList ∧ other.job.dataFolder = path ++ "/lp".toList

theorem measuredRun_of_mem {env : Env} {date : Nat → Text} {hp lp : Text} {run : Round Command Job} (member : run ∈ runs env date hp lp) :
    ∃ path, run.called = runHp env hp path ∧
      (run.spawned = runLp env lp path ∨ run.spawned = runLp env "empty".toList path) := by
  simp only [runs, pairRuns, List.mem_append, List.mem_map, List.mem_cons, List.not_mem_nil, or_false] at member
  obtain ⟨lpMba, -, rfl⟩ | rfl | rfl | rfl | rfl := member
  · exact ⟨_, rfl, .inl rfl⟩
  · exact ⟨_, rfl, .inl rfl⟩
  · exact ⟨_, rfl, .inr rfl⟩
  · exact ⟨_, rfl, .inl rfl⟩
  · exact ⟨_, rfl, .inr rfl⟩

/-- `wait_docker_stop` does not overlook the workload. -/
def Waited (slow : Text → Bool) (lp : Text) : Prop := kind lp ≠ .process ∧ (kind lp = .container → slow lp = false)

section Alone

variable {slow : Text → Bool} {env : Env} {date : Nat → Text} {hp lp : Text}

theorem alone_of_waited (waited : Waited slow lp) {s : Running Command Job}
    (reached : Reaches (docker slow) ((runs env date hp lp).flatMap Round.actions) s) : Alone s := by
  have kinds : ∀ run ∈ runs env date hp lp, (docker slow).Waited Brief run.spawned := by
    intro run member
    obtain ⟨path, -, same | same⟩ := measuredRun_of_mem member
    · rw [same]
      change (decide (kind lp = .container) = true ∧ slow lp = false) ∨ kind lp = .brief
      rw [decide_eq_true_iff]
      cases found : kind lp with
      | container => exact .inl ⟨rfl, waited.2 found⟩
      | process => exact absurd found waited.1
      | brief => exact .inr rfl
    · have brief : kind "empty".toList = .brief := by decide
      rw [same]
      exact .inr brief
  intro job running other member lasting
  obtain ⟨run, inside, rfl, only⟩ := partner_of_reaches kinds reached running
  obtain ⟨path, called, spawned⟩ := measuredRun_of_mem inside
  have same : other.job = run.spawned := (only other member).resolve_right lasting
  refine ⟨path, by rw [called]; rfl, ?_⟩
  rcases spawned with spawned | spawned <;> rw [same, spawned] <;> rfl

theorem not_alone_of_overlooked (lasting : kind lp ≠ .brief) (overlooked : ¬ Waited slow lp) :
    ∃ s, Reaches (docker slow) ((runs env date hp lp).flatMap Round.actions) s ∧ ¬ Alone s := by
  have cut : runs env date hp lp =
      rdtRun env (date 0) hp lp 10 :: rdtRun env (date 0) hp lp 20 :: (runs env date hp lp).drop 2 := rfl
  have unseen : (docker slow).sees ⟨(rdtRun env (date 0) hp lp 10).spawned, false⟩ = false := by
    change (decide (kind lp = .container) && (false || !slow lp)) = false
    rw [Waited, not_and_or, not_not, Classical.not_imp, Bool.not_eq_false] at overlooked
    rcases overlooked with process | ⟨-, slowly⟩
    · rw [process]
      rfl
    · rw [slowly, Bool.not_true, Bool.or_false, Bool.and_false]
  obtain ⟨s, reached, running, left⟩ := leftover_reaches unseen (rdtRun env (date 0) hp lp 20)
    ((runs env date hp lp).drop 2)
  rw [cut]
  refine ⟨s, reached, fun alone => ?_⟩
  obtain ⟨path, measured, other⟩ := alone _ running _ left lasting
  have same : root (date 0) hp lp ++ "/01_rdt_MBA".toList ++ decimal 20 =
      root (date 0) hp lp ++ "/01_rdt_MBA".toList ++ decimal 10 :=
    (List.append_cancel_right measured).trans (List.append_cancel_right other).symm
  exact absurd (decimal_injective (List.append_cancel_left same)) (by decide)

end Alone

theorem runs_alone_iff {slow : Text → Bool} {lp : Text} (lasting : kind lp ≠ .brief) (env : Env) (date : Nat → Text)
    (hp : Text) :
    (∀ s, Reaches (docker slow) ((runs env date hp lp).flatMap Round.actions) s → Alone s) ↔ Waited slow lp := by
  refine ⟨fun alone => ?_, fun waited s reached => alone_of_waited waited reached⟩
  by_contra overlooked
  obtain ⟨s, reached, overlaps⟩ := @not_alone_of_overlooked slow env date hp lp lasting overlooked
  exact overlaps (alone s reached)

theorem lpRow_mem_conf {hp0 lp0 : Nat} {hp lp value : Text} :
    "lp=".toList ++ value ∈ Reporter.conf hp0 lp0 hp lp ↔ lp = value := by
  have only : (Reporter.conf hp0 lp0 hp lp).filter (fun row => row.head? = some 'l') = ["lp=".toList ++ lp] := rfl
  constructor
  · intro member
    have found : "lp=".toList ++ value ∈ (Reporter.conf hp0 lp0 hp lp).filter fun row => row.head? = some 'l' :=
      List.mem_filter.mpr ⟨member, rfl⟩
    rw [only, List.mem_singleton] at found
    exact (List.append_cancel_left found).symm
  · rintro rfl
    have found : "lp=".toList ++ lp ∈ (Reporter.conf hp0 lp0 hp lp).filter fun row => row.head? = some 'l' := by
      rw [only, List.mem_singleton]
    exact List.mem_of_mem_filter found

/-- In every order of events each run of a generated script is measured beside its own low-priority
    workload only, exactly when that is not `mlc_benchmark` and its container is up when the script
    looks for it. -/
theorem generated_alone_iff (slow : Text → Bool) (date : Nat → Text) (desc : Text) (ratio : Nat) (ht : Text)
    {script : Reporter.Script} (written : script ∈ Reporter.main desc ratio ht) :
    (∀ s, Reaches (docker slow) (runScript date script.rows).issued s → Alone s) ↔
      ∀ lp, "lp=".toList ++ lp ∈ script.rows → lp ≠ "mlc_benchmark".toList ∧ slow lp = false := by
  obtain ⟨hp, -, lp, lpIn, rows, issued⟩ := issued_main date written
  have kinds : ∀ lp ∈ Reporter.lpWl, kind lp = if lp = "mlc_benchmark".toList then .process else .container := by decide
  have found := kinds lp lpIn
  rw [issued, rows, runs_alone_iff (by rw [found]; split <;> decide), Waited, found]
  simp only [lpRow_mem_conf, forall_eq']
  by_cases mlc : lp = "mlc_benchmark".toList
  · rw [if_pos mlc]
    exact iff_of_false (fun waited => waited.1 rfl) (fun both => both.1 mlc)
  · rw [if_neg mlc]
    exact ⟨fun waited => ⟨mlc, waited.2 rfl⟩, fun both => ⟨by decide, fun _ => both.2⟩⟩

/-- The first script that is written for `0-3` can have two of them at once. -/
theorem generated_alone_mlc :
    ∃ script ∈ Reporter.main "0-3".toList 50 "off".toList,
      ¬ ∀ s, Reaches (docker fun _ => false) (runScript (fun _ => "WW46.7".toList) script.rows).issued s → Alone s := by
  have first : Reporter.creatScript "mlc_benchmark".toList "mlc_benchmark".toList
      (Reporter.conf (Reporter.splitCores "0-3".toList 50 "off".toList).1
        (Reporter.splitCores "0-3".toList 50 "off".toList).2 "mlc_benchmark".toList "mlc_benchmark".toList) ∈
      Reporter.main "0-3".toList 50 "off".toList :=
    List.mem_flatMap.mpr ⟨_, List.mem_cons_self, List.mem_map.mpr ⟨_, List.mem_cons_self, rfl⟩⟩
  refine ⟨_, first, ?_⟩
  rw [generated_alone_iff _ _ _ _ _ first]
  exact fun waited => (waited _ (lpRow_mem_conf.mpr rfl)).1 rfl

end KvmWorkload.Womix
