import KvmWorkload.Lib.Exec
import KvmWorkload.VmCloudInit.Host

/-! # The CPUs of a socket

`get_cpu_pool` reads a socket's line of `numactl -H`.  With hyper-threading the
listing holds the physical CPUs and behind them their siblings; the loop
reorders it so that the two threads of a core are neighbours.
-/

namespace KvmWorkload.VmCloudInit

variable {α : Type}

/-- The loop for hyper-threading: pop the last entry, then the middle one of what is left. -/
def htLoop (pool1 pool2 : List α) : Except PyError (List α) :=
  if more : pool1 = [] then .ok pool2
  else
    let rest := pool1.dropLast
    match rest[rest.length / 2]? with
    | none => .error .indexError
    | some middle => htLoop (rest.eraseIdx (rest.length / 2)) (pool2 ++ [pool1.getLast more, middle])
termination_by pool1.length
decreasing_by
  have shrinks := List.length_eraseIdx_le pool1.dropLast (pool1.dropLast.length / 2)
  have positive := List.length_pos_of_ne_nil more
  rw [List.length_dropLast] at shrinks
  simp only [List.length_dropLast]
  omega

def getCpuPool (env : Env) (socket : Nat) : Except PyError (List Nat) :=
  match env.numactl socket with
  | none => .error .indexError
  | some pool1 => if env.ht then htLoop pool1 [] else .ok pool1

@[simp] theorem htLoop_nil (pool2 : List α) : htLoop [] pool2 = .ok pool2 := by
  rw [htLoop, dif_pos rfl]

theorem htLoop_concat (front : List α) (last : α) (pool2 : List α) :
    htLoop (front ++ [last]) pool2 =
      match front[front.length / 2]? with
      | none => .error .indexError
      | some middle => htLoop (front.eraseIdx (front.length / 2)) (pool2 ++ [last, middle]) := by
  rw [htLoop, dif_neg (by simp)]
  simp only [List.dropLast_concat, List.getLast_append_singleton]

theorem htLoop_round {lows highs : List α} (halves : lows.length = highs.length) (low high : α)
    (pool2 : List α) :
    htLoop ((lows ++ [low]) ++ (highs ++ [high])) pool2 =
      htLoop (lows ++ highs) (pool2 ++ [high, low]) := by
  have middle : (lows ++ low :: highs).length / 2 = lows.length := by
    simp only [List.length_append, List.length_cons]
    omega
  rw [show (lows ++ [low]) ++ (highs ++ [high]) = (lows ++ low :: highs) ++ [high] by simp,
    htLoop_concat, middle]
  simp [List.eraseIdx_append_of_length_le]

/-- On a listing of whole cores the loop puts the two threads of a core next to each other, the
    last core first. -/
theorem htLoop_cores (cores : List (α × α)) (pool2 : List α) :
    htLoop (cores.map Prod.fst ++ cores.map Prod.snd) pool2 =
      .ok (pool2 ++ cores.reverse.flatMap fun core => [core.2, core.1]) := by
  -- Each round takes one core off the end, so the induction is on the list from its end.
  induction cores using List.reverseRecOn generalizing pool2 with
  | nil => simp
  | append_singleton cores core ih =>
      rw [List.map_append, List.map_append, List.map_singleton, List.map_singleton,
        htLoop_round (by simp), ih]
      simp

/-- No CPU is lost or doubled. -/
theorem flatMap_cores_perm (cores : List (α × α)) :
    (cores.reverse.flatMap fun core => [core.2, core.1]).Perm
      (cores.map Prod.fst ++ cores.map Prod.snd) := by
  refine ((List.reverse_perm cores).flatMap_right _).trans ?_
  induction cores with
  | nil => exact .nil
  | cons core cores ih =>
      exact (List.Perm.swap ..).trans (((ih.cons core.2).trans List.perm_middle.symm).cons core.1)

theorem exists_cores {listing : List α} (even : listing.length % 2 = 0) :
    ∃ cores : List (α × α), listing = cores.map Prod.fst ++ cores.map Prod.snd := by
  refine ⟨(listing.take (listing.length / 2)).zip (listing.drop (listing.length / 2)), ?_⟩
  have same : (listing.take (listing.length / 2)).length =
      (listing.drop (listing.length / 2)).length := by
    simp only [List.length_take, List.length_drop]
    omega
  rw [List.map_fst_zip same.le, List.map_snd_zip same.ge, List.take_append_drop]

theorem htLoop_odd {listing : List α} (odd : listing.length % 2 = 1) (pool2 : List α) :
    htLoop listing pool2 = .error .indexError := by
  induction size : listing.length using Nat.strongRecOn generalizing listing pool2 with
  | ind size ih =>
      obtain ⟨front, last, rfl⟩ : ∃ front last, listing = front ++ [last] :=
        ⟨_, _, (List.dropLast_concat_getLast (by rintro rfl; simp at odd)).symm⟩
      rw [htLoop_concat]
      by_cases done : front = []
      · subst done
        rfl
      · have inside : front.length / 2 < front.length :=
          Nat.div_lt_self (List.length_pos_of_ne_nil done) (by decide)
        rw [List.getElem?_eq_getElem inside]
        simp only [List.length_append, List.length_singleton] at odd size
        have shorter := List.length_eraseIdx_of_lt inside
        exact ih _ (by omega) (by omega) _ rfl

/-- The body of the `while` loop on the two lists. -/
def htRound : EStateM PyError (List α × List α) Unit := fun (pool1, pool2) =>
  match pool1.getLast? with
  | none => .error .indexError (pool1, pool2)
  | some last =>
      let rest := pool1.dropLast
      match rest[rest.length / 2]? with
      | none => .error .indexError (rest, pool2 ++ [last])
      | some middle => .ok () (rest.eraseIdx (rest.length / 2), pool2 ++ [last, middle])

/-- `len(pool1) > 0`. -/
def htMore (pools : List α × List α) : Bool := !pools.1.isEmpty

/-- The `while` loop, cut off after a number of rounds. -/
def htWhile (rounds : Nat) : EStateM PyError (List α × List α) Unit := whileFor htMore htRound rounds

/-- A run of the loop has come to its end, with the given outcome. -/
def EndsIn (run : EStateM.Result PyError (List α × List α) Unit) (outcome : Except PyError (List α)) : Prop :=
  match run with
  | .ok _ pools => pools.1 = [] ∧ outcome = .ok pools.2
  | .error e _ => outcome = .error e

theorem htWhile_ends {rounds : Nat} {pool1 : List α} (enough : pool1.length ≤ rounds) (pool2 : List α) :
    EndsIn (htWhile rounds (pool1, pool2)) (htLoop pool1 pool2) := by
  induction rounds generalizing pool1 pool2 with
  | zero =>
      obtain rfl := List.eq_nil_of_length_eq_zero (Nat.le_zero.mp enough)
      exact ⟨rfl, htLoop_nil pool2⟩
  | succ rounds ih =>
      rcases List.eq_nil_or_concat pool1 with rfl | ⟨front, last, rfl⟩
      · rw [htWhile, whileFor_of_done rfl]
        exact ⟨rfl, htLoop_nil pool2⟩
      · rw [List.concat_eq_append] at enough ⊢
        have more : htMore (front ++ [last], pool2) = true := by simp [htMore]
        rw [htLoop_concat]
        cases middle : front[front.length / 2]? with
        | none =>
            have stops : htRound (front ++ [last], pool2) = .error .indexError (front, pool2 ++ [last]) := by
              simp only [htRound, List.getLast?_concat, List.dropLast_concat, middle]
            rw [htWhile, whileFor_succ_of_error more stops]
            rfl
        | some cpu =>
            have round : htRound (front ++ [last], pool2) =
                .ok () (front.eraseIdx (front.length / 2), pool2 ++ [last, cpu]) := by
              simp only [htRound, List.getLast?_concat, List.dropLast_concat, middle]
            rw [htWhile, whileFor_succ_of_more more round]
            refine ih ?_ _
            have shorter := List.length_eraseIdx_le front (front.length / 2)
            rw [List.length_append, List.length_singleton] at enough
            omega

theorem getElem?_flatMap_pair {β : Type} (items : List β) (f g : β → α) (k : Nat) :
    (items.flatMap fun item => [f item, g item])[2 * k]? = items[k]?.map f ∧
      (items.flatMap fun item => [f item, g item])[2 * k + 1]? = items[k]?.map g := by
  induction items generalizing k with
  | nil => simp
  | cons item items ih =>
      cases k with
      | zero => simp
      | succ k => simpa [Nat.mul_succ] using ih k

theorem getElem?_cores (cores : List (α × α)) {k : Nat} (inside : k < cores.length) :
    (cores.reverse.flatMap fun core => [core.2, core.1])[2 * k]? =
        (cores.map Prod.fst ++ cores.map Prod.snd)[2 * cores.length - 1 - k]? ∧
      (cores.reverse.flatMap fun core => [core.2, core.1])[2 * k + 1]? =
        (cores.map Prod.fst ++ cores.map Prod.snd)[cores.length - 1 - k]? := by
  have position : cores.reverse[k]? = cores[cores.length - 1 - k]? := List.getElem?_reverse inside
  obtain ⟨first, second⟩ := getElem?_flatMap_pair cores.reverse Prod.snd Prod.fst k
  rw [first, second, position]
  constructor
  · rw [List.getElem?_append_right (by rw [List.length_map]; omega), List.getElem?_map, List.length_map]
    congr 2
    omega
  · rw [List.getElem?_append_left (by rw [List.length_map]; omega), List.getElem?_map]

/-- The loop comes to an end on every listing; one of even length is interleaved from its end, the
    second half first, and one of odd length is an error. -/
theorem htLoop_interleaves (x : List α) :
    (∀ rounds, x.length ≤ rounds → EndsIn (htWhile rounds (x, [])) (htLoop x [])) ∧
      (∀ n, x.length = 2 * n → ∃ pool2, htLoop x [] = .ok pool2 ∧ pool2.Perm x ∧
        ∀ k < n, pool2[2 * k]? = x[2 * n - 1 - k]? ∧ pool2[2 * k + 1]? = x[n - 1 - k]?) ∧
      (x.length % 2 = 1 → htLoop x [] = .error .indexError) := by
  refine ⟨fun rounds enough => htWhile_ends enough [], ?_, fun odd => htLoop_odd odd []⟩
  intro n size
  have even : x.length % 2 = 0 := by omega
  obtain ⟨cores, rfl⟩ := exists_cores even
  have count : cores.length = n := by
    rw [List.length_append, List.length_map, List.length_map] at size
    omega
  subst count
  exact ⟨_, htLoop_cores cores [], flatMap_cores_perm cores, fun k inside => getElem?_cores cores inside⟩

theorem htLoop_interleaves_two_cores :
    EndsIn (htWhile 4 ([0, 1, 20, 21], [])) (htLoop [0, 1, 20, 21] []) ∧
      (∃ pool2, htLoop [0, 1, 20, 21] [] = .ok pool2 ∧ pool2.Perm [0, 1, 20, 21] ∧
        pool2[0]? = some 21 ∧ pool2[1]? = some 1 ∧ pool2[2]? = some 20 ∧ pool2[3]? = some 0) ∧
      htLoop [0, 1, 20] [] = .error .indexError := by
  obtain ⟨ends, even, -⟩ := htLoop_interleaves [0, 1, 20, 21]
  obtain ⟨pool2, run, perm, positions⟩ := even 2 rfl
  refine ⟨ends 4 (by decide), ⟨pool2, run, perm, ?_⟩, (htLoop_interleaves [0, 1, 20]).2.2 rfl⟩
  exact ⟨(positions 0 (by decide)).1, (positions 0 (by decide)).2, (positions 1 (by decide)).1,
    (positions 1 (by decide)).2⟩

/-- A socket whose CPUs can be listed: `numactl` prints its line, and with hyper-threading the
    line has an even number of CPUs. -/
def Readable (env : Env) (socket : Nat) : Prop :=
  ∃ listing, env.numactl socket = some listing ∧ (env.ht = true → listing.length % 2 = 0)

/-- How many CPUs the socket's line has. -/
def cpuCount (env : Env) (socket : Nat) : Nat := ((env.numactl socket).getD []).length

theorem getCpuPool_of_readable {env : Env} {socket : Nat} (readable : Readable env socket) :
    ∃ pool, getCpuPool env socket = .ok pool ∧ pool.length = cpuCount env socket := by
  obtain ⟨listing, line, even⟩ := readable
  rw [getCpuPool, cpuCount, line]
  cases threads : env.ht with
  | false => exact ⟨listing, rfl, rfl⟩
  | true =>
      obtain ⟨cores, rfl⟩ := exists_cores (even threads)
      refine ⟨_, htLoop_cores cores [], ?_⟩
      exact (flatMap_cores_perm cores).length_eq

theorem getCpuPool_of_not_readable {env : Env} {socket : Nat} (unreadable : ¬ Readable env socket) :
    getCpuPool env socket = .error .indexError := by
  rw [getCpuPool]
  cases line : env.numactl socket with
  | none => rfl
  | some listing =>
      cases threads : env.ht with
      | false => exact absurd ⟨listing, line, by simp [threads]⟩ unreadable
      | true =>
          refine htLoop_odd ?_ []
          by_contra even
          exact unreadable ⟨listing, line, fun _ => by omega⟩

end KvmWorkload.VmCloudInit
