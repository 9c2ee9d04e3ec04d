import KvmWorkload.MemcRedis.Measurement

/-! # Is every client log counted once?

The pattern of a redis worker finds the logs of every instance, that of a
memcached worker only its own; the pattern of the summary finds ten instance
files at most.  Hence the reported sums are right for one redis instance with
fewer than a hundred cores, and for up to ten memcached instances, and for
nothing else, whatever the schedule.
-/

namespace KvmWorkload.MemcRedis

/-- Every client log counts once in the throughput, and every instance once in the latencies. -/
structure CountedOnce (cfg : Config) (schedule : Schedule cfg) : Prop where
  throughput : ∀ report : Text → Report,
    hpthrput cfg report schedule.disk = ((allLogs cfg).map fun log => (report log).totals).sum
  latency : ∀ report : Text → Report,
    ((testsum cfg report schedule.disk).map Row.filename).Perm ((workers cfg).map (Worker.fileName cfg))

theorem logName_eq (client : Client) : logName "127.0.0.1".toList client =
    "ip127.0.0.1prt".toList ++
      (decimal client.port ++ ("cc".toList ++ decimal client.core ++ ".txt".toList)) := by
  have start : "ip".toList ++ "127.0.0.1".toList ++ "prt".toList = "ip127.0.0.1prt".toList := by decide
  have regroup : ∀ a b c d e : Text, a ++ b ++ c ++ d ++ e = a ++ (b ++ (c ++ d ++ e)) := by simp
  exact (regroup ..).trans (congrArg (· ++ _) start)

theorem cut_tag (k : Nat) : cut 't' 2 ("inst".toList ++ decimal k) = decimal k := by
  have letter : 't' ∉ decimal k := not_mem_decimal (by decide)
  have words : "inst".toList ++ decimal k = ['t'].intercalate ["ins".toList, decimal k] := by simp
  rw [words, cut_intercalate (by simpa using letter) (by simp)]
  rfl

theorem length_port {k : Nat} (small : k < 999) : (decimal (9001 + k)).length = 4 := by
  have upper : (decimal (9001 + k)).length ≤ 4 :=
    (Nat.length_toDigits_le_iff (by omega) (by omega)).mpr (by omega)
  have lower : ¬ (decimal (9001 + k)).length ≤ 3 :=
    mt (Nat.length_toDigits_le_iff (by omega) (by omega)).mp (by omega)
  omega

theorem logGlob_memcache {cfg : Config} (memcache : cfg.type = .memcache) {k k' : Nat}
    (small : k < 999) (small' : k' < 999) (core : Nat) :
    globMatches ((workerAt cfg k).logGlob cfg) (logName "127.0.0.1".toList ⟨9001 + k', core⟩) = true ↔
      k = k' := by
  simp only [Worker.logGlob, memcache, workerAt, cut_tag, readDecimal_decimal, logName_eq]
  rw [globMatches_append, List.prefix_append_right_inj]
  constructor
  · rintro ⟨rest, shape⟩
    have same := (List.append_inj shape (by rw [length_port small, length_port small'])).1
    have := decimal_injective same
    omega
  · rintro rfl
    exact List.prefix_append _ _

theorem logGlob_redis_iff {cfg : Config} (redis : cfg.type = .redis) (w : Worker) (client : Client) :
    globMatches (w.logGlob cfg) (logName "127.0.0.1".toList client) = true ↔
      "90".toList <+: decimal client.port ++ ("cc".toList ++ decimal client.core ++ ".txt".toList) := by
  simp only [Worker.logGlob, redis, logName_eq]
  rw [globMatches_append,
    show "ip127.0.0.1prt90".toList = "ip127.0.0.1prt".toList ++ "90".toList by decide,
    List.prefix_append_right_inj]

theorem logGlob_redis {cfg : Config} (redis : cfg.type = .redis) (w : Worker) {d : Nat} (core : Nat)
    (few : d < 99) :
    globMatches (w.logGlob cfg) (logName "127.0.0.1".toList ⟨9001 + d, core⟩) = true := by
  have table : ∀ d < 99, "90".toList <+: decimal (9001 + d) := by decide
  exact (logGlob_redis_iff redis w _).mpr ((table d few).trans (List.prefix_append _ _))

theorem logGlob_redis_9100 {cfg : Config} (redis : cfg.type = .redis) (w : Worker) (core : Nat) :
    ¬ globMatches (w.logGlob cfg) (logName "127.0.0.1".toList ⟨9100, core⟩) = true := by
  rw [logGlob_redis_iff redis, show decimal 9100 = "9100".toList by decide]
  simp

theorem instGlob_iff (cfg : Config) (k : Nat) :
    globMatches (instGlob cfg) ((workerAt cfg k).fileName cfg) = true ↔ k < 10 := by
  rw [instGlob, Worker.fileName, workerAt, List.append_assoc]
  exact globMatches_number _ _ k

/-- The file that a worker wrote at its turn in the schedule. -/
def CollectedAt (cfg : Config) (events : List Event) (w : Worker) (file : InstFile) : Prop :=
  file.name = w.fileName cfg ∧ ∃ before after, events = before ++ .collect w :: after ∧
    file.logs = (before.filterMap Event.log?).filter (globMatches (w.logGlob cfg))

theorem foldl_step (cfg : Config) (rest done : List Event) (ws : List Worker) (disk : Disk)
    (logs : disk.logs = done.filterMap Event.log?)
    (files : List.Forall₂ (CollectedAt cfg (done ++ rest)) ws disk.files) :
    List.Forall₂ (CollectedAt cfg (done ++ rest)) (ws ++ rest.filterMap Event.worker?)
      (rest.foldl (Disk.step cfg) disk).files := by
  induction rest generalizing done ws disk with
  | nil => simpa using files
  | cons event rest ih =>
      rw [List.append_cons] at files ⊢
      cases event with
      | finished log =>
          exact ih (done ++ [.finished log]) ws (Disk.step cfg disk (.finished log))
            (by simp [Disk.step, logs, Event.log?]) files
      | collect w =>
          have here : CollectedAt cfg (done ++ [.collect w] ++ rest) w
              { name := w.fileName cfg, logs := disk.logs.filter (globMatches (w.logGlob cfg)) } :=
            ⟨rfl, done, rest, by simp, by rw [logs]⟩
          have next := ih (done ++ [.collect w]) (ws ++ [w]) (Disk.step cfg disk (.collect w))
            (by simp [Disk.step, logs, Event.log?]) (List.rel_append files (.cons here .nil))
          simpa [Event.worker?] using next

/-- Each worker leaves one file, with the logs that its pattern found when its turn came. -/
theorem Schedule.files {cfg : Config} (schedule : Schedule cfg) :
    List.Forall₂ (CollectedAt cfg schedule.events) (schedule.events.filterMap Event.worker?)
      schedule.disk.files :=
  foldl_step cfg schedule.events [] [] _ rfl .nil

/-- The logs that the throughput is added up over. -/
def Schedule.counted {cfg : Config} (schedule : Schedule cfg) : List Text :=
  (instFiles cfg schedule.disk).flatMap InstFile.logs

theorem throughput_iff {cfg : Config} (schedule : Schedule cfg) :
    (∀ report : Text → Report,
      hpthrput cfg report schedule.disk = ((allLogs cfg).map fun log => (report log).totals).sum) ↔
      schedule.counted.Perm (allLogs cfg) := by
  have lines : ∀ report, hpthrput cfg report schedule.disk =
      (schedule.counted.map fun log => (report log).totals).sum := by
    intro report
    rw [hpthrput, Schedule.counted, List.map_flatMap]
  rw [perm_iff_sum_eq]
  constructor
  · intro sums weight
    have here := sums fun log => { gets := [], sets := [], totals := weight log }
    rwa [lines] at here
  · intro sums report
    rw [lines]
    exact sums fun log => (report log).totals

/-- The turn of instance `k` in a schedule: the events before it and the file it left. -/
structure Turn {cfg : Config} (schedule : Schedule cfg) (k : Nat) (before : List Event)
    (file : InstFile) : Prop where
  member : file ∈ schedule.disk.files
  name : file.name = (workerAt cfg k).fileName cfg
  shape : ∃ after, schedule.events = before ++ .collect (workerAt cfg k) :: after
  logs : file.logs = (before.filterMap Event.log?).filter (globMatches ((workerAt cfg k).logGlob cfg))

theorem Schedule.turn_of_lt {cfg : Config} (schedule : Schedule cfg) {k : Nat} (small : k < cfg.ins) :
    ∃ before file, Turn schedule k before file := by
  have inside : workerAt cfg k ∈ schedule.events.filterMap Event.worker? := by
    rw [schedule.collects.mem_iff, workers_eq]
    exact List.mem_map_of_mem (List.mem_range.mpr small)
  obtain ⟨file, member, name, before, after, shape, logs⟩ :=
    forall₂_exists_right schedule.files inside
  exact ⟨before, file, member, name, ⟨after, shape⟩, logs⟩

theorem Schedule.turn_of_file {cfg : Config} (schedule : Schedule cfg) {file : InstFile}
    (member : file ∈ schedule.disk.files) : ∃ k < cfg.ins, ∃ before, Turn schedule k before file := by
  obtain ⟨w, inside, name, before, after, shape, logs⟩ := forall₂_exists_left schedule.files member
  rw [schedule.collects.mem_iff, workers_eq] at inside
  obtain ⟨k, small, rfl⟩ := List.mem_map.mp inside
  exact ⟨k, List.mem_range.mp small, before, member, name, ⟨after, shape⟩, logs⟩

theorem Schedule.finished_before {cfg : Config} (schedule : Schedule cfg) {before after : List Event}
    {w : Worker} (shape : schedule.events = before ++ .collect w :: after) :
    (before.filterMap Event.log?).Nodup ∧ (∀ log ∈ before.filterMap Event.log?, log ∈ allLogs cfg) ∧
      ∀ log ∈ w.logs cfg, log ∈ before.filterMap Event.log? := by
  have part : (before.filterMap Event.log?).Sublist (schedule.events.filterMap Event.log?) := by
    rw [shape, List.filterMap_append]
    exact List.sublist_append_left _ _
  refine ⟨?_, ?_, schedule.waits before w after shape⟩
  · exact (schedule.finishes.nodup_iff.mpr (allLogs_nodup cfg)).sublist part
  · exact fun log member => schedule.finishes.mem_iff.mp (part.subset member)

theorem log_mem (cfg : Config) (k : Nat) {j : Nat} (small : j < cfg.cpi) :
    ∃ core, logName "127.0.0.1".toList ⟨9001 + k + j % cfg.ports, core⟩ ∈ (workerAt cfg k).logs cfg := by
  rw [logs_workerAt]
  let start := cfg.script.clientStart + k * cfg.cpi
  have here : (clientsAt cfg k)[j]? =
      some ⟨9001 + k + j % cfg.ports, start + (cfg.cpi - 1 - j)⟩ := by
    rw [clientsAt, List.getElem?_mapIdx, List.getElem?_reverse (by simpa using small),
      List.length_range', List.getElem?_range' (by omega)]
    simp only [Option.map_some, Nat.one_mul, start]
  exact ⟨_, List.mem_map_of_mem (List.mem_of_getElem? here)⟩

theorem mem_allLogs {cfg : Config} {k : Nat} (small : k < cfg.ins) {log : Text}
    (member : log ∈ (workerAt cfg k).logs cfg) : log ∈ allLogs cfg := by
  rw [allLogs_eq, List.mem_flatMap]
  exact ⟨k, List.mem_range.mpr small, member⟩

theorem port_of_mem {cfg : Config} {k : Nat} {log : Text} (member : log ∈ (workerAt cfg k).logs cfg) :
    ∃ j < cfg.cpi, ∃ core, log = logName "127.0.0.1".toList ⟨9001 + k + j % cfg.ports, core⟩ := by
  rw [logs_workerAt, clientsAt] at member
  obtain ⟨client, inside, rfl⟩ := List.mem_map.mp member
  obtain ⟨j, small, rfl⟩ := List.mem_mapIdx.mp inside
  exact ⟨j, by simpa using small, _, rfl⟩

theorem instance_of_mem {cfg : Config} {log : Text} (member : log ∈ allLogs cfg) :
    ∃ k < cfg.ins, log ∈ (workerAt cfg k).logs cfg := by
  rw [allLogs_eq, List.mem_flatMap] at member
  obtain ⟨k, small, inside⟩ := member
  exact ⟨k, List.mem_range.mp small, inside⟩

/-- The pattern of each worker finds its own logs and no others. -/
def Exclusive (cfg : Config) : Prop :=
  ∀ k < cfg.ins, ∀ log ∈ allLogs cfg,
    (globMatches ((workerAt cfg k).logGlob cfg) log = true ↔ log ∈ (workerAt cfg k).logs cfg)

theorem exclusive_redis {cfg : Config} (redis : cfg.type = .redis) (single : cfg.ins = 1)
    (small : cfg.total ≤ 99) : Exclusive cfg := by
  intro k only log member
  obtain ⟨k', only', own⟩ := instance_of_mem member
  obtain rfl : k = 0 := by omega
  obtain rfl : k' = 0 := by omega
  obtain ⟨j, inside, core, rfl⟩ := port_of_mem own
  have wide : cfg.cpi = cfg.total := by rw [Config.cpi, single, Nat.div_one]
  have port := Nat.mod_lt j cfg.ports_pos
  have ports : cfg.ports = cfg.cpi := by rw [Config.ports, redis]
  exact iff_of_true (logGlob_redis redis _ core (by omega)) own

theorem exclusive_memcache {cfg : Config} (memcache : cfg.type = .memcache) (few : cfg.ins ≤ 10) :
    Exclusive cfg := by
  intro k small log member
  obtain ⟨k', small', own⟩ := instance_of_mem member
  obtain ⟨j, inside, core, shape⟩ := port_of_mem own
  have ports : j % cfg.ports = 0 := by rw [Config.ports, memcache]; exact Nat.mod_one j
  rw [ports, Nat.add_zero] at shape
  rw [shape, logGlob_memcache memcache (by omega) (by omega), ← shape]
  constructor
  · rintro rfl
    exact own
  · exact fun mine => logs_disjoint cfg mine own

theorem CollectedAt.perm {cfg : Config} (schedule : Schedule cfg) (exclusive : Exclusive cfg) {k : Nat}
    (small : k < cfg.ins) {file : InstFile}
    (collected : CollectedAt cfg schedule.events (workerAt cfg k) file) :
    file.logs.Perm ((workerAt cfg k).logs cfg) := by
  obtain ⟨-, before, after, shape, logs⟩ := collected
  obtain ⟨nodup, within, own⟩ := schedule.finished_before shape
  rw [logs, List.perm_ext_iff_of_nodup (nodup.filter _) (nodup_logs cfg k)]
  intro log
  rw [List.mem_filter]
  constructor
  · rintro ⟨finished, found⟩
    exact (exclusive k small log (within log finished)).mp found
  · intro member
    have finished := own log member
    exact ⟨finished, (exclusive k small log (within log finished)).mpr member⟩

theorem countedOnce_of_exclusive {cfg : Config} (schedule : Schedule cfg) (exclusive : Exclusive cfg)
    (few : cfg.ins ≤ 10) : CountedOnce cfg schedule := by
  have found : instFiles cfg schedule.disk = schedule.disk.files := by
    refine List.filter_eq_self.mpr fun file member => ?_
    obtain ⟨k, small, before, turn⟩ := schedule.turn_of_file member
    rw [turn.name, instGlob_iff]
    omega
  refine ⟨(throughput_iff schedule).mpr ?_, fun report => ?_⟩
  · rw [Schedule.counted, found, allLogs]
    refine (flatMap_perm_of_forall₂ ?_).trans (schedule.collects.flatMap_right _)
    have known : ∀ w ∈ schedule.events.filterMap Event.worker?, ∃ k < cfg.ins, workerAt cfg k = w := by
      intro w member
      simpa [schedule.collects.mem_iff, workers_eq] using member
    refine ((List.forall₂_and_left _ _).mpr ⟨known, schedule.files⟩).imp ?_
    rintro w file ⟨⟨k, small, rfl⟩, collected⟩
    exact collected.perm schedule exclusive small
  · have names : (testsum cfg report schedule.disk).map Row.filename =
        schedule.disk.files.map InstFile.name := by
      rw [testsum, found, List.map_map]
      rfl
    have same : List.Forall₂ (· = ·) ((schedule.events.filterMap Event.worker?).map (Worker.fileName cfg))
        (schedule.disk.files.map InstFile.name) := by
      rw [List.forall₂_map_left_iff, List.forall₂_map_right_iff]
      exact schedule.files.imp fun w file collected => collected.1.symm
    rw [List.forall₂_eq_eq_eq] at same
    rw [names, ← same]
    exact schedule.collects.map _

theorem Schedule.mem_counted {cfg : Config} (schedule : Schedule cfg) {log : Text} :
    log ∈ schedule.counted ↔ ∃ file ∈ schedule.disk.files,
      globMatches (instGlob cfg) file.name = true ∧ log ∈ file.logs := by
  simp only [Schedule.counted, instFiles, List.mem_flatMap, List.mem_filter, and_assoc]

theorem not_perm_of_unfound {cfg : Config} (schedule : Schedule cfg) {log : Text}
    (member : log ∈ allLogs cfg)
    (unfound : ∀ k < 10, ¬ globMatches ((workerAt cfg k).logGlob cfg) log = true) :
    ¬ schedule.counted.Perm (allLogs cfg) := by
  intro perm
  obtain ⟨file, inside, found, here⟩ := schedule.mem_counted.mp (perm.mem_iff.mpr member)
  obtain ⟨k, -, before, turn⟩ := schedule.turn_of_file inside
  rw [turn.name, instGlob_iff] at found
  rw [turn.logs, List.mem_filter] at here
  exact unfound k found here.2

theorem fileName_injective (cfg : Config) {k k' : Nat}
    (same : (workerAt cfg k).fileName cfg = (workerAt cfg k').fileName cfg) : k = k' :=
  decimal_injective (List.append_cancel_left (List.append_cancel_right same))

theorem Turn.counted {cfg : Config} {schedule : Schedule cfg} {k : Nat} {before : List Event}
    {file : InstFile} (turn : Turn schedule k before file) (few : k < 10) :
    file ∈ instFiles cfg schedule.disk :=
  List.mem_filter.mpr ⟨turn.member, by rw [turn.name]; exact (instGlob_iff cfg k).mpr few⟩

theorem not_perm_of_earlier {cfg : Config} {schedule : Schedule cfg} (redis : cfg.type = .redis)
    {k k' : Nat} (few : k < 10) (few' : k' < 10) (differ : k ≠ k') {before before' : List Event}
    {file file' : InstFile} (turn : Turn schedule k before file)
    (turn' : Turn schedule k' before' file') (earlier : before <+: before') :
    ¬ schedule.counted.Perm (allLogs cfg) := by
  intro perm
  obtain ⟨core, own⟩ := log_mem cfg k cfg.cpi_pos
  rw [Nat.zero_mod, Nat.add_zero] at own
  obtain ⟨after, shape⟩ := turn.shape
  have finished := (schedule.finished_before shape).2.2 _ own
  have here : logName "127.0.0.1".toList ⟨9001 + k, core⟩ ∈ file.logs := by
    rw [turn.logs, List.mem_filter]
    exact ⟨finished, logGlob_redis redis _ core (by omega)⟩
  have there : logName "127.0.0.1".toList ⟨9001 + k, core⟩ ∈ file'.logs := by
    rw [turn'.logs, List.mem_filter]
    exact ⟨(earlier.filterMap _).subset finished, logGlob_redis redis _ core (by omega)⟩
  have other : file ≠ file' := by
    rintro rfl
    exact differ (fileName_injective cfg (turn.name.symm.trans turn'.name))
  exact not_nodup_flatMap (turn.counted few) (turn'.counted few') other here there
    (perm.nodup_iff.mpr (allLogs_nodup cfg))

theorem not_perm_of_two {cfg : Config} (schedule : Schedule cfg) (redis : cfg.type = .redis)
    (two : 2 ≤ cfg.ins) : ¬ schedule.counted.Perm (allLogs cfg) := by
  obtain ⟨before, file, turn⟩ := schedule.turn_of_lt (k := 0) (by omega)
  obtain ⟨before', file', turn'⟩ := schedule.turn_of_lt (k := 1) (by omega)
  obtain ⟨after, shape⟩ := turn.shape
  obtain ⟨after', shape'⟩ := turn'.shape
  rcases List.append_eq_append_iff.mp (shape.symm.trans shape') with ⟨mid, rest, -⟩ | ⟨mid, rest, -⟩
  · exact not_perm_of_earlier redis (by omega) (by omega) (by omega) turn turn' ⟨mid, rest.symm⟩
  · exact not_perm_of_earlier redis (by omega) (by omega) (by omega) turn' turn ⟨mid, rest.symm⟩

/-- The sums are right exactly for one redis instance with at most 99 cores and for at most ten
    memcached instances. -/
theorem countedOnce_iff (cfg : Config) (schedule : Schedule cfg) :
    CountedOnce cfg schedule ↔
      (cfg.type = .redis ∧ cfg.ins = 1 ∧ cfg.total ≤ 99) ∨ (cfg.type = .memcache ∧ cfg.ins ≤ 10) := by
  have few := cfg.positive
  constructor
  · intro once
    have perm := (throughput_iff schedule).mp once.throughput
    cases type : cfg.type with
    | redis =>
        have single : cfg.ins = 1 := by
          by_contra more
          exact not_perm_of_two schedule type (by omega) perm
        refine .inl ⟨rfl, single, ?_⟩
        by_contra large
        have wide : cfg.cpi = cfg.total := by rw [Config.cpi, single, Nat.div_one]
        obtain ⟨core, member⟩ := log_mem cfg 0 (j := 99) (by omega)
        have port : 9001 + 0 + 99 % cfg.ports = 9100 := by
          rw [Config.ports, type]
          simp only [Nat.mod_eq_of_lt (show 99 < cfg.cpi by omega)]
        rw [port] at member
        exact not_perm_of_unfound schedule (mem_allLogs (by omega) member)
          (fun k _ => logGlob_redis_9100 type _ core) perm
    | memcache =>
        refine .inr ⟨rfl, ?_⟩
        by_contra many
        obtain ⟨core, member⟩ := log_mem cfg 10 cfg.cpi_pos
        rw [Nat.zero_mod, Nat.add_zero] at member
        refine not_perm_of_unfound schedule (mem_allLogs (by omega) member) ?_ perm
        intro k small
        rw [logGlob_memcache type (by omega) (by omega)]
        omega
  · rintro (⟨type, single, small⟩ | ⟨type, many⟩)
    · exact countedOnce_of_exclusive schedule (exclusive_redis type single small) (by omega)
    · exact countedOnce_of_exclusive schedule (exclusive_memcache type many) many

theorem CountedOnce.columnAvg_eq {cfg : Config} {schedule : Schedule cfg}
    (once : CountedOnce cfg schedule) (report : Text → Report) (column : Row → ℚ) :
    ∃ rows, rows.map Row.filename = (workers cfg).map (Worker.fileName cfg) ∧
      columnAvg cfg column (testsum cfg report schedule.disk) = columnAvg cfg column rows := by
  -- The rows come in the order of the files; put them into the order of the workers.
  have reorder := congrFun₂ (List.eq_map_comp_perm Row.filename)
    ((workers cfg).map (Worker.fileName cfg)) (testsum cfg report schedule.disk)
  obtain ⟨rows, same, order⟩ := reorder.mpr (once.latency report).symm
  refine ⟨rows, same.symm, ?_⟩
  rw [columnAvg, columnAvg, (order.map column).sum_eq]

/-- The schedule in which every worker collects before the next one's clients finish. -/
def sequentialEvents (cfg : Config) (ws : List Worker) : List Event :=
  ws.flatMap fun w => (w.logs cfg).map Event.finished ++ [.collect w]

theorem sequentialEvents_waits (cfg : Config) {ws : List Worker} {before after : List Event}
    {w : Worker} (shape : sequentialEvents cfg ws = before ++ .collect w :: after) :
    ∀ log ∈ w.logs cfg, log ∈ before.filterMap Event.log? := by
  induction ws generalizing before with
  | nil => simp [sequentialEvents] at shape
  | cons v ws ih =>
      rw [sequentialEvents, List.flatMap_cons] at shape
      rcases List.append_eq_append_iff.mp shape with ⟨mid, rfl, rest⟩ | ⟨mid, head, rest⟩
      · intro log member
        rw [List.filterMap_append]
        exact List.mem_append_right _ (ih rest log member)
      · cases mid with
        | nil =>
            have start : sequentialEvents cfg ws = [] ++ .collect w :: after := rest.symm
            exact fun log member => absurd (ih start log member) (by simp)
        | cons event mid =>
            obtain ⟨rfl, -⟩ := List.cons.inj rest
            rcases snoc_eq_append_cons head with ⟨rfl, same⟩ | ⟨after', inside⟩
            · cases same
              simp [List.filterMap_map, Event.log?, Function.comp_def]
            · have member : Event.collect w ∈ (v.logs cfg).map Event.finished := by simp [inside]
              simp at member

theorem sequentialEvents_logs (cfg : Config) (ws : List Worker) :
    (sequentialEvents cfg ws).filterMap Event.log? = ws.flatMap fun w => w.logs cfg := by
  simp [sequentialEvents, List.filterMap_flatMap, List.filterMap_map, List.filterMap_cons, Event.log?,
    Function.comp_def]

theorem sequentialEvents_workers (cfg : Config) (ws : List Worker) :
    (sequentialEvents cfg ws).filterMap Event.worker? = ws := by
  simp [sequentialEvents, List.filterMap_flatMap, List.filterMap_map, Event.worker?,
    Function.comp_def]

def Schedule.sequential (cfg : Config) : Schedule cfg where
  events := sequentialEvents cfg (workers cfg)
  finishes := by rw [sequentialEvents_logs, allLogs]
  collects := by rw [sequentialEvents_workers]
  waits _ _ _ shape := sequentialEvents_waits cfg shape

/-- Two redis instances on four cores. -/
def twoRedis : Config where
  script := .inVm 4
  type := .redis
  physLo := 0
  physHi := 3
  ins := 2
  mccon := 4
  positive := by decide
  enough := by decide

theorem twoRedis_not_countedOnce : ¬ CountedOnce twoRedis (Schedule.sequential twoRedis) := by
  intro once
  exact not_perm_of_two _ rfl (by decide) ((throughput_iff _).mp once.throughput)

end KvmWorkload.MemcRedis
