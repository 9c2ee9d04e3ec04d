import KvmWorkload.Turbostat.PidKeys

/-! # The completion protocol

A workload script that is done sends the name of its result file to the server,
which stops the turbostat of that VM.  VMs finish in any order, and the server
answers one connection after the other.  A name that it cannot look up raises an
exception that nothing catches: the server ends, and later clients find nobody
listening.
-/

namespace KvmWorkload.Turbostat.Completion

open RunTestcases (Decoded Workload Word runExpVm resultStem caseArm_of_runExpVm speccpu_mem_text)
open PidKeys

/-- The scripts that `run_exp_vm` starts and that call client.py; in the others the call is commented out or
    absent. -/
def notifying : List Text :=
  ["run_memcache.sh".toList, "run_ffmpeg_baremetal.sh".toList, "run_3dunet.sh".toList]

/-- What client.py sends. -/
def message (d : Decoded) : Text := d.resultFile ++ ": Done".toList

/-- `start_server`: the processes that are killed, message by message. -/
def startServer (turbostatPids : List Text) : List Text → List Text
  | [] => []
  | data :: later =>
      match serve turbostatPids data with
      | .ok pid => pid :: startServer turbostatPids later
      | .error _ => []

/-- The VMs of a run, with what `run_exp_vm` starts in each. -/
structure Fleet where
  vms : List Vm
  options : RunOptions
  started : Vm → Decoded
  names : (vms.map Vm.name).Nodup
  pids : (vms.map Vm.pid).Nodup
  /-- turbostat_pids.txt is split at commas and blanks. -/
  clean : ∀ vm ∈ vms, (vm.registered options).all nameChar = true
  runs : ∀ vm ∈ vms, runExpVm options.suffix vm.name = some (started vm)

namespace Fleet

variable (fleet : Fleet)

def notifies (vm : Vm) : Bool := notifying.contains (fleet.started vm).script

/-- The processes that are killed when the messages arrive in an order. -/
def killed (arrivals : List Vm) : List Text :=
  startServer (pidsFile fleet.vms fleet.options) (arrivals.map fun vm => message (fleet.started vm))

end Fleet

theorem turbostatFile_append {file : Text} (five : 5 ≤ file.count '_') (rest : Text) :
    turbostatFile (file ++ rest) = turbostatFile file := by
  obtain ⟨a, file, rfl, noA⟩ := exists_field (by omega : 0 < file.count '_')
  rw [count_field noA] at five
  obtain ⟨b, file, rfl, noB⟩ := exists_field (by omega : 0 < file.count '_')
  rw [count_field noB] at five
  obtain ⟨c, file, rfl, noC⟩ := exists_field (by omega : 0 < file.count '_')
  rw [count_field noC] at five
  obtain ⟨d, file, rfl, noD⟩ := exists_field (by omega : 0 < file.count '_')
  rw [count_field noD] at five
  obtain ⟨e, file, rfl, noE⟩ := exists_field (by omega : 0 < file.count '_')
  have clean : ∀ field ∈ [a, b, c, d, e], '_' ∉ field := by simp [noA, noB, noC, noD, noE]
  have longer := turbostatFile_fields clean (file ++ rest)
  simp only [List.append_assoc, List.cons_append] at longer ⊢
  rw [longer, turbostatFile_fields clean file]
  simp

theorem count_stem (name startCore endCore suffix : Text) :
    suffix.count '_' + 2 ≤ (resultStem name startCore endCore suffix).count '_' := by
  simp only [resultStem, List.count_append, List.count_cons_self]
  omega

theorem count_resultFile {o : RunOptions} {name : Text} {d : Decoded} (run : runExpVm o.suffix name = some d) :
    5 ≤ d.resultFile.count '_' := by
  have suffix : 2 ≤ o.suffix.count '_' := by
    have least := count_suffix o
    omega
  have one : ("_1".toList).count '_' = 1 := rfl
  have rep : ("_rep_1".toList).count '_' = 2 := rfl
  rw [runExpVm] at run
  split at run
  · cases run
    have stem := count_stem (cut ':' 2 name) (cut '-' 1 (cut ':' 5 name)) (cut '-' 2 (cut ':' 5 name)) o.suffix
    dsimp only
    rw [List.count_append, one]
    omega
  · split at run
    · cases run
    · cases run
      have stem := count_stem (cut ':' 1 name) (cut '-' 1 (cut ':' 2 name)) (cut '-' 2 (cut ':' 2 name)) o.suffix
      dsimp only
      rw [List.count_append, rep]
      omega

theorem turbostatFile_message {o : RunOptions} {name : Text} {d : Decoded} (run : runExpVm o.suffix name = some d) :
    turbostatFile (message d) = turbostatFile d.resultFile :=
  turbostatFile_append (count_resultFile run) _

theorem plain_of_notifies {o : RunOptions} {vm : Vm} {d : Decoded} (run : runExpVm o.suffix vm.name = some d)
    (notifies : notifying.contains d.script = true) :
    ∃ w, vm.wl = .plain w ∧ ¬ "speccpu".toList <:+: w.text := by
  have absent : ¬ "speccpu".toList <:+: vm.wl.text := by
    intro inside
    have arm := (caseArm_of_runExpVm inside run).1
    rw [Vm.name, runExpVm, arm] at run
    have script : d.script = "run_speccpu.sh".toList := by
      cases run
      rfl
    rw [script] at notifies
    exact absurd notifies (by decide)
  cases wl : vm.wl with
  | plain w =>
      rw [wl, Workload.text_plain] at absent
      exact ⟨w, rfl, absent⟩
  | speccpu benchmark iterations asm =>
      rw [wl] at absent
      exact absurd (speccpu_mem_text benchmark iterations asm) absent

theorem fields_of_found {vm : Vm} {o : RunOptions} {file : Text} (found : turbostatFile file = .ok (vm.registered o)) :
    '_' ∉ vm.wl.text ∧ o.cosMode ≠ .soloNa ∧ o.llcCosWays = none ∧ o.l2cCosWays = none := by
  have five := (turbostatFile_ok found).1
  have least := count_suffix o
  rw [count_registered] at five
  refine ⟨List.count_eq_zero.mp (by omega), ?_, ?_, ?_⟩
  · intro solo
    rw [if_pos solo] at least
    omega
  · by_contra given
    rw [if_neg given] at least
    omega
  · by_contra given
    rw [if_neg given] at least
    omega

namespace Fleet

variable (fleet : Fleet)

theorem keys : (fleet.vms.map fun vm => vm.registered fleet.options).Nodup := by
  have distinct := fleet.names
  rw [List.Nodup, List.pairwise_map] at distinct ⊢
  exact distinct.imp fun differ same => differ (name_eq_of_registered same)

theorem eq_of_pid {vm other : Vm} (member : vm ∈ fleet.vms) (inside : other ∈ fleet.vms)
    (same : decimal other.pid = decimal vm.pid) : other = vm :=
  List.inj_on_of_nodup_map fleet.pids inside member (decimal_injective same)

theorem eq_of_registered {vm other : Vm} (member : vm ∈ fleet.vms) (inside : other ∈ fleet.vms)
    (same : other.registered fleet.options = vm.registered fleet.options) : other = vm :=
  List.inj_on_of_nodup_map fleet.names inside member (name_eq_of_registered same)

theorem serve_iff {sender vm : Vm} (known : sender ∈ fleet.vms) (member : vm ∈ fleet.vms) :
    serve (pidsFile fleet.vms fleet.options) (message (fleet.started sender)) = .ok (decimal vm.pid) ↔
      turbostatFile (fleet.started sender).resultFile = .ok (vm.registered fleet.options) := by
  rw [serve, getTurbostatPids_eq fleet.clean, except_ok_bind, killTurbostat,
    turbostatFile_message (fleet.runs sender known)]
  constructor
  · intro stops
    obtain ⟨key, found, value⟩ := except_bind_ok.mp stops
    rw [found]
    by_cases registered : key ∈ fleet.vms.map fun vm => vm.registered fleet.options
    · obtain ⟨other, inside, rfl⟩ := List.mem_map.mp registered
      rw [Dict.get?_foldl_set_of_mem fleet.keys inside] at value
      rw [fleet.eq_of_pid member inside (Except.ok.inj value)]
    · rw [Dict.get?_foldl_set_of_not_mem registered, Dict.get?_empty] at value
      cases value
  · intro found
    rw [found, except_ok_bind, Dict.get?_foldl_set_of_mem fleet.keys member]
    rfl

theorem found_own {vm : Vm} (member : vm ∈ fleet.vms) (five : FiveFields vm.wl fleet.options) :
    turbostatFile (fleet.started vm).resultFile = .ok (vm.registered fleet.options) :=
  found_of_fiveFields (fleet.runs vm member) five

end Fleet

theorem mem_startServer {lines : List Text} {pid : Text} {messages : List Text}
    (killed : pid ∈ startServer lines messages) : ∃ data ∈ messages, serve lines data = .ok pid := by
  induction messages with
  | nil => exact absurd killed List.not_mem_nil
  | cons data later ih =>
      rw [startServer] at killed
      cases served : serve lines data with
      | error e =>
          rw [served] at killed
          exact absurd killed List.not_mem_nil
      | ok first =>
          rw [served] at killed
          rcases List.mem_cons.mp killed with here | rest
          · exact ⟨data, List.mem_cons_self, here ▸ served⟩
          · obtain ⟨data, inside, stops⟩ := ih rest
            exact ⟨data, List.mem_cons_of_mem _ inside, stops⟩

theorem startServer_map {α : Type} {lines : List Text} {send pid : α → Text} {arrivals : List α}
    (found : ∀ sender ∈ arrivals, serve lines (send sender) = .ok (pid sender)) :
    startServer lines (arrivals.map send) = arrivals.map pid := by
  induction arrivals with
  | nil => rfl
  | cons sender later ih =>
      rw [List.forall_mem_cons] at found
      rw [List.map_cons, startServer, found.1, List.map_cons]
      exact congrArg _ (ih found.2)

/-- In whatever order the messages arrive, every turbostat is stopped exactly when every VM runs a script
    that notifies the server and has a name whose five fields are found again. -/
theorem killed_all_iff (fleet : Fleet) {arrivals : List Vm} (order : arrivals.Perm (fleet.vms.filter fleet.notifies)) :
    (∀ vm ∈ fleet.vms, decimal vm.pid ∈ fleet.killed arrivals) ↔
      ∀ vm ∈ fleet.vms, fleet.notifies vm = true ∧ FiveFields vm.wl fleet.options := by
  have senders : ∀ sender, sender ∈ arrivals ↔ sender ∈ fleet.vms ∧ fleet.notifies sender = true :=
    fun sender => order.mem_iff.trans List.mem_filter
  constructor
  · intro stopped
    have found : ∀ vm ∈ fleet.vms, ∃ sender ∈ fleet.vms, fleet.notifies sender = true ∧
        turbostatFile (fleet.started sender).resultFile = .ok (vm.registered fleet.options) := by
      intro vm member
      obtain ⟨data, sent, stops⟩ := mem_startServer (stopped vm member)
      obtain ⟨sender, arrived, rfl⟩ := List.mem_map.mp sent
      obtain ⟨known, notifies⟩ := (senders sender).mp arrived
      exact ⟨sender, known, notifies, (fleet.serve_iff known member).mp stops⟩
    -- Every name is found by somebody, so the names of the senders have no further fields either.
    intro vm member
    obtain ⟨sender, known, notifies, looked⟩ := found vm member
    obtain ⟨_, _, _, lookedSender⟩ := found sender known
    obtain ⟨clean, mode, noLlc, noL2c⟩ := fields_of_found lookedSender
    obtain ⟨w, plain, ordinary⟩ := plain_of_notifies (fleet.runs sender known) notifies
    rw [plain, Workload.text_plain] at clean
    have five : FiveFields sender.wl fleet.options := ⟨⟨w, plain, clean, ordinary⟩, mode, noLlc, noL2c⟩
    have own : sender = vm :=
      fleet.eq_of_registered member known (Except.ok.inj ((fleet.found_own known five).symm.trans looked))
    rw [← own]
    exact ⟨notifies, five⟩
  · intro good vm member
    have all : fleet.killed arrivals = arrivals.map fun vm => decimal vm.pid := by
      refine startServer_map fun sender arrived => ?_
      have known := ((senders sender).mp arrived).1
      exact (fleet.serve_iff known known).mpr (fleet.found_own known (good sender known).2)
    rw [all]
    exact List.mem_map.mpr ⟨vm, (senders vm).mpr ⟨member, (good vm member).1⟩, rfl⟩

def memcacheWord : Word := .ofText "memcache".toList (Eq.refl true)

def memcacheVm : Vm where
  wl := .plain memcacheWord
  range := ⟨0, 29⟩
  pid := 4242

def memcacheStarted : Decoded where
  script := "run_memcache.sh".toList
  workload := "memcache".toList
  iterations := none
  asm := none
  startCore := "0".toList
  endCore := "29".toList
  resultFile := "memcache_0-29_co_na_sst-0_rep_1".toList

theorem memcache_registered : ∀ vm ∈ [memcacheVm], (vm.registered (plainRun .na)).all nameChar = true := by decide

theorem memcache_runs : ∀ vm ∈ [memcacheVm], runExpVm (plainRun .na).suffix vm.name = some memcacheStarted := by decide

/-- One VM that notifies. -/
def memcacheFleet : Fleet where
  vms := [memcacheVm]
  options := plainRun .na
  started := fun _ => memcacheStarted
  names := List.nodup_singleton _
  pids := List.nodup_singleton _
  clean := memcache_registered
  runs := memcache_runs

theorem memcache_killed : decimal 4242 ∈ memcacheFleet.killed [memcacheVm] := by
  have plain : ¬ "speccpu".toList <:+: memcacheWord.text := by decide
  have five : FiveFields memcacheVm.wl (plainRun .na) :=
    ⟨⟨memcacheWord, rfl, by decide, plain⟩, by decide, rfl, rfl⟩
  refine (@killed_all_iff memcacheFleet [memcacheVm] (.refl _)).mpr ?_ memcacheVm List.mem_cons_self
  intro vm member
  cases List.mem_singleton.mp member
  exact ⟨by decide, five⟩

end KvmWorkload.Turbostat.Completion
