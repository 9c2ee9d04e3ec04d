import KvmWorkload.RunTestcases.Session

/-! # In which DRC state a run is measured

A run without HWDRC is meant to be measured with DRC off, and a run with HWDRC
with the settings of its CAS value, on every socket and whatever was run before.
The scripts reach a second socket through core 49 to switch DRC off and through
core 48 to configure it.
-/

namespace KvmWorkload.RunTestcases.Session

open Mailbox

variable {Node : Type} [DecidableEq Node]

/-- What a command does to the DRC registers of the sockets; `home` is the socket of each core. -/
def drcStep (home : Nat → Node) (sockets : Node → Registers) : HostCommand → Node → Registers
  | .drc coreId command => send home sockets (coreId, command)
  | _ => sockets

/-- The states in which the runs of a campaign are measured. -/
def measuredDrc (home : Nat → Node) (runs : List RunConfig) (start : Node → Registers) : List (Node → Registers) :=
  snapshots (drcStep home) HostCommand.isRun start (campaign runs)

/-- The DRC state that a configuration asks for: that of its CAS value with `HWDRC_ENABLE`, and DRC off
    without. -/
def DrcWanted (cfg : RunConfig) (sockets : Node → Registers) : Prop :=
  if cfg.qos.hwdrcEnable then ∀ node, sockets node = (casSettings cfg.hwdrcCasVal).value
  else ∀ node, sockets node .memclosEn = 0x0

theorem branch_eq_hwdrc_iff (cfg : RunConfig) :
    branch cfg = .hwdrc ↔ cfg.qos.hwdrcEnable = true ∧ cfg.hostExp = false := by
  unfold branch
  cases cfg.hostExp <;> cases cfg.resctrl <;> cases cfg.qos.hwdrcEnable <;> cases cfg.qos.mbaEnable <;>
    cases cfg.qos.cpatEnable <;> decide

theorem drcStep_other (home : Nat → Node) (sockets : Node → Registers) (command : HostCommand)
    (other : command.plane ≠ .drc) : drcStep home sockets command = sockets := by
  cases command <;> first | rfl | exact absurd rfl other

theorem foldl_drcScript (home : Nat → Node) (sockets : Node → Registers) (script : DrcScript) :
    (drcScript script).foldl (drcStep home) sockets = sendAll home sockets script := by
  rw [drcScript, List.foldl_map]
  rfl

theorem sendAll_disable (home : Nat → Node) (sockets : Node → Registers) (node : Node) :
    sendAll home sockets hwdrcIcx2SXccDisable node =
      if node = home 1 ∨ node = home 49 then Function.update (sockets node) .memclosEn 0x0 else sockets node :=
  sendAll_eachSocket_disable home 49 sockets node

theorem sendAll_cas (home : Nat → Node) (cas : Nat) (sockets : Node → Registers) (node : Node) :
    sendAll home sockets (hwdrcIcx2SXccInitToDefaultPqosCas cas) node =
      if node = home 1 ∨ node = home 48 then (casSettings cas).value else sockets node :=
  sendAll_eachSocket_update home 48 _ sockets node

theorem prepared_drc (home : Nat → Node) (cfg : RunConfig) (sockets : Node → Registers) :
    (prepared cfg).foldl (drcStep home) sockets =
      if branch cfg = .hwdrc then
        sendAll home (sendAll home sockets hwdrcIcx2SXccDisable) (hwdrcIcx2SXccInitToDefaultPqosCas cfg.hwdrcCasVal)
      else sendAll home sockets hwdrcIcx2SXccDisable := by
  rw [foldl_onPlane .drc (drcStep_other home), onPlane_drc_prepared, foldl_drcScript, sendAll, List.foldl_append]
  by_cases hwdrc : branch cfg = .hwdrc
  · rw [if_pos hwdrc, if_pos hwdrc]
    rfl
  · rw [if_neg hwdrc, if_neg hwdrc]
    rfl

/-- With both scripts on every socket each run is measured as it asks, but for the host experiments with
    HWDRC: these never configure it. -/
theorem drcWanted_prepared {home : Nat → Node} (reached : ∀ node, node = home 1 ∨ (node = home 48 ∧ node = home 49))
    (cfg : RunConfig) (sockets : Node → Registers) :
    DrcWanted cfg ((prepared cfg).foldl (drcStep home) sockets) ↔
      (cfg.qos.hwdrcEnable = true → cfg.hostExp = false) := by
  have off : ∀ node, sendAll home sockets hwdrcIcx2SXccDisable node .memclosEn = 0x0 := by
    intro node
    rw [sendAll_disable, if_pos ((reached node).imp_right And.right), Function.update_self]
  rw [prepared_drc, DrcWanted]
  cases enabled : cfg.qos.hwdrcEnable with
  | false =>
      have other : ¬ branch cfg = .hwdrc := by simp [branch_eq_hwdrc_iff, enabled]
      rw [if_neg Bool.false_ne_true, if_neg other]
      exact iff_of_true off fun on => absurd on Bool.false_ne_true
  | true =>
      rw [if_pos rfl]
      cases host : cfg.hostExp with
      | false =>
          rw [if_pos ((branch_eq_hwdrc_iff cfg).mpr ⟨enabled, host⟩)]
          refine iff_of_true (fun node => ?_) fun _ => rfl
          rw [sendAll_cas, if_pos ((reached node).imp_right And.left)]
      | true =>
          have other : ¬ branch cfg = .hwdrc := by simp [branch_eq_hwdrc_iff, host]
          rw [if_neg other]
          refine iff_of_false (fun configured => ?_) (by simp)
          have enable := congrFun (configured (home 1)) .memclosEn
          have on : (casSettings cfg.hwdrcCasVal).value .memclosEn = 0x2 := rfl
          rw [off, on] at enable
          exact absurd enable (by decide)

/-- No feature, on no VM. -/
def plainQos (hwdrcEnable : Bool) : QosConfig where
  vms := 0
  llcEnable := false
  llcCosWl := []
  llcCosWays := []
  l2cEnable := false
  l2cCosWl := []
  l2cCosWays := []
  hwdrcEnable := hwdrcEnable
  hwdrcCosWl := []
  mbaEnable := false
  mbaCosWl := []
  mbaCosVal := []
  cpatEnable := false
  cpatCos := []
  llcLength on := absurd on Bool.false_ne_true
  l2cLength on := absurd on Bool.false_ne_true
  hwdrcLength _ := rfl
  mbaLength on := absurd on Bool.false_ne_true
  cpatLength on := absurd on Bool.false_ne_true

/-- A run in VMs with HWDRC as its only feature, or with none. -/
def plainRun (hwdrcEnable : Bool) : RunConfig where
  qos := plainQos hwdrcEnable
  hostExp := false
  resctrl := false
  sstEnable := 0
  sstCosWl := []
  sstCosFreq := []
  hwdrcCasVal := 16
  monitoring := false
  vmNames := []

/-- In every campaign, from every state of the machine, the runs that are measured in the DRC state their
    configuration asks for are all but the host experiments with HWDRC, exactly when both second cores are on
    every socket but that of core 1. -/
theorem measuredDrc_wanted_iff (home : Nat → Node) :
    (∀ (runs : List RunConfig) (start : Node → Registers),
        List.Forall₂ (fun cfg sockets => DrcWanted cfg sockets ↔ (cfg.qos.hwdrcEnable = true → cfg.hostExp = false))
          runs (measuredDrc home runs start)) ↔
      ∀ node, node = home 1 ∨ (node = home 48 ∧ node = home 49) := by
  constructor
  · intro wanted node
    have single : ∀ on start, DrcWanted (plainRun on) ((prepared (plainRun on)).foldl (drcStep home) start) := by
      intro on start
      have all := wanted [plainRun on] start
      rw [measuredDrc, campaign, List.flatMap_singleton, snapshots_main] at all
      exact (List.forall₂_cons.mp all).1.mpr fun _ => rfl
    by_contra missed
    rw [not_or] at missed
    obtain ⟨first, missed⟩ := missed
    -- DRC was left on everywhere, or never configured.
    have off := single false (fun _ _ => 0x2)
    have on := single true (fun _ _ => 0x0)
    rw [prepared_drc, DrcWanted, if_neg (by decide), if_neg (by decide)] at off
    rw [prepared_drc, DrcWanted, if_pos (by decide), if_pos (by decide)] at on
    have offHere := off node
    have onHere := on node
    rw [sendAll_disable] at offHere
    rw [sendAll_cas] at onHere
    by_cases disabled : node = home 49
    · have notConfigured : ¬ (node = home 1 ∨ node = home 48) :=
        not_or.mpr ⟨first, fun same => missed ⟨same, disabled⟩⟩
      rw [if_neg notConfigured, sendAll_disable, if_pos (Or.inr disabled)] at onHere
      have config := congrFun onHere .config0
      exact absurd config (by decide)
    · rw [if_neg (not_or.mpr ⟨first, disabled⟩)] at offHere
      exact absurd offHere (by decide)
  · intro reached runs start
    refine forall₂_snapshots (fun _ => True) ?_ runs trivial
    intro cfg s _
    exact ⟨trivial, _, snapshots_main cfg _ s, drcWanted_prepared reached cfg s⟩

/-- Two sockets of `cores` cores each, with the siblings of both behind them. -/
def socketOf (cores core : Nat) : Nat := core / cores % 2

/-- Sockets of 48 cores are served, those of 56 and of 60 cores are not. -/
example : socketOf 48 48 = 1 ∧ socketOf 48 49 = 1 ∧ socketOf 56 48 = 0 ∧ socketOf 60 49 = 0 := by decide

end KvmWorkload.RunTestcases.Session
