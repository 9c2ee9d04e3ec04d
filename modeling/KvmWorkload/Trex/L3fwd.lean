import KvmWorkload.Lib.Exec
import KvmWorkload.Lib.Fields
import KvmWorkload.Lib.Lists
import Mathlib.Algebra.Order.Ring.Rat
import Mathlib.Algebra.Field.Rat
import Mathlib.Data.Finset.Card
import Mathlib.Tactic.Linarith

/-! # Streams and rows of the forwarding experiment

`run` of l3fwd.py gives every port of its list a stream and writes a CSV row for
every position of the list.  Port ids and list positions are used for each
other; the rates of every row are those of port 0, and a port that sent nothing
inherits the loss of the row before.
-/

namespace KvmWorkload.Trex.L3fwd

/-- What stops `run`. -/
inductive Failure where
  | keyError
  | indexError
  | unboundLocal
  deriving DecidableEq

/-- A port's entry in the statistics. -/
structure Counters where
  opackets : Nat
  ipackets : Nat
  txUtil : Rat
  rxUtil : Rat
  txPps : Rat
  rxPps : Rat
  txBpsL1 : Rat
  rxBpsL1 : Rat

/-- A packet template: its headers, the largest address of its tuple generator, and the padding. -/
structure Packet where
  ethSrc : Text
  ethDst : Text
  ipSrc : Text
  ipDst : Text
  ipMax : Text
  pad : Nat

structure Stream where
  packet : Packet
  percentage : Rat

/-- The length of `Ether()/IP()`. -/
def headerLength : Nat := 34

/-- `createPacket`. -/
def createPacket (ethSrc ethDst ipSrc ipDst : Text) (pktSize : Nat) : Except Failure Packet :=
  match ipDst.splitOn '.' with
  | a :: b :: c :: _ =>
      .ok { ethSrc, ethDst, ipSrc, ipDst
            ipMax := ['.'].intercalate [a, b, c, "255".toList]
            pad := pktSize - headerLength }
  | _ => .error .indexError

/-- What `run` is given, and what the server answers. -/
structure Setup where
  portList : List Nat
  portDestDict : Nat → Option Text
  frameRate : Rat
  frameSize : Nat
  srcMac : Nat → Text
  stats : Nat → Option Counters

/-- A line of the CSV file. -/
structure Row where
  port : Nat
  txLineRate : Rat
  rxLineRate : Rat
  txFrames : Nat
  rxFrames : Nat
  framesDelta : Int
  lossPct : Rat
  txPps : Rat
  rxPps : Rat
  txL1Rate : Rat
  rxL1Rate : Rat

namespace Setup

variable (setup : Setup)

/-- The stream that is made for a port. -/
def streamOf (i : Nat) : Except Failure Stream := do
  let dest ← (setup.portDestDict i).elim (.error .keyError) .ok
  let packet ← createPacket (setup.srcMac i) dest ('1' :: decimal i ++ ".0.0.1".toList)
    ("198.18.".toList ++ decimal i ++ ".0".toList) setup.frameSize
  return { packet, percentage := setup.frameRate }

/-- The first loop: the stream is added on `portList[i]`. -/
def addStream (i : Nat) : Except Failure (Stream × Nat) := do
  let stream ← setup.streamOf i
  let port ← setup.portList[i]?.elim (.error .indexError) .ok
  return (stream, port)

/-- `max_stats[i]`. -/
def statsOf (i : Nat) : Except Failure Counters := (setup.stats i).elim (.error .keyError) .ok

/-- `framesDelta` of one row. -/
def framesDelta (i : Nat) (own : Counters) : Except Failure Int :=
  if setup.portList.length = 1 then .ok (own.opackets - own.ipackets)
  else if i % 2 = 0 then do return own.opackets - (← setup.statsOf (i + 1)).ipackets
  else do return own.opackets - (← setup.statsOf (i - 1)).ipackets

/-- One iteration of the last loop.  `frameLossPct` is unbound until a port has sent something. -/
def csvRow (frameLossPct : Option Rat) (i : Nat) : Except Failure (Row × Option Rat) := do
  let own ← setup.statsOf i
  let framesDelta ← setup.framesDelta i own
  let frameLossPct := if own.opackets ≠ 0 then some ((framesDelta : Rat) / own.opackets * 100) else frameLossPct
  let first ← setup.statsOf 0
  let lossPct ← frameLossPct.elim (.error .unboundLocal) .ok
  let row : Row :=
    { port := i
      txLineRate := first.txUtil * 0.25
      rxLineRate := first.rxUtil * 0.25
      txFrames := own.opackets
      rxFrames := own.ipackets
      framesDelta
      lossPct
      txPps := first.txPps
      rxPps := first.rxPps
      txL1Rate := first.txBpsL1
      rxL1Rate := first.rxBpsL1 }
  return (row, frameLossPct)

end Setup

/-- What `run` leaves behind: the streams added, the rows written, and what stopped it. -/
structure Outcome where
  added : List (Stream × Nat)
  rows : List Row
  stopped : Option Failure

/-- `run`. -/
def run (setup : Setup) : Outcome :=
  let streams := scanUntil (fun (_ : Unit) i => do return (← setup.addStream i, ())) () setup.portList
  match streams.2 with
  | some failure => { added := streams.1, rows := [], stopped := some failure }
  | none =>
      let csv := scanUntil setup.csvRow none (List.range setup.portList.length)
      { added := streams.1, rows := csv.1, stopped := csv.2 }

/-- The position of the port that receives what the port at a position sends. -/
def partner (portList : List Nat) (k : Nat) : Nat :=
  if portList.length = 1 then k else if k % 2 = 0 then k + 1 else k - 1

/-- A list of ports that the experiment is meant for, with a destination and counters for each. -/
structure Usable (setup : Setup) : Prop where
  nonempty : setup.portList ≠ []
  distinct : setup.portList.Nodup
  paired : setup.portList.length = 1 ∨ setup.portList.length % 2 = 0
  destinations : ∀ p ∈ setup.portList, (setup.portDestDict p).isSome = true
  counted : ∀ p ∈ setup.portList, (setup.stats p).isSome = true

/-- Two tables agree on a port's own counters and on its partner's received count. -/
structure SameFor (portList : List Nat) (k : Nat) (stats stats' : Nat → Option Counters) : Prop where
  own : ∀ p, portList[k]? = some p → stats p = stats' p
  received : ∀ q, portList[partner portList k]? = some q →
    (stats q).map Counters.ipackets = (stats' q).map Counters.ipackets

/-- Every port's stream goes out on that port, and every port has one row, which no other counters
    than its own and its partner's received count can change. -/
structure Described (setup : Setup) : Prop where
  sent : List.Forall₂ (fun p sent => setup.streamOf p = .ok sent.1 ∧ sent.2 = p)
    setup.portList (run setup).added
  complete : (run setup).rows.length = setup.portList.length ∧ (run setup).stopped = none
  own : ∀ k p, setup.portList[k]? = some p →
    ∀ stats', (∀ q ∈ setup.portList, (stats' q).isSome = true) →
      SameFor setup.portList k setup.stats stats' →
        ∃ row : Row, row.port = p ∧ (run setup).rows[k]? = some row ∧
          (run { setup with stats := stats' }).rows[k]? = some row

theorem addStream_ok {setup : Setup} {i : Nat} {sent : Stream × Nat} (runs : setup.addStream i = .ok sent) :
    setup.portList[i]? = some sent.2 := by
  obtain ⟨stream, -, runs⟩ := except_bind_ok.mp runs
  obtain ⟨port, found, ends⟩ := except_bind_ok.mp runs
  cases ends
  cases entry : setup.portList[i]? with
  | none =>
      rw [entry] at found
      cases found
  | some port' =>
      rw [entry] at found
      cases found
      rfl

theorem run_added (setup : Setup) :
    (run setup).added =
      (scanUntil (fun (_ : Unit) i => do return (← setup.addStream i, ())) () setup.portList).1 := by
  rw [run]
  split <;> rfl

theorem added_on {setup : Setup} {k : Nat} {sent : Stream × Nat} (here : (run setup).added[k]? = some sent) :
    ∃ p, setup.portList[k]? = some p ∧ setup.portList[p]? = some sent.2 := by
  rw [run_added] at here
  obtain ⟨p, position, _, _, runs⟩ := scanUntil_getElem? here
  obtain ⟨sent', added, ends⟩ := except_bind_ok.mp runs
  cases ends
  exact ⟨p, position, addStream_ok added⟩

theorem getElem?_of_fixed {ports : List Nat} (distinct : ports.Nodup)
    (fixed : ∀ p ∈ ports, ports[p]? = some p) {k : Nat} (inside : k < ports.length) : ports[k]? = some k := by
  have within : ports.toFinset ⊆ Finset.range ports.length := by
    intro p member
    obtain ⟨bound, -⟩ := List.getElem?_eq_some_iff.mp (fixed p (List.mem_toFinset.mp member))
    exact Finset.mem_range.mpr bound
  have all : ports.toFinset = Finset.range ports.length := by
    refine Finset.eq_of_subset_of_card_le within ?_
    rw [Finset.card_range, List.toFinset_card_of_nodup distinct]
  apply fixed k
  rw [← List.mem_toFinset, all]
  exact Finset.mem_range.mpr inside

theorem Described.counts_up {setup : Setup} (distinct : setup.portList.Nodup) (described : Described setup)
    {k : Nat} (inside : k < setup.portList.length) : setup.portList[k]? = some k := by
  refine getElem?_of_fixed distinct (fun p member => ?_) inside
  obtain ⟨position, here⟩ := List.mem_iff_getElem?.mp member
  obtain ⟨sent, added, -, same⟩ := forall₂_getElem? described.sent here
  obtain ⟨p', here', found⟩ := added_on added
  cases here.symm.trans here'
  rwa [same] at found

theorem statsOf_ok {setup : Setup} {i : Nat} {counters : Counters} :
    setup.statsOf i = .ok counters ↔ setup.stats i = some counters := by
  rw [Setup.statsOf]
  cases setup.stats i <;> simp

theorem csvRow_txLineRate {setup : Setup} {before after : Option Rat} {i : Nat} {row : Row}
    (runs : setup.csvRow before i = .ok (row, after)) :
    ∃ first, setup.stats 0 = some first ∧ row.txLineRate = first.txUtil * 0.25 := by
  obtain ⟨own, -, runs⟩ := except_bind_ok.mp runs
  obtain ⟨delta, -, runs⟩ := except_bind_ok.mp runs
  obtain ⟨first, found, runs⟩ := except_bind_ok.mp runs
  obtain ⟨loss, -, ends⟩ := except_bind_ok.mp runs
  cases ends
  exact ⟨first, statsOf_ok.mp found, rfl⟩

theorem run_rows {setup : Setup} {k : Nat} {row : Row} (here : (run setup).rows[k]? = some row) :
    ∃ before after, setup.csvRow before k = .ok (row, after) := by
  rw [run] at here
  split at here
  · cases here
  · obtain ⟨i, position, before, after, runs⟩ := scanUntil_getElem? here
    obtain ⟨_, same⟩ := List.getElem?_eq_some_iff.mp position
    rw [List.getElem_range] at same
    subst same
    exact ⟨before, after, runs⟩

theorem sameFor_second {portList : List Nat} (first : portList[0]? = some 0) (second : portList[1]? = some 1)
    {stats : Nat → Option Counters} {counters counters' : Counters} (found : stats 0 = some counters)
    (received : counters'.ipackets = counters.ipackets) :
    SameFor portList 1 stats (Function.update stats 0 (some counters')) := by
  have two : portList.length ≠ 1 := by
    have below := (List.getElem?_eq_some_iff.mp second).1
    omega
  constructor
  · intro p position
    cases second.symm.trans position
    rw [Function.update_of_ne (by decide)]
  · intro q position
    rw [partner, if_neg two, if_neg (by decide)] at position
    cases first.symm.trans position
    rw [Function.update_self, found, Option.map_some, Option.map_some, received]

theorem isSome_update {stats : Nat → Option Counters} {q : Nat} (counted : (stats q).isSome = true) (p : Nat)
    (counters : Counters) : (Function.update stats p (some counters) q).isSome = true := by
  by_cases same : q = p
  · subst same
    rw [Function.update_self]
    rfl
  · rwa [Function.update_of_ne same]

/-- A second port's row changes with the rates of the first port. -/
theorem Described.single {setup : Setup} (usable : Usable setup) (described : Described setup) :
    setup.portList = [0] := by
  have first := described.counts_up usable.distinct (List.length_pos_of_ne_nil usable.nonempty)
  by_cases two : 1 < setup.portList.length
  · have second := described.counts_up usable.distinct two
    obtain ⟨counters, found⟩ := Option.isSome_iff_exists.mp (usable.counted 0 (List.mem_of_getElem? first))
    let faster : Counters := { counters with txUtil := counters.txUtil + 1 }
    obtain ⟨row, -, here, there⟩ := described.own 1 1 second _
      (fun q member => isSome_update (usable.counted q member) 0 faster) (sameFor_second first second found rfl)
    obtain ⟨before, after, runs⟩ := run_rows here
    obtain ⟨before', after', runs'⟩ := run_rows there
    obtain ⟨entry, read, rate⟩ := csvRow_txLineRate runs
    obtain ⟨entry', read', rate'⟩ := csvRow_txLineRate runs'
    cases found.symm.trans read
    simp only [Function.update_self, Option.some.injEq] at read'
    subst read'
    rw [rate] at rate'
    simp only [faster] at rate'
    linarith
  · obtain ⟨p, only⟩ := List.length_eq_one_iff.mp
      (Nat.le_antisymm (Nat.not_lt.mp two) (List.length_pos_of_ne_nil usable.nonempty))
    rw [only] at first ⊢
    cases first
    rfl

theorem exists_streamOf {setup : Setup} {i : Nat} (destination : (setup.portDestDict i).isSome = true) :
    ∃ stream, setup.streamOf i = .ok stream := by
  obtain ⟨dest, found⟩ := Option.isSome_iff_exists.mp destination
  have address : "198.18.".toList ++ decimal i ++ ".0".toList =
      ['.'].intercalate ["198".toList, "18".toList, decimal i, "0".toList] := by simp
  have parts : ("198.18.".toList ++ decimal i ++ ".0".toList).splitOn '.' =
      ["198".toList, "18".toList, decimal i, "0".toList] := by
    rw [address]
    exact List.splitOn_intercalate '.' (by simp [not_mem_decimal]) (by simp)
  obtain ⟨packet, made⟩ : ∃ packet, createPacket (setup.srcMac i) dest ('1' :: decimal i ++ ".0.0.1".toList)
      ("198.18.".toList ++ decimal i ++ ".0".toList) setup.frameSize = .ok packet := by
    rw [createPacket, parts]
    exact ⟨_, rfl⟩
  rw [Setup.streamOf, found, Option.elim_some, except_ok_bind, made]
  exact ⟨_, rfl⟩

section OnePort

variable {setup : Setup} {counters : Counters}

/-- The row of a single port that sent something. -/
def onlyRow (counters : Counters) : Row where
  port := 0
  txLineRate := counters.txUtil * 0.25
  rxLineRate := counters.rxUtil * 0.25
  txFrames := counters.opackets
  rxFrames := counters.ipackets
  framesDelta := counters.opackets - counters.ipackets
  lossPct := ((counters.opackets - counters.ipackets : Int) : Rat) / counters.opackets * 100
  txPps := counters.txPps
  rxPps := counters.rxPps
  txL1Rate := counters.txBpsL1
  rxL1Rate := counters.rxBpsL1

theorem csvRow_one_port (only : setup.portList = [0]) (found : setup.stats 0 = some counters)
    (active : counters.opackets ≠ 0) :
    setup.csvRow none 0 = .ok (onlyRow counters, some (onlyRow counters).lossPct) := by
  have own := statsOf_ok.mpr found
  have delta : setup.framesDelta 0 counters = .ok ((counters.opackets : Int) - counters.ipackets) := by
    rw [Setup.framesDelta, only, if_pos (by rfl)]
  rw [Setup.csvRow, own]
  simp only [except_ok_bind, delta, if_pos active]
  rfl

theorem rows_of_idle (only : setup.portList = [0]) (found : setup.stats 0 = some counters)
    (idle : counters.opackets = 0) : (run setup).rows = [] := by
  have own := statsOf_ok.mpr found
  have delta : setup.framesDelta 0 counters = .ok ((counters.opackets : Int) - counters.ipackets) := by
    rw [Setup.framesDelta, only, if_pos (by rfl)]
  have stops : setup.csvRow none 0 = .error .unboundLocal := by
    rw [Setup.csvRow, own]
    simp only [except_ok_bind, delta, if_neg (not_not.mpr idle)]
    rfl
  rw [run]
  split
  · rfl
  · rw [only, List.length_singleton, List.range_one, scanUntil_cons_of_error stops]

theorem run_one_port (only : setup.portList = [0]) {stream : Stream} (made : setup.streamOf 0 = .ok stream)
    (found : setup.stats 0 = some counters) (active : counters.opackets ≠ 0) :
    run setup = { added := [(stream, 0)], rows := [onlyRow counters], stopped := none } := by
  have add : setup.addStream 0 = .ok (stream, 0) := by
    rw [Setup.addStream, made, only]
    rfl
  have streams : scanUntil (fun (_ : Unit) i => do return (← setup.addStream i, ())) () setup.portList =
      ([(stream, 0)], none) := by
    rw [only, scanUntil_cons_of_ok (by rw [add]; rfl), scanUntil_nil]
  have csv : scanUntil setup.csvRow none (List.range setup.portList.length) = ([onlyRow counters], none) := by
    rw [only, List.length_singleton, List.range_one, scanUntil_cons_of_ok (csvRow_one_port only found active),
      scanUntil_nil]
  simp only [run, streams, csv]

end OnePort

/-- The rows describe their own ports for the single port 0 when it has sent something, and in no
    other case. -/
theorem described_iff {setup : Setup} (usable : Usable setup) :
    Described setup ↔ setup.portList = [0] ∧ ∃ counters, setup.stats 0 = some counters ∧ counters.opackets ≠ 0 := by
  constructor
  · intro described
    have only := described.single usable
    refine ⟨only, ?_⟩
    obtain ⟨counters, found⟩ := Option.isSome_iff_exists.mp (usable.counted 0 (by simp [only]))
    refine ⟨counters, found, fun idle => ?_⟩
    have written := described.complete.1
    rw [rows_of_idle only found idle, only] at written
    cases written
  · rintro ⟨only, counters, found, active⟩
    obtain ⟨stream, made⟩ := exists_streamOf (usable.destinations 0 (by simp [only]))
    have outcome := run_one_port only made found active
    constructor
    · rw [outcome, only]
      exact .cons ⟨made, rfl⟩ .nil
    · rw [outcome, only]
      exact ⟨rfl, rfl⟩
    · intro k p position stats' _ same
      rw [only] at position same
      cases k with
      | zero =>
          cases position
          have found' : stats' 0 = some counters := (same.own 0 rfl).symm.trans found
          have outcome' := @run_one_port { setup with stats := stats' } counters only stream made found' active
          refine ⟨onlyRow counters, rfl, ?_, ?_⟩
          · rw [outcome]
            rfl
          · rw [outcome']
            rfl
      | succ k => cases position

def sampleCounters : Counters where
  opackets := 100
  ipackets := 99
  txUtil := 40
  rxUtil := 39
  txPps := 10
  rxPps := 10
  txBpsL1 := 6720
  rxBpsL1 := 6653

/-- An experiment on the given ports, all of which show the same counters. -/
def sampleSetup (portList : List Nat) : Setup where
  portList := portList
  portDestDict _ := some "3C:FD:FE:D2:6C:5C".toList
  frameRate := 400
  frameSize := 64
  srcMac _ := "3C:FD:FE:D2:6C:5D".toList
  stats _ := some sampleCounters

theorem described_port_zero : Usable (sampleSetup [0]) ∧ Described (sampleSetup [0]) := by
  have usable : Usable (sampleSetup [0]) :=
    ⟨by decide, by decide, .inl rfl, fun _ _ => rfl, fun _ _ => rfl⟩
  exact ⟨usable, (described_iff usable).mpr ⟨rfl, sampleCounters, rfl, by decide⟩⟩

/-- With two ports the second row already shows the first port's rates. -/
theorem not_described_two_ports :
    Usable (sampleSetup [0, 1]) ∧ ¬ Described (sampleSetup [0, 1]) := by
  have usable : Usable (sampleSetup [0, 1]) :=
    ⟨by decide, by decide, .inr rfl, fun _ _ => rfl, fun _ _ => rfl⟩
  refine ⟨usable, fun described => ?_⟩
  cases described.single usable

end KvmWorkload.Trex.L3fwd
