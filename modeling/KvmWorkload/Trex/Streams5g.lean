import KvmWorkload.Lib.Exec
import KvmWorkload.Lib.Fields
import KvmWorkload.Lib.Lists
import Mathlib.Algebra.Order.Ring.Int

/-! # The streams of the 5G experiment

`get_bonded_streams` and `get_streams` of trex_exp_5g.py compute the addresses,
ports and tunnel ids of one instance and hand them to `create_stream`.  They
differ in the tunnel end point, in the tunnel ids, and in the spelling under
which they look for the Ethernet addresses among their keyword arguments.
-/

namespace KvmWorkload.Trex.FiveG

/-- What stops the script. -/
inductive PyError where
  | valueError
  | attributeError
  | addressValueError
  | indexError
  deriving DecidableEq

/-- An IPv4 address. -/
@[ext]
structure Address where
  value : Nat
  fits : value < 2 ^ 32
  deriving DecidableEq

/-- The numbers that are addresses. -/
def InRange (n : Int) : Prop := 0 ≤ n ∧ n < 2 ^ 32

instance (n : Int) : Decidable (InRange n) := inferInstanceAs (Decidable (_ ∧ _))

/-- `address + n`, which raises when the sum is no address. -/
def Address.add (address : Address) (n : Int) : Except PyError Address :=
  if inRange : InRange (address.value + n) then
    .ok ⟨(address.value + n).toNat, by have := inRange.2; omega⟩
  else .error .addressValueError

/-- `ipaddress.ip_address(u"a.b.c.d")`. -/
def dotted (a b c d : Fin 256) : Address :=
  ⟨a * 2 ^ 24 + b * 2 ^ 16 + c * 2 ^ 8 + d, by omega⟩

theorem Address.add_ok {address sum : Address} {n : Int} :
    address.add n = .ok sum ↔ (sum.value : Int) = address.value + n := by
  rw [add]
  split
  next inRange =>
    rw [Except.ok.injEq, Address.mk.injEq]
    have := inRange.1
    omega
  next outside =>
    simp only [reduceCtorEq, false_iff]
    intro same
    have := sum.fits
    exact outside ⟨by omega, by omega⟩

theorem Address.exists_add_ok {address : Address} {n : Int} :
    (∃ sum, address.add n = .ok sum) ↔ InRange (address.value + n) := by
  rw [add]
  split <;> simp [*]

/-- The keyword arguments of a call. -/
structure Kwargs where
  numbers : List (Text × Int)
  texts : List (Text × Text)

/-- `kwargs.get(key, default)`. -/
def Kwargs.number (kwargs : Kwargs) (key : Text) (default : Int) : Int := (kwargs.numbers.lookup key).getD default

/-- `kwargs.get(key, None)`. -/
def Kwargs.text (kwargs : Kwargs) (key : Text) : Option Text := kwargs.texts.lookup key

/-- An Ethernet header; an address that is not given is left to the packet library. -/
structure Ether where
  src : Option Text
  dst : Option Text
  deriving DecidableEq

/-- Whether an optional text counts as true. -/
def given (text : Option Text) : Bool := text.any (· ≠ [])

/-- The header from the two optional addresses.  A source alone is dropped. -/
def etherOf (ethsrc ethdst : Option Text) : Ether :=
  if given ethsrc && given ethdst then { src := ethsrc, dst := ethdst }
  else if given ethsrc || given ethdst then { src := none, dst := ethdst }
  else { src := none, dst := none }

/-- What the builders leave in the object for `create_stream`. -/
structure Plan where
  inst : Int
  ue : Int
  apps : Int
  ulSize : Nat
  dlSize : Nat
  ether : Ether
  outerUlSrc : Address
  outerUlDst : Address
  ulDst : Address
  ulSrcMin : Address
  ulSrcMax : Address
  udpSrcMin : Int
  udpSrcMax : Int
  teidMin : Int
  teidMax : Int

/-- A variable of the field engine, which counts from `min` up to `max` in `size` bytes. -/
structure FlowVar where
  name : Text
  min : Int
  max : Int
  size : Nat

/-- The values of the variable fit its size. -/
def FlowVar.Fits (var : FlowVar) : Prop := 0 ≤ var.min ∧ var.max < 256 ^ var.size

inductive Packet where
  /-- A packet in a GTP tunnel between the outer addresses. -/
  | uplink (outerSrc outerDst : Address) (teid : Int) (qfi : Nat) (src dst : Address) (dport sport : Nat)
  | downlink (src dst : Address) (dport sport : Nat)

structure Stream where
  name : Text
  ether : Ether
  packet : Packet
  size : Nat
  vars : List FlowVar

def qfis : List Nat := [9, 6, 6, 6, 6, 6, 6, 6, 6, 4]

def ulUdpSrcPorts : List Nat := [20001, 2011, 2112, 2213, 2314, 2415, 2516, 2617, 2718, 2819]

def ulUdpDstPorts : List Nat := [20001, 2000, 2100, 2200, 2300, 2400, 2500, 2600, 2700, 2800]

/-- `list[i]`. -/
def entry (list : List Nat) (i : Nat) : Except PyError Nat := list[i]?.elim (.error .indexError) .ok

namespace Plan

variable (plan : Plan)

/-- The variables of `vm1`. -/
def ulVars : List FlowVar :=
  [{ name := "ip_src_outer".toList, min := plan.outerUlSrc.value, max := plan.outerUlSrc.value, size := 4 },
   { name := "ip_src".toList, min := plan.ulSrcMin.value, max := plan.ulSrcMax.value, size := 4 },
   { name := "udp_src_port_outer".toList, min := plan.udpSrcMin, max := plan.udpSrcMax, size := 2 },
   { name := "teid".toList, min := plan.teidMin, max := plan.teidMax, size := 4 }]

/-- The variable of `vm2`; the downlink's destinations are the uplink's sources. -/
def dlVars : List FlowVar :=
  [{ name := "ip_dst".toList, min := plan.ulSrcMin.value, max := plan.ulSrcMax.value, size := 4 }]

/-- The streams of one application: one uplink and three downlinks. -/
def appStreams (i : Nat) : Except PyError (List Stream) := do
  let qfi ← entry qfis i
  let dport ← entry ulUdpDstPorts i
  let sport ← entry ulUdpSrcPorts i
  let uplink : Stream :=
    { name := "UL-".toList ++ decimal (i + 1) ++ "-1".toList
      ether := plan.ether
      packet := .uplink plan.outerUlSrc plan.outerUlDst plan.teidMin qfi plan.ulSrcMin plan.ulDst dport sport
      size := plan.ulSize
      vars := plan.ulVars }
  let downlinks : List Stream := (List.range 3).map fun j =>
    { name := "DL-".toList ++ decimal (i + 1) ++ '-' :: decimal (j + 1)
      ether := plan.ether
      packet := .downlink plan.ulDst plan.ulSrcMin sport dport
      size := plan.dlSize
      vars := plan.dlVars }
  return uplink :: downlinks

def createStream : Except PyError (List Stream) := do
  let streams ← (List.range plan.apps.toNat).mapM plan.appStreams
  return streams.flatten

end Plan

/-- Where the two builders differ. -/
structure Builder where
  ethSrcKey : Text
  ethDstKey : Text
  /-- What is added to the first tunnel end point. -/
  endPoint : Int → Int
  teidMin : Int → Int → Int
  teidMax : Int → Int → Int

/-- A finished object: what was planned and the streams made from it. -/
structure Built where
  plan : Plan
  streams : List Stream

/-- The addressing part of the body that both builders have. -/
def Builder.plan (builder : Builder) (inst ue apps ps : Int) (ether : Ether) : Except PyError Plan := do
  let outerUlSrc ← (dotted 192 178 120 140).add inst
  let outerUlDst ← (dotted 192 178 120 170).add (builder.endPoint inst)
  let ulDst ← (dotted 192 178 96 140).add inst
  let ulSrcMin ← (dotted 172 20 0 1).add (inst * ue)
  let ulSrcMax ← (← ulSrcMin.add ue).add (-1)
  return { inst, ue, apps, ether, outerUlSrc, outerUlDst, ulDst, ulSrcMin, ulSrcMax
           ulSize := if ps = 650 then 564 else 864
           dlSize := if ps = 650 then 608 else 908
           udpSrcMin := 10001
           udpSrcMax := 10001 + ue - 1
           teidMin := builder.teidMin inst ue
           teidMax := builder.teidMax inst ue }

/-- The body that both builders have; `none` stands for the returned `-1`. -/
def Builder.build (builder : Builder) (kwargs : Kwargs) : Except PyError (Option Built) :=
  let inst := kwargs.number "inst".toList 0
  let ue := kwargs.number "ue".toList 10000
  let apps := kwargs.number "apps".toList 10
  let ps := kwargs.number "ps".toList 650
  if ps ≠ 650 ∧ ps ≠ 950 then .ok none
  else do
    let ether := etherOf (kwargs.text builder.ethSrcKey) (kwargs.text builder.ethDstKey)
    let plan ← builder.plan inst ue apps ps ether
    return some { plan, streams := ← plan.createStream }

/-- `get_bonded_streams`.  Two instances share a tunnel end point; `int(instance / 2)` truncates. -/
def bondedBuilder : Builder where
  ethSrcKey := "eth-src".toList
  ethDstKey := "eth-dst".toList
  endPoint inst := inst.tdiv 2
  teidMin inst ue := 1 + inst % 2 * ue
  teidMax inst ue := ue * (inst % 2 + 1)

@[simp] theorem bondedBuilder_endPoint (inst : Int) : bondedBuilder.endPoint inst = inst.tdiv 2 := rfl

@[simp] theorem bondedBuilder_teidMin (inst ue : Int) : bondedBuilder.teidMin inst ue = 1 + inst % 2 * ue := rfl

@[simp] theorem bondedBuilder_teidMax (inst ue : Int) : bondedBuilder.teidMax inst ue = ue * (inst % 2 + 1) := rfl

def getBondedStreams : Kwargs → Except PyError (Option Built) := bondedBuilder.build

/-- `get_streams`. -/
def plainBuilder : Builder where
  ethSrcKey := "eth_src".toList
  ethDstKey := "eth_dst".toList
  endPoint inst := inst
  teidMin _ _ := 1
  teidMax _ ue := ue

@[simp] theorem plainBuilder_teidMin (inst ue : Int) : plainBuilder.teidMin inst ue = 1 := rfl

@[simp] theorem plainBuilder_teidMax (inst ue : Int) : plainBuilder.teidMax inst ue = ue := rfl

def getStreams : Kwargs → Except PyError (Option Built) := plainBuilder.build

section Streams

variable {plan : Plan} {streams : List Stream}

theorem appStreams_ok {i : Nat} (made : plan.appStreams i = .ok streams) :
    ∃ uplink downlink others, streams = uplink :: downlink :: others ∧ uplink.vars = plan.ulVars ∧
      (∀ stream ∈ downlink :: others, stream.vars = plan.dlVars) ∧
      ∀ stream ∈ streams, stream.ether = plan.ether := by
  obtain ⟨qfi, -, made⟩ := except_bind_ok.mp made
  obtain ⟨dport, -, made⟩ := except_bind_ok.mp made
  obtain ⟨sport, -, ends⟩ := except_bind_ok.mp made
  cases ends
  exact ⟨_, _, _, rfl, rfl, by simp, by simp⟩

theorem exists_appStreams {i : Nat} (inside : i < 10) : ∃ streams, plan.appStreams i = .ok streams := by
  have found : ∀ list : List Nat, list.length = 10 → ∃ n, entry list i = .ok n := by
    intro list length
    rw [entry, List.getElem?_eq_getElem (length ▸ inside)]
    exact ⟨_, rfl⟩
  obtain ⟨qfi, first⟩ := found qfis rfl
  obtain ⟨dport, second⟩ := found ulUdpDstPorts rfl
  obtain ⟨sport, third⟩ := found ulUdpSrcPorts rfl
  rw [Plan.appStreams, first, second, third]
  exact ⟨_, rfl⟩

theorem exists_createStream (apps : plan.apps = 10) : ∃ streams, plan.createStream = .ok streams := by
  obtain ⟨lists, made⟩ : ∃ lists, (List.range plan.apps.toNat).mapM plan.appStreams = .ok lists := by
    refine except_exists_mapM_ok fun i member => exists_appStreams ?_
    have inside := List.mem_range.mp member
    rwa [apps] at inside
  rw [Plan.createStream, made]
  exact ⟨_, rfl⟩

theorem mem_createStream (made : plan.createStream = .ok streams) {stream : Stream} (member : stream ∈ streams) :
    ∃ i app, plan.appStreams i = .ok app ∧ stream ∈ app := by
  obtain ⟨lists, all, ends⟩ := except_bind_ok.mp made
  cases ends
  obtain ⟨app, inside, here⟩ := List.mem_flatten.mp member
  obtain ⟨i, -, runs⟩ := forall₂_exists_left (except_mapM_ok.mp all) inside
  exact ⟨i, app, runs, here⟩

theorem createStream_ether (made : plan.createStream = .ok streams) :
    ∀ stream ∈ streams, stream.ether = plan.ether := by
  intro stream member
  obtain ⟨i, app, runs, here⟩ := mem_createStream made member
  obtain ⟨_, _, _, -, -, -, ether⟩ := appStreams_ok runs
  exact ether stream here

theorem createStream_vars (made : plan.createStream = .ok streams) (apps : plan.apps = 10) {P : FlowVar → Prop} :
    (∀ stream ∈ streams, ∀ var ∈ stream.vars, P var) ↔ ∀ var ∈ plan.ulVars ++ plan.dlVars, P var := by
  constructor
  · intro all
    obtain ⟨lists, each, ends⟩ := except_bind_ok.mp made
    cases ends
    have first : 0 ∈ List.range plan.apps.toNat := by
      rw [apps]
      decide
    obtain ⟨app, inside, runs⟩ := forall₂_exists_right (except_mapM_ok.mp each) first
    obtain ⟨uplink, downlink, others, rfl, up, down, -⟩ := appStreams_ok runs
    intro var member
    rcases List.mem_append.mp member with above | below
    · exact all uplink (List.mem_flatten.mpr ⟨_, inside, by simp⟩) var (up ▸ above)
    · exact all downlink (List.mem_flatten.mpr ⟨_, inside, by simp⟩) var (down downlink (by simp) ▸ below)
  · intro all stream member var inside
    obtain ⟨i, app, runs, here⟩ := mem_createStream made member
    obtain ⟨uplink, downlink, others, rfl, up, down, -⟩ := appStreams_ok runs
    apply all
    rcases List.mem_cons.mp here with rfl | later
    · rw [up] at inside
      exact List.mem_append_left _ inside
    · rw [down stream later] at inside
      exact List.mem_append_right _ inside

end Streams

/-- The addresses that a builder computes for an instance exist. -/
structure AddressesFit (builder : Builder) (inst ue : Int) : Prop where
  outerSrc : InRange ((dotted 192 178 120 140).value + inst)
  outerDst : InRange ((dotted 192 178 120 170).value + builder.endPoint inst)
  dst : InRange ((dotted 192 178 96 140).value + inst)
  srcMin : InRange ((dotted 172 20 0 1).value + inst * ue)
  srcEnd : InRange ((dotted 172 20 0 1).value + inst * ue + ue)
  srcMax : InRange ((dotted 172 20 0 1).value + inst * ue + ue - 1)

/-- A plan made by a builder for an instance, a number of UEs and a header. -/
structure Planned (builder : Builder) (inst ue : Int) (ether : Ether) (plan : Plan) : Prop where
  sameInst : plan.inst = inst
  sameUe : plan.ue = ue
  sameEther : plan.ether = ether
  outerDst : (plan.outerUlDst.value : Int) = (dotted 192 178 120 170).value + builder.endPoint inst
  srcMin : (plan.ulSrcMin.value : Int) = (dotted 172 20 0 1).value + inst * ue
  srcMax : (plan.ulSrcMax.value : Int) = (dotted 172 20 0 1).value + inst * ue + ue - 1
  udpSrcMin : plan.udpSrcMin = 10001
  udpSrcMax : plan.udpSrcMax = 10001 + ue - 1
  teidMin : plan.teidMin = builder.teidMin inst ue
  teidMax : plan.teidMax = builder.teidMax inst ue

section Build

variable {builder : Builder} {inst ue apps ps : Int} {ether : Ether} {plan : Plan}

theorem Address.inRange (address : Address) {n : Int} (same : (address.value : Int) = n) : InRange n := by
  have := address.fits
  exact ⟨by omega, by omega⟩

theorem plan_ok (made : builder.plan inst ue apps ps ether = .ok plan) :
    AddressesFit builder inst ue ∧ Planned builder inst ue ether plan ∧ plan.apps = apps := by
  obtain ⟨outerUlSrc, outerSrc, made⟩ := except_bind_ok.mp made
  obtain ⟨outerUlDst, outerDst, made⟩ := except_bind_ok.mp made
  obtain ⟨ulDst, dst, made⟩ := except_bind_ok.mp made
  obtain ⟨ulSrcMin, srcMin, made⟩ := except_bind_ok.mp made
  obtain ⟨ulSrcEnd, srcEnd, made⟩ := except_bind_ok.mp made
  obtain ⟨ulSrcMax, srcMax, ends⟩ := except_bind_ok.mp made
  cases ends
  rw [Address.add_ok] at outerSrc outerDst dst srcMin srcEnd srcMax
  rw [srcMin] at srcEnd
  rw [srcEnd] at srcMax
  exact ⟨⟨outerUlSrc.inRange outerSrc, outerUlDst.inRange outerDst, ulDst.inRange dst,
      ulSrcMin.inRange srcMin, ulSrcEnd.inRange srcEnd, ulSrcMax.inRange srcMax⟩,
    ⟨rfl, rfl, rfl, outerDst, srcMin, srcMax, rfl, rfl, rfl, rfl⟩, rfl⟩

theorem exists_plan (fit : AddressesFit builder inst ue) :
    ∃ plan, builder.plan inst ue apps ps ether = .ok plan := by
  obtain ⟨outerUlSrc, outerSrc⟩ := Address.exists_add_ok.mpr fit.outerSrc
  obtain ⟨outerUlDst, outerDst⟩ := Address.exists_add_ok.mpr fit.outerDst
  obtain ⟨ulDst, dst⟩ := Address.exists_add_ok.mpr fit.dst
  obtain ⟨ulSrcMin, srcMin⟩ := Address.exists_add_ok.mpr fit.srcMin
  have last := fit.srcEnd
  rw [← Address.add_ok.mp srcMin] at last
  obtain ⟨ulSrcEnd, srcEnd⟩ := Address.exists_add_ok.mpr last
  have max := fit.srcMax
  rw [← Address.add_ok.mp srcMin, ← Address.add_ok.mp srcEnd, Int.sub_eq_add_neg] at max
  obtain ⟨ulSrcMax, srcMax⟩ := Address.exists_add_ok.mpr max
  rw [Builder.plan, outerSrc, outerDst, dst, srcMin]
  simp only [except_ok_bind, srcEnd, srcMax]
  exact ⟨_, rfl⟩

/-- The arguments that `Config` passes on. -/
def callArgs (inst ue : Int) (texts : List (Text × Text)) : Kwargs where
  numbers := [("inst".toList, inst), ("ue".toList, ue)]
  texts := texts

theorem build_callArgs (texts : List (Text × Text)) :
    builder.build (callArgs inst ue texts) = do
      let plan ← builder.plan inst ue 10 650
        (etherOf (texts.lookup builder.ethSrcKey) (texts.lookup builder.ethDstKey))
      return some { plan, streams := ← plan.createStream } := rfl

/-- What a call makes, when it makes anything. -/
structure Makes (builder : Builder) (inst ue : Int) (ether : Ether) (built : Built) : Prop where
  planned : Planned builder inst ue ether built.plan
  apps : built.plan.apps = 10
  streams : built.plan.createStream = .ok built.streams

namespace Makes

variable {built : Built}

theorem stream_ether (makes : Makes builder inst ue ether built) :
    ∀ stream ∈ built.streams, stream.ether = ether := by
  intro stream member
  rw [createStream_ether makes.streams stream member, makes.planned.sameEther]

theorem exists_stream (makes : Makes builder inst ue ether built) : ∃ stream, stream ∈ built.streams := by
  by_contra none
  have vacuous : ∀ stream ∈ built.streams, ∀ var ∈ stream.vars, False :=
    fun stream member => absurd ⟨stream, member⟩ none
  have vars := (createStream_vars makes.streams makes.apps).mp vacuous
  exact vars _ List.mem_cons_self

end Makes

theorem build_ok {texts : List (Text × Text)} {result : Option Built}
    (made : builder.build (callArgs inst ue texts) = .ok result) :
    AddressesFit builder inst ue ∧ ∃ built, result = some built ∧
      Makes builder inst ue (etherOf (texts.lookup builder.ethSrcKey) (texts.lookup builder.ethDstKey)) built := by
  rw [build_callArgs] at made
  obtain ⟨plan, addressed, made⟩ := except_bind_ok.mp made
  obtain ⟨streams, created, ends⟩ := except_bind_ok.mp made
  cases ends
  obtain ⟨fit, planned, apps⟩ := plan_ok addressed
  exact ⟨fit, _, rfl, planned, apps, created⟩

theorem exists_build (texts : List (Text × Text)) (fit : AddressesFit builder inst ue) :
    ∃ built, builder.build (callArgs inst ue texts) = .ok (some built) := by
  obtain ⟨plan, addressed⟩ := exists_plan fit
  obtain ⟨streams, created⟩ := exists_createStream (plan_ok addressed).2.2
  rw [build_callArgs, addressed, except_ok_bind, created]
  exact ⟨_, rfl⟩

end Build

end KvmWorkload.Trex.FiveG
