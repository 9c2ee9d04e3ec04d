import KvmWorkload.Trex.Config5g

/-! # Collisions between 5G flows

Every accepted line gets a range of UE addresses, a range of tunnel ids and a
range of outer ports.  The ranges are computed from the line's own instance and
number of UEs, so whether those of two lines are disjoint depends on both.
-/

namespace KvmWorkload.Trex.FiveG

/-- Two intervals of numbers have nothing in common. -/
def Apart (lo hi lo' hi' : Int) : Prop := ∀ n, lo ≤ n → n ≤ hi → lo' ≤ n → n ≤ hi' → False

theorem apart_iff {lo hi lo' hi' : Int} (nonempty : lo ≤ hi) (nonempty' : lo' ≤ hi') :
    Apart lo hi lo' hi' ↔ hi < lo' ∨ hi' < lo := by
  constructor
  · intro apart
    by_contra overlap
    exact apart (max lo lo') (by omega) (by omega) (by omega) (by omega)
  · intro order n
    omega

namespace Config

variable (conf : Config)

def inst : Int := conf.attrs.inst.getD 0

def ueCount : Int := conf.attrs.ue.getD 0

def builder : Builder := if conf.attrs.bonded then bondedBuilder else plainBuilder

end Config

/-- A configuration whose streams were built. -/
structure Accepted (conf : Config) (built : Built) : Prop where
  stream : conf.stream = some (some built)
  fit : AddressesFit conf.builder conf.inst conf.ueCount
  makes : ∃ ether, Makes conf.builder conf.inst conf.ueCount ether built

theorem exists_accepted {text : Text} {conf : Config} (made : config true text = .ok conf) :
    ∃ built, Accepted conf built := by
  obtain ⟨attrs, -, made⟩ := except_bind_ok.mp made
  obtain ⟨stream, streams, ends⟩ := except_bind_ok.mp made
  cases ends
  obtain ⟨inst, readInst, streams⟩ := except_bind_ok.mp streams
  obtain ⟨ue, readUe, streams⟩ := except_bind_ok.mp streams
  obtain ⟨ethDst, -, streams⟩ := except_bind_ok.mp streams
  rw [attr_ok] at readInst readUe
  let conf : Config := { attrs, stream := some stream }
  have sameInst : conf.inst = inst := by rw [Config.inst, readInst, Option.getD_some]
  have sameUe : conf.ueCount = ue := by rw [Config.ueCount, readUe, Option.getD_some]
  have called : conf.builder.build (callArgs inst ue [("eth_dst".toList, ethDst)]) = .ok stream := by
    rw [← streams, Config.builder]
    split <;> rfl
  obtain ⟨fit, built, rfl, makes⟩ := build_ok called
  exact ⟨built, rfl, by rwa [sameInst, sameUe], _, by rwa [sameInst, sameUe]⟩

/-- What is assumed of the lines: different instances from 0 on, each with at least one UE. -/
structure Requests (confs : List Config) : Prop where
  accepted : ∃ texts : List Text, texts.mapM (config true) = .ok confs
  distinct : (confs.map Config.inst).Nodup
  instances : ∀ conf ∈ confs, 0 ≤ conf.inst
  ues : ∀ conf ∈ confs, 1 ≤ conf.ueCount

/-- The UE addresses of two lines have nothing in common. -/
def AddressesApart (c d : Config) : Prop :=
  ∀ b b', c.stream = some (some b) → d.stream = some (some b') →
    Apart b.plan.ulSrcMin.value b.plan.ulSrcMax.value b'.plan.ulSrcMin.value b'.plan.ulSrcMax.value

/-- Nor have the tunnel ids of two bonded lines at one end point. -/
def TeidsApart (c d : Config) : Prop :=
  ∀ b b', c.stream = some (some b) → d.stream = some (some b') →
    c.attrs.bonded = true → d.attrs.bonded = true → b.plan.outerUlDst = b'.plan.outerUlDst →
      Apart b.plan.teidMin b.plan.teidMax b'.plan.teidMin b'.plan.teidMax

/-- The flows of the lines do not get in each other's way, and their variables fit. -/
structure FlowsApart (confs : List Config) : Prop where
  addresses : confs.Pairwise AddressesApart
  teids : confs.Pairwise TeidsApart
  fits : ∀ conf ∈ confs, ∀ b, conf.stream = some (some b) →
    ∀ stream ∈ b.streams, ∀ var ∈ stream.vars, var.Fits

/-- Of two lines, one's addresses end before the other's start. -/
def Ordered (c d : Config) : Prop :=
  (c.inst + 1) * c.ueCount ≤ d.inst * d.ueCount ∨ (d.inst + 1) * d.ueCount ≤ c.inst * c.ueCount

/-- Of two bonded lines at one end point, the even one has no more UEs than the odd one. -/
def EvenFewer (c d : Config) : Prop :=
  c.attrs.bonded = true → d.attrs.bonded = true → c.inst / 2 = d.inst / 2 →
    (c.inst % 2 = 0 → c.ueCount ≤ d.ueCount) ∧ (d.inst % 2 = 0 → d.ueCount ≤ c.ueCount)

/-- What the lines have to say for that. -/
structure Compatible (confs : List Config) : Prop where
  addresses : confs.Pairwise Ordered
  teids : confs.Pairwise EvenFewer
  ports : ∀ conf ∈ confs, conf.ueCount ≤ 55535

section Pairs

variable {c d : Config} {b b' : Built}

theorem apart_addresses_iff (first : Accepted c b) (second : Accepted d b') (some_ue : 1 ≤ c.ueCount)
    (some_ue' : 1 ≤ d.ueCount) :
    Apart b.plan.ulSrcMin.value b.plan.ulSrcMax.value b'.plan.ulSrcMin.value b'.plan.ulSrcMax.value ↔
      Ordered c d := by
  obtain ⟨_, makes⟩ := first.makes
  obtain ⟨_, makes'⟩ := second.makes
  rw [makes.planned.srcMin, makes.planned.srcMax, makes'.planned.srcMin, makes'.planned.srcMax, Ordered,
    Int.add_mul, Int.add_mul, Int.one_mul, Int.one_mul]
  generalize ((dotted 172 20 0 1).value : Int) = base
  generalize c.inst * c.ueCount = x
  generalize d.inst * d.ueCount = y
  rw [apart_iff (by omega) (by omega)]
  omega

theorem Accepted.bonded (accepted : Accepted c b) (bonded : c.attrs.bonded = true) :
    ∃ ether, Makes bondedBuilder c.inst c.ueCount ether b := by
  have makes := accepted.makes
  rwa [Config.builder, if_pos bonded] at makes

theorem outerUlDst_eq_iff (first : Accepted c b) (second : Accepted d b') (bonded : c.attrs.bonded = true)
    (bonded' : d.attrs.bonded = true) (start : 0 ≤ c.inst) (start' : 0 ≤ d.inst) :
    b.plan.outerUlDst = b'.plan.outerUlDst ↔ c.inst / 2 = d.inst / 2 := by
  obtain ⟨_, makes⟩ := first.bonded bonded
  obtain ⟨_, makes'⟩ := second.bonded bonded'
  rw [Address.ext_iff, ← Int.natCast_inj, makes.planned.outerDst, makes'.planned.outerDst,
    bondedBuilder_endPoint, bondedBuilder_endPoint, Int.tdiv_eq_ediv_of_nonneg start,
    Int.tdiv_eq_ediv_of_nonneg start', Int.add_right_inj]

theorem apart_teids_iff (first : Accepted c b) (second : Accepted d b') (bonded : c.attrs.bonded = true)
    (bonded' : d.attrs.bonded = true) (some_ue : 1 ≤ c.ueCount) (some_ue' : 1 ≤ d.ueCount)
    (different : c.inst ≠ d.inst) (together : c.inst / 2 = d.inst / 2) :
    Apart b.plan.teidMin b.plan.teidMax b'.plan.teidMin b'.plan.teidMax ↔
      (c.inst % 2 = 0 → c.ueCount ≤ d.ueCount) ∧ (d.inst % 2 = 0 → d.ueCount ≤ c.ueCount) := by
  obtain ⟨_, makes⟩ := first.bonded bonded
  obtain ⟨_, makes'⟩ := second.bonded bonded'
  rw [makes.planned.teidMin, makes.planned.teidMax, makes'.planned.teidMin, makes'.planned.teidMax]
  simp only [bondedBuilder_teidMin, bondedBuilder_teidMax]
  -- One of the two is even and the other odd.
  rcases Int.emod_two_eq_zero_or_one c.inst with even | odd
  · have odd' : d.inst % 2 = 1 := by omega
    rw [even, odd', apart_iff (by omega) (by omega)]
    omega
  · have even' : d.inst % 2 = 0 := by omega
    rw [odd, even', apart_iff (by omega) (by omega)]
    omega

end Pairs

section Sizes

variable {conf : Config} {built : Built}

theorem Address.fits_var (address : Address) : 0 ≤ (address.value : Int) ∧ (address.value : Int) < 256 ^ 4 := by
  have := address.fits
  omega

theorem teids_fit (accepted : Accepted conf built) (start : 0 ≤ conf.inst) (some_ue : 1 ≤ conf.ueCount) :
    0 ≤ built.plan.teidMin ∧ built.plan.teidMax < 256 ^ 4 := by
  have last := accepted.fit.srcEnd.2
  have product : 0 ≤ conf.inst * conf.ueCount := Int.mul_nonneg start (by omega)
  obtain ⟨_, makes⟩ := accepted.makes
  rw [makes.planned.teidMin, makes.planned.teidMax, Config.builder]
  split
  · simp only [bondedBuilder_teidMin, bondedBuilder_teidMax]
    rcases Int.emod_two_eq_zero_or_one conf.inst with even | odd
    · rw [even]
      omega
    · have twice : 1 * conf.ueCount ≤ conf.inst * conf.ueCount :=
        Int.mul_le_mul_of_nonneg_right (by omega) (by omega)
      rw [odd]
      omega
  · simp only [plainBuilder_teidMin, plainBuilder_teidMax]
    omega

theorem fits_iff (accepted : Accepted conf built) (start : 0 ≤ conf.inst) (some_ue : 1 ≤ conf.ueCount) :
    (∀ stream ∈ built.streams, ∀ var ∈ stream.vars, var.Fits) ↔ conf.ueCount ≤ 55535 := by
  have teids := teids_fit accepted start some_ue
  obtain ⟨_, makes⟩ := accepted.makes
  rw [createStream_vars makes.streams makes.apps]
  simp only [Plan.ulVars, Plan.dlVars, List.cons_append, List.nil_append, List.forall_mem_cons,
    List.not_mem_nil, false_implies, implies_true, and_true, FlowVar.Fits, makes.planned.udpSrcMin,
    makes.planned.udpSrcMax]
  constructor
  · rintro ⟨-, -, ⟨-, ports⟩, -⟩
    omega
  · intro ports
    have outer := built.plan.outerUlSrc.fits_var
    have first := built.plan.ulSrcMin.fits_var
    have last := built.plan.ulSrcMax.fits_var
    exact ⟨outer, ⟨first.1, last.2⟩, ⟨by omega, by omega⟩, teids, first.1, last.2⟩

end Sizes

theorem Accepted.forall_stream {conf : Config} {built : Built} (accepted : Accepted conf built) {P : Built → Prop} :
    (∀ b, conf.stream = some (some b) → P b) ↔ P built := by
  constructor
  · exact fun all => all built accepted.stream
  · intro holds b stream
    cases stream.symm.trans accepted.stream
    exact holds

theorem Requests.exists_accepted {confs : List Config} (requests : Requests confs) :
    ∀ conf ∈ confs, ∃ built, Accepted conf built := by
  obtain ⟨texts, made⟩ := requests.accepted
  intro conf member
  obtain ⟨text, -, runs⟩ := forall₂_exists_left (except_mapM_ok.mp made) member
  exact FiveG.exists_accepted runs

section Together

variable {confs : List Config} {c d : Config}

theorem Requests.addressesApart_iff (requests : Requests confs) (cIn : c ∈ confs) (dIn : d ∈ confs) :
    AddressesApart c d ↔ Ordered c d := by
  obtain ⟨b, first⟩ := requests.exists_accepted c cIn
  obtain ⟨b', second⟩ := requests.exists_accepted d dIn
  rw [← apart_addresses_iff first second (requests.ues c cIn) (requests.ues d dIn)]
  constructor
  · exact fun all => all b b' first.stream second.stream
  · intro apart x x' stream stream'
    cases stream.symm.trans first.stream
    cases stream'.symm.trans second.stream
    exact apart

theorem Requests.teidsApart_iff (requests : Requests confs) (cIn : c ∈ confs) (dIn : d ∈ confs)
    (different : c.inst ≠ d.inst) : TeidsApart c d ↔ EvenFewer c d := by
  obtain ⟨b, first⟩ := requests.exists_accepted c cIn
  obtain ⟨b', second⟩ := requests.exists_accepted d dIn
  have point := fun bonded bonded' => outerUlDst_eq_iff first second bonded bonded' (requests.instances c cIn)
    (requests.instances d dIn)
  have ids := fun bonded bonded' together => apart_teids_iff first second bonded bonded' (requests.ues c cIn)
    (requests.ues d dIn) different together
  constructor
  · intro all bonded bonded' together
    refine (ids bonded bonded' together).mp ?_
    exact all b b' first.stream second.stream bonded bonded' ((point bonded bonded').mpr together)
  · intro fewer x x' stream stream' bonded bonded' same
    cases stream.symm.trans first.stream
    cases stream'.symm.trans second.stream
    have together := (point bonded bonded').mp same
    exact (ids bonded bonded' together).mpr (fewer bonded bonded' together)

theorem Requests.fits_iff (requests : Requests confs) (cIn : c ∈ confs) :
    (∀ b, c.stream = some (some b) → ∀ stream ∈ b.streams, ∀ var ∈ stream.vars, var.Fits) ↔
      c.ueCount ≤ 55535 := by
  obtain ⟨built, here⟩ := requests.exists_accepted c cIn
  rw [here.forall_stream, FiveG.fits_iff here (requests.instances c cIn) (requests.ues c cIn)]

/-- Which sets of lines give flows that keep apart. -/
theorem flowsApart_iff (requests : Requests confs) : FlowsApart confs ↔ Compatible confs := by
  have different : confs.Pairwise fun c d => c.inst ≠ d.inst := List.pairwise_map.mp requests.distinct
  have addresses : confs.Pairwise AddressesApart ↔ confs.Pairwise Ordered :=
    pairwise_iff_of_mem different fun c cIn d dIn _ => requests.addressesApart_iff cIn dIn
  have teids : confs.Pairwise TeidsApart ↔ confs.Pairwise EvenFewer :=
    pairwise_iff_of_mem different fun c cIn d dIn apart => requests.teidsApart_iff cIn dIn apart
  have ports := forall₂_congr fun c (cIn : c ∈ confs) => requests.fits_iff cIn
  constructor
  · exact fun flows => ⟨addresses.mp flows.addresses, teids.mp flows.teids, ports.mp flows.fits⟩
  · exact fun lines => ⟨addresses.mpr lines.addresses, teids.mpr lines.teids, ports.mpr lines.ports⟩

end Together

theorem exists_config {line : Line} {text : Text} (spells : line.Spells text) {mac : Plain}
    (given : line.ethDst = some mac) (fit : AddressesFit line.builder line.inst.value line.ue.value) :
    ∃ conf, config true text = .ok conf ∧ conf.attrs = line.attrs := by
  obtain ⟨built, made⟩ := exists_build [("eth_dst".toList, mac.text)] fit
  rw [line.config_eq spells, makeStream_ok.mpr ⟨mac, given, made⟩]
  exact ⟨_, rfl, rfl⟩

/-- A bonded line for an instance and a number of UEs. -/
def flowLine (inst ue : IntText) : Line where
  n := .of ['t'] (by decide)
  inst := inst
  port := inst
  ue := ue
  ethDst := some (.of ['m', 'a', 'c'] (by decide))
  m := none
  bonded := true

/-- The lines with their settings in the usual order. -/
def flowTexts (lines : List Line) : List Text :=
  lines.map fun line => [','].intercalate (line.settings.map Setting.text)

section Samples

variable {inst ue inst' ue' : IntText}

theorem exists_flowConfigs (fit : AddressesFit bondedBuilder inst.value ue.value)
    (fit' : AddressesFit bondedBuilder inst'.value ue'.value) (different : inst.value ≠ inst'.value)
    (instances : 0 ≤ inst.value ∧ 0 ≤ inst'.value) (ues : 1 ≤ ue.value ∧ 1 ≤ ue'.value) :
    ∃ c d, (flowTexts [flowLine inst ue, flowLine inst' ue']).mapM (config true) = .ok [c, d] ∧
      c.attrs = (flowLine inst ue).attrs ∧ d.attrs = (flowLine inst' ue').attrs ∧ Requests [c, d] := by
  obtain ⟨c, made, attrs⟩ := exists_config ⟨(flowLine inst ue).settings, .refl _, rfl⟩ rfl fit
  obtain ⟨d, made', attrs'⟩ := exists_config ⟨(flowLine inst' ue').settings, .refl _, rfl⟩ rfl fit'
  have read : (flowTexts [flowLine inst ue, flowLine inst' ue']).mapM (config true) = .ok [c, d] :=
    except_mapM_ok.mpr (.cons made (.cons made' .nil))
  refine ⟨c, d, read, attrs, attrs', ⟨_, read⟩, ?_, ?_, ?_⟩
  · simpa [Config.inst, attrs, attrs', Line.attrs, flowLine] using different
  · simpa [Config.inst, attrs, attrs', Line.attrs, flowLine] using instances
  · simpa [Config.ueCount, attrs, attrs', Line.attrs, flowLine] using ues

end Samples

/-- Instances 0 and 1 with ten UEs each keep apart. -/
theorem flowsApart_equal_ues :
    ∃ confs, (flowTexts [flowLine (.ofNat 0) (.ofNat 10), flowLine (.ofNat 1) (.ofNat 10)]).mapM (config true) = .ok confs ∧
      Requests confs ∧ FlowsApart confs := by
  obtain ⟨c, d, read, attrs, attrs', requests⟩ := @exists_flowConfigs (.ofNat 0) (.ofNat 10) (.ofNat 1) (.ofNat 10)
    ⟨by decide, by decide, by decide, by decide, by decide, by decide⟩
    ⟨by decide, by decide, by decide, by decide, by decide, by decide⟩ (by decide) (by decide) (by decide)
  refine ⟨[c, d], read, requests, (flowsApart_iff requests).mpr ⟨?_, ?_, ?_⟩⟩
  · rw [List.pairwise_pair, Ordered, Config.inst, Config.ueCount, Config.inst, Config.ueCount, attrs, attrs']
    decide
  · rw [List.pairwise_pair, EvenFewer, Config.inst, Config.ueCount, Config.inst, Config.ueCount, attrs, attrs']
    decide
  · intro conf member
    rcases List.mem_pair.mp member with rfl | rfl
    · rw [Config.ueCount, attrs]
      decide
    · rw [Config.ueCount, attrs']
      decide

/-- Instance 1 with ten UEs takes the addresses from the tenth on, and so does instance 2 with five. -/
theorem not_flowsApart_unequal_ues :
    ∃ confs, (flowTexts [flowLine (.ofNat 1) (.ofNat 10), flowLine (.ofNat 2) (.ofNat 5)]).mapM (config true) = .ok confs ∧
      Requests confs ∧ ¬ FlowsApart confs := by
  obtain ⟨c, d, read, attrs, attrs', requests⟩ := @exists_flowConfigs (.ofNat 1) (.ofNat 10) (.ofNat 2) (.ofNat 5)
    ⟨by decide, by decide, by decide, by decide, by decide, by decide⟩
    ⟨by decide, by decide, by decide, by decide, by decide, by decide⟩ (by decide) (by decide) (by decide)
  refine ⟨[c, d], read, requests, fun flows => ?_⟩
  have order := (requests.addressesApart_iff (by simp) (by simp)).mp (List.pairwise_pair.mp flows.addresses)
  rw [Ordered, Config.inst, Config.ueCount, Config.inst, Config.ueCount, attrs, attrs'] at order
  exact absurd order (by decide)

end KvmWorkload.Trex.FiveG
