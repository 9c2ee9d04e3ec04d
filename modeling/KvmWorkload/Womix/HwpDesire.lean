import KvmWorkload.Lib.ShellArith

/-! # Limits in the HWP request register

`hwpdesire.sh` writes the highest and the lowest ratio into MSR 0x774 of the
cores whose HWP is enabled.  Without `-c` it walks over all cores, and the
variable of that loop is also the one that says whether `-c` was given.
-/

namespace KvmWorkload.Womix.HwpDesire

open ShellArith

/-- The cores that /proc/cpuinfo lists, and the registers of every core. -/
@[ext]
structure Machine where
  allCores : List Nat
  msr : Nat → Nat → BitVec 64

namespace Machine

variable (machine : Machine)

/-- What `rdmsr -p core address` prints. -/
def rdmsr (core address : Nat) : Text := Nat.toDigits 16 (machine.msr core address).toNat

/-- What `rdmsr -p core address -f hi:lo` prints. -/
def rdmsrField (core address hi lo : Nat) : Text :=
  Nat.toDigits 16 ((machine.msr core address).extractLsb hi lo).toNat

/-- `wrmsr -p core address value`. -/
def wrmsr (core address : Nat) (value : BitVec 64) : Machine :=
  { machine with msr := fun c a => if c = core ∧ a = address then value else machine.msr c a }

/-- HWP is on. -/
def enabled (core : Nat) : Bool := (machine.msr core 0x770).getLsbD 0

end Machine

/-- The limit that an option sets: `-a` or `-m`. -/
inductive Kind where
  | max
  | min
  deriving DecidableEq

/-- The texts in which the two branches differ: the mask, and what the ratio stands between. -/
structure Branch where
  keep : Text
  front : Text
  back : Text

def Kind.branch : Kind → Branch
  | .max => { keep := "0xffff00ff".toList, front := "0x0000".toList, back := "00".toList }
  | .min => { keep := "0xffffff00".toList, front := "0x000000".toList, back := [] }

/-- `echo "obase=16;n" | bc`. -/
def bcHex (n : Text) : Text := (Nat.toDigits 16 (readDecimal n)).map Char.toUpper

/-- The ratio of a frequency in two digits, as `maxFreq` and `minFreq` hold it. -/
def hexRatio (env : Env) (freq : Text) : Option Text := do
  let digits := bcHex (expansion (← arith env (freq ++ "/100000".toList)))
  return if digits.length = 1 then '0' :: digits else digits

/-- `printf "%#x"` of a number that is not negative. -/
def printfHex (n : Text) : Option Text := do
  let value ← constant n
  return if value = 0 then ['0'] else '0' :: 'x' :: Nat.toDigits 16 value.toNat

/-- The new content of the register, from what `rdmsr` printed. -/
def Branch.desmsr (branch : Branch) (env : Env) (ratio orimsr : Text) : Option Text := do
  let kept ← arith env (" 0x".toList ++ orimsr ++ " & ".toList ++ branch.keep ++ " ".toList)
  let desmsr ← printfHex (expansion kept)
  let joined ← arith env
    (" ".toList ++ desmsr ++ " | ".toList ++ branch.front ++ ratio ++ branch.back ++ " ".toList)
  printfHex (expansion joined)

/-- The script's variables `core`, empty while it is not set, and `parsed_core`, and the machine. -/
structure State where
  core : Text
  parsedCore : List Nat
  machine : Machine

/-- One round of the loop over the cores, which assigns `core`. -/
def visit (env : Env) (branch : Branch) (ratio : Text) (s : State) (core : Nat) : Option State :=
  if s.machine.rdmsrField core 0x770 0 0 = ['1'] then do
    let desmsr ← branch.desmsr env ratio (s.machine.rdmsr core 0x774)
    let value ← constant desmsr
    return { s with core := decimal core, machine := s.machine.wrmsr core 0x774 value }
  else return { s with core := decimal core }

/-- The branch of `-a` or `-m`. -/
def setFreq (env : Env) (branch : Branch) (freq : Text) (s : State) : Option State := do
  if freq = [] then failure
  let ratio ← hexRatio env freq
  let cores := if s.core = [] then s.machine.allCores else s.parsedCore
  cores.foldlM (visit env branch ratio) s

/-- The numbers of `{lo..hi}`. -/
def braces (lo hi : Nat) : List Nat :=
  if lo ≤ hi then List.range' lo (hi + 1 - lo) else (List.range' hi (lo + 1 - hi)).reverse

/-- The cores of one part of the argument of `-c`. -/
def coreItem (num : Text) : List Nat :=
  match num.splitOn '-' with
  | [lo, hi] => braces (readDecimal lo) (readDecimal hi)
  | _ => [readDecimal num]

inductive Opt where
  | core (cores : Text)
  | freq (kind : Kind) (freq : Text)

def step (env : Env) (s : State) : Opt → Option State
  | .core cores =>
      if cores = [] then none
      else some { s with core := cores, parsedCore := (commaWords cores).flatMap coreItem }
  | .freq kind freq => setFreq env kind.branch freq s

/-- The script with the given options; no variable of its own is set before. -/
def run (env : Env) (machine : Machine) (opts : List Opt) : Option Machine :=
  (opts.foldlM (step env) { core := [], parsedCore := [], machine }).map State.machine

/-- An option `-a` or `-m` with a frequency below 25.6 GHz. -/
structure Setting where
  kind : Kind
  freq : Nat
  below : freq < 25600000

def Setting.ratio (setting : Setting) : BitVec 8 := BitVec.ofNat 8 (setting.freq / 100000)

def Setting.opt (setting : Setting) : Opt := .freq setting.kind (decimal setting.freq)

/-- The lowest bit of the field that a limit has in the register. -/
def Kind.start : Kind → Nat
  | .max => 8
  | .min => 0

def Kind.field (kind : Kind) (value : BitVec 64) : BitVec 8 := value.extractLsb' kind.start 8

/-- The ratio of the last option of a kind. -/
def lastRatio (kind : Kind) (settings : List Setting) : Option (BitVec 8) :=
  (settings.filter (·.kind = kind)).getLast?.map Setting.ratio

/-- Both fields hold the last ratio that was asked for, and all other bits are unchanged. -/
structure Updated (settings : List Setting) (before after : BitVec 64) : Prop where
  fields : ∀ kind : Kind, kind.field after = (lastRatio kind settings).getD (kind.field before)
  rest : after.extractLsb' 16 48 = before.extractLsb' 16 48

/-- The options have been carried out on the cores whose HWP is enabled and nowhere else. -/
structure CarriedOut (settings : List Setting) (machine final : Machine) : Prop where
  updated : ∀ core ∈ machine.allCores, machine.enabled core = true →
    Updated settings (machine.msr core 0x774) (final.msr core 0x774)
  others : ∀ core address, ¬ (core ∈ machine.allCores ∧ machine.enabled core = true ∧ address = 0x774) →
    final.msr core address = machine.msr core address

/-- The bits that a branch keeps; the literal has 32 of them. -/
def Kind.mask : Kind → BitVec 64
  | .max => 0xffff00ff
  | .min => 0xffffff00

/-- The value that a branch writes over another one. -/
def Kind.write (kind : Kind) (ratio : BitVec 8) (value : BitVec 64) : BitVec 64 :=
  value &&& kind.mask ||| ratio.setWidth 64 <<< kind.start

theorem getLsbD_mask (kind : Kind) {i : Nat} (inside : i < 64) :
    kind.mask.getLsbD i = decide (i < 32 ∧ ¬ (kind.start ≤ i ∧ i < kind.start + 8)) := by
  have all : ∀ i : Fin 64,
      kind.mask.getLsbD i = decide (i.val < 32 ∧ ¬ (kind.start ≤ i.val ∧ i.val < kind.start + 8)) := by
    cases kind <;> decide
  exact all ⟨i, inside⟩

/-- The field takes the ratio, and of the other bits only the lower half is kept. -/
theorem getLsbD_write (kind : Kind) (ratio : BitVec 8) (value : BitVec 64) (i : Nat) :
    (kind.write ratio value).getLsbD i =
      if kind.start ≤ i ∧ i < kind.start + 8 then ratio.getLsbD (i - kind.start)
      else decide (i < 32) && value.getLsbD i := by
  have below : kind.start + 8 ≤ 16 := by cases kind <;> decide
  by_cases inside : i < 64
  · rw [Kind.write, BitVec.getLsbD_or, BitVec.getLsbD_and, getLsbD_mask kind inside, BitVec.getLsbD_shiftLeft,
      BitVec.getLsbD_setWidth]
    by_cases field : kind.start ≤ i ∧ i < kind.start + 8
    · have small : i - kind.start < 64 := by omega
      simp [field, inside, small, Nat.not_lt.mpr field.1]
    · have outside : i < kind.start ∨ 8 ≤ i - kind.start := by omega
      rcases outside with low | high
      · simp [field, low, Bool.and_comm]
      · simp [field, BitVec.getLsbD_of_ge ratio _ high, Bool.and_comm]
  · rw [BitVec.getLsbD_of_ge _ _ (by omega), if_neg (by omega), BitVec.getLsbD_of_ge _ _ (by omega), Bool.and_false]

theorem field_write_same (kind : Kind) (ratio : BitVec 8) (value : BitVec 64) :
    kind.field (kind.write ratio value) = ratio := by
  apply BitVec.eq_of_getLsbD_eq
  intro i inside
  rw [Kind.field, BitVec.getLsbD_extractLsb', getLsbD_write, if_pos (by omega), Nat.add_sub_cancel_left]
  simp [inside]

theorem field_write_other {kind other : Kind} (differ : other ≠ kind) (ratio : BitVec 8) (value : BitVec 64) :
    other.field (kind.write ratio value) = other.field value := by
  have apart : ∀ i < 8, ¬ (kind.start ≤ other.start + i ∧ other.start + i < kind.start + 8) := by
    cases kind <;> cases other <;> simp_all [Kind.start]
  have low : ∀ i < 8, other.start + i < 32 := by cases other <;> simp only [Kind.start] <;> omega
  apply BitVec.eq_of_getLsbD_eq
  intro i inside
  rw [Kind.field, Kind.field, BitVec.getLsbD_extractLsb', BitVec.getLsbD_extractLsb', getLsbD_write,
    if_neg (apart i inside)]
  simp [inside, low i inside]

theorem rest_write_iff (kind : Kind) (ratio : BitVec 8) (value : BitVec 64) :
    (kind.write ratio value).extractLsb' 16 48 = value.extractLsb' 16 48 ↔ value.extractLsb' 32 32 = 0 := by
  have above : kind.start + 8 ≤ 16 := by cases kind <;> decide
  have bits : ∀ i, (kind.write ratio value).getLsbD (16 + i) = (decide (i < 16) && value.getLsbD (16 + i)) := by
    intro i
    rw [getLsbD_write, if_neg (by omega)]
    congr 2
    exact propext (by omega)
  constructor
  · intro same
    apply BitVec.eq_of_getLsbD_eq
    intro i inside
    have bit := congrArg (BitVec.getLsbD · (16 + i)) same
    simp only [BitVec.getLsbD_extractLsb', bits] at bit
    have upper : 16 + (16 + i) = 32 + i := by omega
    simpa [inside, upper, show 16 + i < 48 by omega] using bit
  · intro clear
    apply BitVec.eq_of_getLsbD_eq
    intro i inside
    rw [BitVec.getLsbD_extractLsb', BitVec.getLsbD_extractLsb', bits]
    by_cases low : i < 16
    · simp [low]
    · have bit := congrArg (BitVec.getLsbD · (i - 16)) clear
      have upper : 32 + (i - 16) = 16 + i := by omega
      simp only [BitVec.getLsbD_extractLsb', upper] at bit
      simpa [low, inside, show i - 16 < 32 by omega] using bit

theorem write_write (kind : Kind) (ratio : BitVec 8) (value : BitVec 64) :
    kind.write ratio (kind.write ratio value) = kind.write ratio value := by
  apply BitVec.eq_of_getLsbD_eq
  intro i _
  rw [getLsbD_write, getLsbD_write]
  split
  · rfl
  · rw [← Bool.and_assoc, Bool.and_self]

theorem expansion_of_nonneg {value : BitVec 64} (nonneg : value.msb = false) :
    expansion value = decimal value.toNat := by
  rw [expansion, nonneg]
  rfl

theorem printfHex_expansion {value : BitVec 64} (nonneg : value.msb = false) :
    ∃ text, printfHex (expansion value) = some text ∧ Constant text value := by
  have reads : constant (decimal value.toNat) = some value := by
    rw [(constant_decimal value.toNat).reads, BitVec.ofNat_toNat, BitVec.setWidth_eq]
  rw [expansion_of_nonneg nonneg, printfHex, reads]
  by_cases zero : value = 0
  · rw [zero]
    exact ⟨['0'], rfl, constant_decimal 0⟩
  · refine ⟨'0' :: 'x' :: Nat.toDigits 16 value.toNat, congrArg some (if_neg zero), ?_⟩
    have number := constant_hex value.toNat
    rwa [BitVec.ofNat_toNat, BitVec.setWidth_eq] at number

/-- A hexadecimal digit as `bc` prints it. -/
def upperDigit (digit : Nat) : Char := digit.digitChar.toUpper

theorem sdiv_ofNat {n d : Nat} (small : n < 2 ^ 63) (small' : d < 2 ^ 63) :
    (BitVec.ofNat 64 n).sdiv (BitVec.ofNat 64 d) = BitVec.ofNat 64 (n / d) := by
  have msb : ∀ k < 2 ^ 63, (BitVec.ofNat 64 k).msb = false := by
    intro k small
    rw [BitVec.msb_eq_false_iff_two_mul_lt, BitVec.toNat_ofNat]
    omega
  have quotient : n / d ≤ n := Nat.div_le_self n d
  rw [BitVec.sdiv_eq, msb n small, msb d small']
  apply BitVec.eq_of_toNat_eq
  change (BitVec.ofNat 64 n / BitVec.ofNat 64 d).toNat = _
  rw [BitVec.toNat_udiv, BitVec.toNat_ofNat, BitVec.toNat_ofNat, BitVec.toNat_ofNat, Nat.mod_eq_of_lt (by omega),
    Nat.mod_eq_of_lt (by omega), Nat.mod_eq_of_lt (by omega)]

theorem bcHex_decimal {n : Nat} (small : n < 256) :
    (if (bcHex (decimal n)).length = 1 then '0' :: bcHex (decimal n) else bcHex (decimal n)) =
      [upperDigit (n / 16), upperDigit (n % 16)] := by
  rw [bcHex, readDecimal_decimal]
  by_cases short : n < 16
  · rw [Nat.toDigits_of_lt_base short, Nat.div_eq_of_lt short, Nat.mod_eq_of_lt short]
    rfl
  · rw [Nat.toDigits_of_base_le (by decide) (by omega), Nat.toDigits_of_lt_base (by omega)]
    rfl

theorem hexRatio_decimal {freq : Nat} (below : freq < 25600000) (env : Env) :
    hexRatio env (decimal freq) = some [upperDigit (freq / 100000 / 16), upperDigit (freq / 100000 % 16)] := by
  have quotient : freq / 100000 < 256 := by omega
  have value : arith env (decimal freq ++ "/100000".toList) = some (BitVec.ofNat 64 (freq / 100000)) := by
    rw [← sdiv_ofNat (n := freq) (d := 100000) (by omega) (by omega)]
    exact arith_div (constant_decimal freq) (constant_decimal 100000) (by decide) env
  have nonneg : (BitVec.ofNat 64 (freq / 100000)).msb = false := by
    rw [BitVec.msb_eq_false_iff_two_mul_lt, BitVec.toNat_ofNat]
    omega
  rw [hexRatio, value, ← bcHex_decimal quotient]
  change some (if (bcHex (expansion (BitVec.ofNat 64 (freq / 100000)))).length = 1 then
    '0' :: bcHex (expansion (BitVec.ofNat 64 (freq / 100000))) else
    bcHex (expansion (BitVec.ofNat 64 (freq / 100000)))) = _
  rw [expansion_of_nonneg nonneg, BitVec.toNat_ofNat, Nat.mod_eq_of_lt (by omega)]

theorem isWordChar_upperDigit {digit : Nat} (hex : digit < 16) : isWordChar (upperDigit digit) = true := by
  revert digit
  decide

theorem readDigit_upperDigit {digit : Nat} (hex : digit < 16) (value : Nat) :
    readDigit 16 value (upperDigit digit) = some (16 * value + digit) :=
  readDigit_toUpper_digitChar hex hex value

theorem readDigit_zero (value : Nat) : readDigit 16 value '0' = some (16 * value) :=
  readDigit_digitChar (show 0 < 16 by decide) (show 0 < 16 by decide) value

theorem constant_digits (kind : Kind) {a b : Nat} (hex : a < 16) (hex' : b < 16) :
    constant (kind.branch.front ++ [upperDigit a, upperDigit b] ++ kind.branch.back) =
      some (BitVec.ofNat 64 ((16 * a + b) * 2 ^ kind.start)) := by
  cases kind with
  | max =>
      have digits : readRadix 16 ['0', '0', '0', '0', upperDigit a, upperDigit b, '0', '0'] =
          some (16 * (16 * (16 * a + b))) := by
        rw [readRadix, if_neg (List.cons_ne_nil _ _)]
        simp [readDigit_zero, readDigit_upperDigit hex, readDigit_upperDigit hex']
      have value : (16 * a + b) * 2 ^ Kind.max.start = 16 * (16 * (16 * a + b)) := by
        rw [Kind.start]
        omega
      rw [value]
      exact congrArg (Option.map (BitVec.ofNat 64)) digits
  | min =>
      have digits : readRadix 16 ['0', '0', '0', '0', '0', '0', upperDigit a, upperDigit b] = some (16 * a + b) := by
        rw [readRadix, if_neg (List.cons_ne_nil _ _)]
        simp [readDigit_zero, readDigit_upperDigit hex, readDigit_upperDigit hex']
      rw [Kind.start, Nat.pow_zero, Nat.mul_one]
      exact congrArg (Option.map (BitVec.ofNat 64)) digits

theorem constant_ratio (kind : Kind) {n : Nat} (small : n < 256) :
    Constant (kind.branch.front ++ [upperDigit (n / 16), upperDigit (n % 16)] ++ kind.branch.back)
      ((BitVec.ofNat 8 n).setWidth 64 <<< kind.start) where
  wordChars := by
    have high := isWordChar_upperDigit (show n / 16 < 16 by omega)
    have low := isWordChar_upperDigit (show n % 16 < 16 by omega)
    have front : kind.branch.front.all isWordChar = true := by cases kind <;> decide
    have back : kind.branch.back.all isWordChar = true := by cases kind <;> decide
    simp only [← List.all_eq_true, List.all_append, List.all_cons, List.all_nil, front, back, high, low, Bool.and_true]
  digit := by cases kind <;> rfl
  reads := by
    rw [constant_digits kind (by omega) (by omega), Nat.div_add_mod]
    congr 1
    have start : kind.start ≤ 8 := by cases kind <;> decide
    apply BitVec.eq_of_toNat_eq
    rw [BitVec.toNat_shiftLeft, BitVec.toNat_setWidth, BitVec.toNat_ofNat, BitVec.toNat_ofNat, Nat.shiftLeft_eq,
      Nat.mod_eq_of_lt (b := 2 ^ 8) small, Nat.mod_eq_of_lt (a := n) (by omega)]

theorem desmsr_eq (kind : Kind) {n : Nat} (small : n < 256) (value : BitVec 64) (env : Env) :
    ∃ text, kind.branch.desmsr env [upperDigit (n / 16), upperDigit (n % 16)] (Nat.toDigits 16 value.toNat) =
      some text ∧ constant text = some (kind.write (BitVec.ofNat 8 n) value) := by
  have mask : Constant kind.branch.keep kind.mask := by
    cases kind
    · exact constant_hex 0xffff00ff
    · exact constant_hex 0xffffff00
  have old : Constant ('0' :: 'x' :: Nat.toDigits 16 value.toNat) value := by
    have number := constant_hex value.toNat
    rwa [BitVec.ofNat_toNat, BitVec.setWidth_eq] at number
  have keptPositive : (value &&& kind.mask).msb = false := by
    have top : kind.mask.msb = false := by cases kind <;> decide
    rw [BitVec.msb_and, top, Bool.and_false]
  have newPositive : (kind.write (BitVec.ofNat 8 n) value).msb = false := by
    rw [BitVec.msb_eq_getLsbD_last, getLsbD_write]
    cases kind <;> simp [Kind.start]
  obtain ⟨kept, printed, reads⟩ := printfHex_expansion keptPositive
  obtain ⟨new, printed', reads'⟩ := printfHex_expansion newPositive
  refine ⟨new, ?_, reads'.reads⟩
  have maskText : " 0x".toList ++ Nat.toDigits 16 value.toNat ++ " & ".toList ++ kind.branch.keep ++ " ".toList =
      ' ' :: ('0' :: 'x' :: Nat.toDigits 16 value.toNat ++ ' ' :: '&' :: ' ' :: (kind.branch.keep ++ [' '])) := by
    simp
  have ratioText : " ".toList ++ kept ++ " | ".toList ++ kind.branch.front ++
      [upperDigit (n / 16), upperDigit (n % 16)] ++ kind.branch.back ++ " ".toList =
      ' ' :: (kept ++ ' ' :: '|' :: ' ' ::
        (kind.branch.front ++ [upperDigit (n / 16), upperDigit (n % 16)] ++ kind.branch.back ++ [' '])) := by
    simp
  rw [Branch.desmsr, maskText, arith_bitAnd old mask env]
  simp only [Option.bind_eq_bind, Option.bind_some, printed, ratioText]
  rw [arith_bitOr reads (constant_ratio kind small) env, Option.bind_some]
  exact printed'

/-- A limit is set on those of the given cores whose HWP is enabled. -/
def Machine.request (machine : Machine) (kind : Kind) (ratio : BitVec 8) (cores : List Nat) : Machine :=
  { machine with
    msr := fun c a =>
      if c ∈ cores ∧ machine.enabled c = true ∧ a = 0x774 then kind.write ratio (machine.msr c a)
      else machine.msr c a }

section Requests

variable (machine : Machine) (kind : Kind) (ratio : BitVec 8)

theorem msr_wrmsr (core address : Nat) (value : BitVec 64) (c a : Nat) :
    (machine.wrmsr core address value).msr c a = if c = core ∧ a = address then value else machine.msr c a := rfl

theorem msr_request (cores : List Nat) (c a : Nat) :
    (machine.request kind ratio cores).msr c a =
      if c ∈ cores ∧ machine.enabled c = true ∧ a = 0x774 then kind.write ratio (machine.msr c a)
      else machine.msr c a := rfl

theorem enabled_request (cores : List Nat) (core : Nat) :
    (machine.request kind ratio cores).enabled core = machine.enabled core := by
  rw [Machine.enabled, msr_request, if_neg (by simp), Machine.enabled]

theorem request_nil : machine.request kind ratio [] = machine := by
  refine Machine.ext rfl (funext fun c => funext fun a => ?_)
  rw [msr_request, if_neg (by simp)]

theorem request_cons (core : Nat) (cores : List Nat) :
    (machine.request kind ratio [core]).request kind ratio cores = machine.request kind ratio (core :: cores) := by
  refine Machine.ext rfl (funext fun c => funext fun a => ?_)
  rw [msr_request, msr_request, msr_request, enabled_request]
  by_cases on : machine.enabled c = true ∧ a = 0x774
  · by_cases here : c = core
    · subst here
      by_cases there : c ∈ cores <;> simp [on, there, write_write]
    · by_cases there : c ∈ cores <;> simp [on, here, there]
  · have off : ∀ p : Prop, ¬ (p ∧ machine.enabled c = true ∧ a = 0x774) := fun _ both => on both.2
    rw [if_neg (off _), if_neg (off _), if_neg (off _)]

theorem rdmsrField_iff (core : Nat) :
    machine.rdmsrField core 0x770 0 0 = ['1'] ↔ machine.enabled core = true := by
  rw [Machine.rdmsrField, Machine.enabled, BitVec.extractLsb_toNat, BitVec.getLsbD, Nat.testBit_zero]
  rw [Nat.shiftRight_zero, Nat.sub_self, Nat.zero_add, Nat.pow_one]
  rcases Nat.mod_two_eq_zero_or_one (machine.msr core 0x770).toNat with even | odd
  · rw [even]
    decide
  · rw [odd]
    decide

end Requests

section Options

variable (env : Env) (kind : Kind) {n : Nat}

theorem visit_eq (small : n < 256) (s : State) (core : Nat) :
    visit env kind.branch [upperDigit (n / 16), upperDigit (n % 16)] s core =
      some { s with core := decimal core, machine := s.machine.request kind (BitVec.ofNat 8 n) [core] } := by
  rw [visit]
  by_cases on : s.machine.enabled core = true
  · obtain ⟨text, made, reads⟩ := desmsr_eq kind small (s.machine.msr core 0x774) env
    have written : s.machine.wrmsr core 0x774 (kind.write (BitVec.ofNat 8 n) (s.machine.msr core 0x774)) =
        s.machine.request kind (BitVec.ofNat 8 n) [core] := by
      refine Machine.ext rfl (funext fun c => funext fun a => ?_)
      rw [msr_request, msr_wrmsr]
      by_cases here : c = core ∧ a = 0x774
      · simp [here, on]
      · rw [if_neg here, if_neg]
        rintro ⟨inside, -, address⟩
        exact here ⟨List.mem_singleton.mp inside, address⟩
    rw [if_pos ((rdmsrField_iff s.machine core).mpr on), Machine.rdmsr, made, ← written]
    simp only [Option.bind_eq_bind, Option.bind_some, reads]
    rfl
  · have unchanged : s.machine.request kind (BitVec.ofNat 8 n) [core] = s.machine := by
      refine Machine.ext rfl (funext fun c => funext fun a => ?_)
      rw [msr_request, if_neg]
      rintro ⟨inside, enabled, -⟩
      exact on (List.mem_singleton.mp inside ▸ enabled)
    rw [if_neg (mt (rdmsrField_iff s.machine core).mp on), unchanged]
    rfl

theorem foldlM_visit (small : n < 256) (cores : List Nat) (s : State) :
    ∃ core, cores.foldlM (visit env kind.branch [upperDigit (n / 16), upperDigit (n % 16)]) s =
        some { s with core, machine := s.machine.request kind (BitVec.ofNat 8 n) cores } ∧
      (cores = [] → core = s.core) ∧ (cores ≠ [] → core ≠ []) := by
  induction cores generalizing s with
  | nil =>
      rw [request_nil]
      exact ⟨s.core, rfl, fun _ => rfl, fun some_core => absurd rfl some_core⟩
  | cons first cores ih =>
      obtain ⟨core, walked, same, set⟩ := ih
        { s with core := decimal first, machine := s.machine.request kind (BitVec.ofNat 8 n) [first] }
      rw [request_cons] at walked
      rw [List.foldlM_cons, visit_eq env kind small]
      refine ⟨core, walked, fun none => absurd none (List.cons_ne_nil _ _), fun _ => ?_⟩
      by_cases more : cores = []
      · rw [same more]
        exact decimal_ne_nil first
      · exact set more

theorem step_setting (setting : Setting) (s : State) :
    ∃ core, step env s setting.opt =
        some { s with
          core
          machine := s.machine.request setting.kind setting.ratio
            (if s.core = [] then s.machine.allCores else s.parsedCore) } ∧
      (core = [] → s.core = [] ∧ s.machine.allCores = []) := by
  have small : setting.freq / 100000 < 256 := by
    have below := setting.below
    omega
  obtain ⟨core, walked, same, set⟩ := foldlM_visit env setting.kind small
    (if s.core = [] then s.machine.allCores else s.parsedCore) s
  refine ⟨core, ?_, fun unset => ?_⟩
  · rw [Setting.opt, step, setFreq, if_neg (decimal_ne_nil _), hexRatio_decimal setting.below]
    exact walked
  · have none : (if s.core = [] then s.machine.allCores else s.parsedCore) = [] := by
      by_contra more
      exact set more unset
    have before : s.core = [] := (same none).symm.trans unset
    rw [if_pos before] at none
    exact ⟨before, none⟩

theorem foldlM_step_idle (settings : List Setting) {s : State} (idle : s.core ≠ [] ∨ s.machine.allCores = [])
    (noCores : s.parsedCore = []) :
    ((settings.map Setting.opt).foldlM (step env) s).map State.machine = some s.machine := by
  induction settings generalizing s with
  | nil => rfl
  | cons setting settings ih =>
      obtain ⟨core, stepped, unset⟩ := step_setting env setting s
      have empty : (if s.core = [] then s.machine.allCores else s.parsedCore) = [] := by
        split
        · next clear => exact idle.resolve_left (fun set => set clear)
        · exact noCores
      rw [empty, request_nil] at stepped
      rw [List.map_cons, List.foldlM_cons, stepped]
      refine ih ?_ noCores
      by_cases clear : core = []
      · exact .inr (unset clear).2
      · exact .inl clear

end Options

theorem run_settings (env : Env) (machine : Machine) (setting : Setting) (settings : List Setting) :
    run env machine ((setting :: settings).map Setting.opt) =
      some (machine.request setting.kind setting.ratio machine.allCores) := by
  obtain ⟨core, stepped, unset⟩ := step_setting env setting { core := [], parsedCore := [], machine }
  rw [run, List.map_cons, List.foldlM_cons, stepped]
  refine foldlM_step_idle env settings ?_ rfl
  by_cases clear : core = []
  · exact .inr (unset clear).2
  · exact .inl clear

theorem run_core_settings (env : Env) (machine : Machine) {cores : Text} (given : cores ≠ []) (settings : List Setting) :
    run env machine (.core cores :: settings.map Setting.opt) =
      some (settings.foldl (fun machine setting =>
        machine.request setting.kind setting.ratio ((commaWords cores).flatMap coreItem)) machine) := by
  have walk : ∀ s : State, s.core ≠ [] →
      ((settings.map Setting.opt).foldlM (step env) s).map State.machine =
        some (settings.foldl (fun machine setting =>
          machine.request setting.kind setting.ratio s.parsedCore) s.machine) := by
    induction settings with
    | nil => exact fun _ _ => rfl
    | cons setting settings ih =>
        intro s set
        obtain ⟨core, stepped, unset⟩ := step_setting env setting s
        rw [if_neg set] at stepped
        rw [List.map_cons, List.foldlM_cons, stepped]
        exact ih _ fun clear => set (unset clear).1
  rw [run, List.foldlM_cons, step, if_neg given]
  exact walk _ given

/-- The values on which the options come out as meant: nothing is lost in the upper half, and what
    the later options ask for is there already. -/
def Suits : List Setting → BitVec 64 → Prop
  | [], _ => True
  | first :: others, value =>
      value.extractLsb' 32 32 = 0 ∧ lastRatio first.kind (first :: others) = some first.ratio ∧
        ∀ kind ≠ first.kind, ∀ ratio, lastRatio kind (first :: others) = some ratio → ratio = kind.field value

theorem exists_lastRatio (first : Setting) (others : List Setting) :
    ∃ ratio, lastRatio first.kind (first :: others) = some ratio := by
  rw [lastRatio, List.filter_cons_of_pos (by simp), List.getLast?_cons]
  exact ⟨_, rfl⟩

theorem updated_write_iff (first : Setting) (others : List Setting) (value : BitVec 64) :
    Updated (first :: others) value (first.kind.write first.ratio value) ↔ Suits (first :: others) value := by
  constructor
  · intro updated
    refine ⟨(rest_write_iff ..).mp updated.rest, ?_, ?_⟩
    · obtain ⟨ratio, last⟩ := exists_lastRatio first others
      have field := updated.fields first.kind
      rw [field_write_same, last, Option.getD_some] at field
      rw [last, field]
    · intro kind differ ratio last
      have field := updated.fields kind
      rw [field_write_other differ, last, Option.getD_some] at field
      exact field.symm
  · rintro ⟨clear, same, there⟩
    refine ⟨fun kind => ?_, (rest_write_iff ..).mpr clear⟩
    by_cases own : kind = first.kind
    · rw [own, field_write_same, same, Option.getD_some]
    · rw [field_write_other own]
      cases last : lastRatio kind (first :: others) with
      | none => rfl
      | some ratio => exact (there kind own ratio last).symm

/-- The options are carried out on the machines whose values suit them. -/
theorem carriedOut_iff (env : Env) (machine : Machine) (settings : List Setting) :
    (∃ final, run env machine (settings.map Setting.opt) = some final ∧ CarriedOut settings machine final) ↔
      ∀ core ∈ machine.allCores, machine.enabled core = true → Suits settings (machine.msr core 0x774) := by
  cases settings with
  | nil =>
      have same : CarriedOut [] machine machine := ⟨fun _ _ _ => ⟨fun _ => rfl, rfl⟩, fun _ _ _ => rfl⟩
      exact iff_of_true ⟨machine, rfl, same⟩ fun _ _ _ => trivial
  | cons first others =>
      have written : ∀ core ∈ machine.allCores, machine.enabled core = true →
          (machine.request first.kind first.ratio machine.allCores).msr core 0x774 =
            first.kind.write first.ratio (machine.msr core 0x774) := by
        intro core member enabled
        rw [msr_request, if_pos ⟨member, enabled, rfl⟩]
      rw [run_settings]
      constructor
      · rintro ⟨_, ⟨⟩, done⟩ core member enabled
        have updated := done.updated core member enabled
        rw [written core member enabled] at updated
        exact (updated_write_iff first others _).mp updated
      · intro suits
        refine ⟨_, rfl, fun core member enabled => ?_, fun core address other => ?_⟩
        · rw [written core member enabled]
          exact (updated_write_iff first others _).mpr (suits core member enabled)
        · rw [msr_request, if_neg other]

def maxSetting : Setting where
  kind := .max
  freq := 2500000
  below := by decide

def minSetting : Setting where
  kind := .min
  freq := 800000
  below := by decide

/-- A machine with one core, whose HWP is enabled and whose request register holds a value. -/
def oneCore (value : BitVec 64) : Machine where
  allCores := [0]
  msr _ address := if address = 0x770 then 1 else value

theorem msr_oneCore (value : BitVec 64) (core : Nat) : (oneCore value).msr core 0x774 = value := rfl

theorem carriedOut_max :
    ∃ final, run (fun _ => none) (oneCore 0x8000ff08) [.freq .max (decimal 2500000)] = some final ∧
      CarriedOut [maxSetting] (oneCore 0x8000ff08) final := by
  refine (carriedOut_iff (fun _ => none) (oneCore 0x8000ff08) [maxSetting]).mpr ?_
  intro core _ _
  rw [msr_oneCore]
  refine ⟨by decide, rfl, fun kind differ ratio last => ?_⟩
  cases kind with
  | max => exact absurd rfl differ
  | min => cases last

/-- The minimum that follows the maximum is dropped. -/
theorem not_carriedOut_max_min :
    ∃ final, run (fun _ => none) (oneCore 0x8000ff01) [.freq .max (decimal 2500000), .freq .min (decimal 800000)] =
        some final ∧
      final.msr 0 0x774 = 0x80001901 ∧ ¬ CarriedOut [maxSetting, minSetting] (oneCore 0x8000ff01) final := by
  have written : ((oneCore 0x8000ff01).request maxSetting.kind maxSetting.ratio (oneCore 0x8000ff01).allCores).msr
      0 0x774 = 0x80001901 := by decide
  refine ⟨_, run_settings (fun _ => none) (oneCore 0x8000ff01) maxSetting [minSetting], written, fun done => ?_⟩
  have field := (done.updated 0 (List.mem_singleton.mpr rfl) (by decide)).fields .min
  rw [written] at field
  exact absurd field (by decide)

end KvmWorkload.Womix.HwpDesire
