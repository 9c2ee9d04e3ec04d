import KvmWorkload.Mailbox.Sockets

/-! # Validating the mailbox

os_mailbox_validate.sh writes random settings and reads all registers back, 255
times, and prints a line for every register that is not as it was written.  Of
the switch it expects what it is told to: the copy in womix still expects 3, where
the update has come to write 2.
-/

namespace KvmWorkload.Mailbox.Validate

/-- How many numbers have been drawn. -/
abbrev Draw := StateM Nat

/-- `$RANDOM`, where `numbers` are all that are to come. -/
def random (numbers : Nat → Nat) : Draw Nat := fun drawn => (numbers drawn, drawn + 1)

/-- `mclos_min`. -/
def mclosMin (numbers : Nat → Nat) (mclosMax : Nat) : Draw { min // min ≤ mclosMax } :=
  if zero : mclosMax = 0 then pure ⟨0, Nat.zero_le _⟩
  else do
    let number ← random numbers
    pure ⟨number % mclosMax, Nat.le_of_lt (Nat.mod_lt _ (Nat.pos_of_ne_zero zero))⟩

/-- What a round draws and uses. -/
structure Round where
  byte1 : Fin 255
  byte2 : Fin 255
  byte3 : Fin 255
  byte4 : Fin 255
  digit : Fin 15
  min1 : { min // min ≤ byte1.val }
  min2 : { min // min ≤ byte2.val }
  min3 : { min // min ≤ byte3.val }
  min4 : { min // min ≤ byte4.val }

def drawRound (numbers : Nat → Nat) : Draw Round := do
  let byte1 ← Fin.ofNat 255 <$> random numbers
  let byte2 ← Fin.ofNat 255 <$> random numbers
  let byte3 ← Fin.ofNat 255 <$> random numbers
  let byte4 ← Fin.ofNat 255 <$> random numbers
  -- Two bytes other than zero and a number up to ten, which are not used.
  let _ ← random numbers
  let _ ← random numbers
  let _ ← random numbers
  let digit ← Fin.ofNat 15 <$> random numbers
  let _ ← random numbers
  let min1 ← mclosMin numbers byte1
  let min2 ← mclosMin numbers byte2
  let min3 ← mclosMin numbers byte3
  let min4 ← mclosMin numbers byte4
  pure { byte1, byte2, byte3, byte4, digit, min1, min2, min3, min4 }

/-- `%02x`. -/
def hex2 (n : Nat) : Text := (Nat.toDigits 16 n).leftpad 2 '0'

namespace Round

variable (round : Round)

def closToMemclos : Text := hex2 round.byte1 ++ hex2 round.byte2 ++ hex2 round.byte3 ++ hex2 round.byte4

def attributesMclos0 : Text := "80".toList ++ hex2 round.byte1 ++ hex2 round.min1 ++ hex2 round.digit

def attributesMclos1 : Text := "81".toList ++ hex2 round.byte2 ++ hex2 round.min2 ++ hex2 round.digit

def attributesMclos2 : Text := "82".toList ++ hex2 round.byte3 ++ hex2 round.min3 ++ hex2 round.digit

def attributesMclos3 : Text := "83".toList ++ hex2 round.byte4 ++ hex2 round.min4 ++ hex2 round.digit

def config0 : Text := "018001".toList ++ hex2 round.byte2

/-- A text behind `0x` as `wrmsr` takes it. -/
def word (text : Text) : BitVec 32 := BitVec.ofNat 32 ((readRadix 16 text).getD 0)

def settings : Settings where
  closToMemclos := word round.closToMemclos
  attributesMclos0 := word round.attributesMclos0
  attributesMclos1 := word round.attributesMclos1
  attributesMclos2 := word round.attributesMclos2
  attributesMclos3 := word round.attributesMclos3
  config0 := word round.config0

/-- The registers in the order in which they are verified, with what is expected. -/
def checks (switch : Text) : List (Register × Text) :=
  [(.closToMemclos, round.closToMemclos), (.attributesMclos0, round.attributesMclos0),
   (.attributesMclos1, round.attributesMclos1), (.attributesMclos2, round.attributesMclos2),
   (.attributesMclos3, round.attributesMclos3), (.config0, round.config0), (.memclosEn, switch)]

end Round

/-- The line of a register that differs. -/
def failLine (reg : Register) (returned expected : Text) : Text :=
  "=====fail:[0x".toList ++ rdmsrText reg.readCode ++ "]return is=".toList ++ returned ++ "should be=".toList ++ expected

def report (check : Register × Text) (returned : Text) : List Text :=
  if check.2 = returned then [] else [failLine check.1 returned check.2]

def verifyOsMailboxRead (coreId : Nat) (check : Register × Text) : Shell (List Text) := do
  hwdrcRead coreId check.1.readCode
  let returned ← readRetData
  pure (report check returned)

def verifyAll (coreId : Nat) : List (Register × Text) → Shell (List Text)
  | [] => pure []
  | check :: rest => do
      let lines ← verifyOsMailboxRead coreId check
      let later ← verifyAll coreId rest
      pure (lines ++ later)

def validateRound (switch : Text) (round : Round) : Shell (List Text) := do
  hwdrcSettingsUpdate 1 round.settings
  verifyAll 1 (round.checks switch)

/-- The loop of os_mailbox_validate.sh, with 255 rounds; `drawn` counts the numbers of the rounds before.
    `switch` is `00000002` in hwdrc_postsi and `00000003` in womix. -/
def validate (switch : Text) (numbers : Nat → Nat) : Nat → Nat → Shell (List Text)
  | 0, _ => pure []
  | rounds + 1, drawn => do
      let (round, drawn) := drawRound numbers drawn
      let lines ← validateRound switch round
      let later ← validate switch numbers rounds drawn
      pure (lines ++ later)

theorem hex2_eq {n : Nat} (byte : n < 256) : hex2 n = fixedDigits 16 2 n :=
  leftpad_toDigits (by omega) (by omega) byte

/-- Four bytes come back as they were printed. -/
theorem hexDigits_word {a b c d : Nat} (byteA : a < 256) (byteB : b < 256) (byteC : c < 256) (byteD : d < 256) :
    hexDigits (Round.word (hex2 a ++ hex2 b ++ hex2 c ++ hex2 d)) = hex2 a ++ hex2 b ++ hex2 c ++ hex2 d := by
  have digits : hex2 a ++ hex2 b ++ hex2 c ++ hex2 d =
      fixedDigits 16 8 (((a * 16 ^ 2 + b) * 16 ^ 2 + c) * 16 ^ 2 + d) := by
    rw [hex2_eq byteA, hex2_eq byteB, hex2_eq byteC, hex2_eq byteD, ← fixedDigits_mul_add byteB,
      ← fixedDigits_mul_add byteC, ← fixedDigits_mul_add byteD]
  have fits : ((a * 16 ^ 2 + b) * 16 ^ 2 + c) * 16 ^ 2 + d < 16 ^ 8 := by omega
  have small : ((a * 16 ^ 2 + b) * 16 ^ 2 + c) * 16 ^ 2 + d < 2 ^ 32 := fits
  rw [digits, Round.word, readRadix_fixedDigits (by omega) (by omega) fits, Option.getD_some, hexDigits,
    BitVec.toNat_ofNat, Nat.mod_eq_of_lt small, leftpad_toDigits (by omega) (by omega) fits]

theorem report_checks (switch : Text) (round : Round) :
    (round.checks switch).flatMap (fun check => report check (hexDigits (round.settings.value check.1))) =
      report (.memclosEn, switch) "00000002".toList := by
  have byte : ∀ b : Fin 255, b.val < 256 := fun b => Nat.lt_of_lt_of_le b.isLt (by decide)
  have least : ∀ {b : Fin 255} (min : { min // min ≤ b.val }), min.val < 256 := fun min =>
    Nat.lt_of_le_of_lt min.property (byte _)
  have digit : round.digit.val < 256 := Nat.lt_of_lt_of_le round.digit.isLt (by decide)
  have same : ∀ check ∈ (round.checks switch).dropLast, hexDigits (round.settings.value check.1) = check.2 := by
    simp only [Round.checks, List.dropLast, List.forall_mem_cons, List.not_mem_nil, false_implies, implies_true, and_true]
    refine ⟨?_, ?_, ?_, ?_, ?_, ?_⟩
    · exact hexDigits_word (byte _) (byte _) (byte _) (byte _)
    · exact hexDigits_word (a := 0x80) (by decide) (byte _) (least _) digit
    · exact hexDigits_word (a := 0x81) (by decide) (byte _) (least _) digit
    · exact hexDigits_word (a := 0x82) (by decide) (byte _) (least _) digit
    · exact hexDigits_word (a := 0x83) (by decide) (byte _) (least _) digit
    · exact hexDigits_word (a := 0x01) (b := 0x80) (c := 0x01) (by decide) (by decide) (by decide) (byte _)
  have split : round.checks switch = (round.checks switch).dropLast ++ [(.memclosEn, switch)] := rfl
  have quiet : (round.checks switch).dropLast.flatMap
      (fun check => report check (hexDigits (round.settings.value check.1))) = [] := by
    refine List.flatMap_eq_nil_iff.mpr fun check member => ?_
    rw [same check member, report, if_pos rfl]
  have two : hexDigits 0x2 = "00000002".toList := by decide
  rw [split, List.flatMap_append, quiet, List.nil_append, List.flatMap_singleton]
  exact congrArg (report _) two

theorem verifyOsMailboxRead_local (coreId : Nat) (check : Register × Text) :
    Local coreId (verifyOsMailboxRead coreId check) :=
  (Local.hwdrcRead _).bind fun _ => Local.readRetData.bind fun _ => Local.pure _

theorem verifyAll_local (coreId : Nat) (checks : List (Register × Text)) : Local coreId (verifyAll coreId checks) := by
  induction checks with
  | nil => exact Local.pure []
  | cons check rest ih =>
      exact (verifyOsMailboxRead_local coreId check).bind fun _ => ih.bind fun _ => Local.pure _

theorem validateRound_local (switch : Text) (round : Round) : Local 1 (validateRound switch round) :=
  (Local.forM (fun call : Msr × Msr => Local.hwdrcWrite call.1 call.2) _).bind fun _ => verifyAll_local 1 _

theorem validate_local (switch : Text) (numbers : Nat → Nat) (rounds drawn : Nat) :
    Local 1 (validate switch numbers rounds drawn) := by
  induction rounds generalizing drawn with
  | zero => exact Local.pure []
  | succ rounds ih => exact (validateRound_local switch _).bind fun _ => (ih _).bind fun _ => Local.pure _

section Runs

variable {start file : Firmware} {polls reads : Nat}

theorem verifyOsMailboxRead_ready (check : Register × Text) :
    Triple (Ready start (polls + 3) (reads + 1) file) (verifyOsMailboxRead 1 check)
      (fun lines m => Ready start polls reads (loadCall file check.1.readCode) m ∧
        (Answers firmware start m.trace → lines = report check (hexDigits (registers file check.1))))
      (fun _ => False) := by
  refine (hwdrcRead_ready (not_store_readCode check.1)).bind fun _ => ?_
  rintro m ⟨ready, read⟩
  exact ⟨ready, fun answers => congrArg (report check) (read answers)⟩

theorem verifyAll_ready (checks : List (Register × Text)) :
    Triple (Ready start (polls + 3 * checks.length) (reads + checks.length) file) (verifyAll 1 checks)
      (fun lines m => (∃ file', Ready start polls reads file' m) ∧ (Answers firmware start m.trace →
        lines = checks.flatMap fun check => report check (hexDigits (registers file check.1))))
      (fun _ => False) := by
  induction checks generalizing file with
  | nil => exact fun m ready => ⟨⟨file, ready⟩, fun _ => rfl⟩
  | cons check rest ih =>
      have needPolls : polls + 3 * (check :: rest).length = polls + 3 * rest.length + 3 := by
        rw [List.length_cons]
        omega
      have needReads : reads + (check :: rest).length = reads + rest.length + 1 := by
        rw [List.length_cons, Nat.add_assoc]
      rw [needPolls, needReads]
      refine (verifyOsMailboxRead_ready check).bind fun lines => ?_
      -- What the first read gave is kept while the others are made, from the same registers.
      refine ((verifyAll_local 1 rest).answered start _ ih).bind fun later => ?_
      rintro m ⟨⟨ends, others⟩, first⟩
      refine ⟨ends, fun answers => ?_⟩
      rw [first answers, others answers]
      rfl

theorem validateRound_ready (switch : Text) (round : Round) :
    Triple (Ready start (polls + 45) (reads + 7) file) (validateRound switch round)
      (fun lines m => (∃ file', Ready start polls reads file' m) ∧
        (Answers firmware start m.trace → lines = report (.memclosEn, switch) "00000002".toList))
      (fun _ => False) := by
  refine (writes_ready (inOrder_settingsWrites file round.settings)).bind fun _ => ?_
  refine (verifyAll_ready (round.checks switch)).consequence (fun _ ready => ready) ?_ (fun _ stop => stop)
  rintro lines m ⟨ends, printed⟩
  refine ⟨ends, fun answers => ?_⟩
  have values : registers ((settingsWrites round.settings).foldl storeCall file) = round.settings.value :=
    funext fun reg => regs_settingsWrites file round.settings reg
  rw [printed answers, values, report_checks]

theorem validate_ready (switch : Text) (numbers : Nat → Nat) (rounds drawn : Nat) :
    Triple (Ready start (polls + 45 * rounds) (reads + 7 * rounds) file) (validate switch numbers rounds drawn)
      (fun lines m => Answers firmware start m.trace →
        lines = (List.replicate rounds (report (.memclosEn, switch) "00000002".toList)).flatten)
      (fun _ => False) := by
  induction rounds generalizing file drawn with
  | zero => exact fun m ready _ => rfl
  | succ rounds ih =>
      refine (validateRound_ready switch _).bind fun lines => ?_
      rintro m ⟨⟨file', ready⟩, first⟩
      refine (((validate_local switch numbers rounds _).answered start _ (ih _)).bind fun later => ?_) m ⟨ready, first⟩
      rintro m' ⟨others, first⟩ answers
      rw [first answers, others answers, List.replicate_succ, List.flatten_cons]

end Runs

/-- Whatever numbers are drawn, and whatever the registers held before: when the firmware answers with
    what it holds, nothing is reported but the switch, and that in every round in which something
    other than 2 is expected of it. -/
theorem validate_reports (switch : Text) (numbers : Nat → Nat) (rounds : Nat) (start : Firmware)
    {interfaceValues dataValues : List Msr} (idle : ∀ value ∈ interfaceValues, FindsIdle value)
    (polls : 45 * rounds ≤ interfaceValues.length) (reads : 7 * rounds ≤ dataValues.length)
    (answers : Answers firmware start
      (stateAfter (validate switch numbers rounds 0) (fresh interfaceValues dataValues)).trace) :
    ∃ m, validate switch numbers rounds 0 (fresh interfaceValues dataValues) =
      .ok (if switch = "00000002".toList then []
        else List.replicate rounds (failLine .memclosEn "00000002".toList switch)) m := by
  have ready : Ready start (0 + 45 * rounds) (0 + 7 * rounds) start (fresh interfaceValues dataValues) := by
    refine ⟨idle, ?_, ?_, rfl, StoresWhile.nil⟩
    · rwa [Nat.zero_add]
    · rwa [Nat.zero_add]
  obtain ⟨lines, m, run, printed⟩ := (validate_ready switch numbers rounds 0).returns ready
  rw [stateAfter, run] at answers
  refine ⟨m, run.trans ?_⟩
  rw [printed answers, report]
  split_ifs
  · rw [List.flatten_replicate_nil]
  · rw [List.flatten_replicate_singleton]

/-- One round of the copy in womix, with all numbers 0. -/
theorem validate_reports_womix :
    ∃ m, validate "00000003".toList (fun _ => 0) 1 0 (fresh (List.replicate 45 0)
        [0x0, 0x80000000, 0x81000000, 0x82000000, 0x83000000, 0x01800100, 0x2]) =
      .ok ["=====fail:[0x800054d0]return is=00000002should be=00000003".toList] m := by
  have line : failLine .memclosEn "00000002".toList "00000003".toList =
      "=====fail:[0x800054d0]return is=00000002should be=00000003".toList := by decide
  rw [← line]
  refine validate_reports "00000003".toList (fun _ => 0) 1 ⟨fun _ => 0xffffffff, 0⟩ ?_ (by decide) (by decide)
    (by decide +kernel)
  intro value member
  rw [List.eq_of_mem_replicate member]
  exact ⟨0, by decide, by decide⟩

end KvmWorkload.Mailbox.Validate
