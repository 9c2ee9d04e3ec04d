import KvmWorkload.Lib.Exec
import KvmWorkload.Lib.Fields
import KvmWorkload.Lib.Pattern
import KvmWorkload.Lib.PyText
import Mathlib.Data.Rat.Defs
import Mathlib.Logic.Function.Basic

/-! # Reading the reports of wrk and wrk2

Both functions of `run_wrk_collect_data.py` go through the lines of a report and
try one regular expression after the other; the first that matches assigns its
variables.  `get_wrk_stat` keeps the numbers as the report spells them and knows
one unit; `get_wrk2_stat` converts them.
-/

namespace KvmWorkload.Nginx

open Pattern

inductive PyError where
  | unboundLocalError
  | valueError
  | zeroDivisionError
  deriving DecidableEq

/-- The percentile variables; the third is the 99.9 one for wrk2. -/
inductive Percentile where
  | p50
  | p75
  | p99
  deriving DecidableEq

/-- The variables that both functions assign from the lines, unbound at first. -/
structure Found (α : Type) where
  thread : Option Text
  con : Option Text
  percentile : Percentile → Option α
  /-- `total`, in `get_wrk_stat` `QPS`. -/
  total : Option Text

/-- The variables of the loop; only `get_wrk2_stat` has the timeouts. -/
structure Vars (α : Type) where
  found : Found α
  timeouts : Text

variable {α : Type}

def Found.start : Found α where
  thread := none
  con := none
  percentile _ := none
  total := none

/-- `match = re.search(..)`, `if(match)`. -/
structure Test (α : Type) where
  pattern : List Piece
  assign : Captures → Vars α → Except PyError (Vars α)

/-- The body of the loop: `continue` behind the first match. -/
def scanLine : List (Test α) → Vars α → Text → Except PyError (Vars α)
  | [], vars, _ => .ok vars
  | test :: tests, vars, i =>
      match search test.pattern i with
      | some groups => test.assign groups vars
      | none => scanLine tests vars i

/-- `(\d+) threads and (\d+) connections`. -/
def connectionsPattern : List Piece :=
  .plus (some 1) Char.isDigit :: (chars " threads and ".toList ++
    .plus (some 2) Char.isDigit :: chars " connections".toList)

/-- `(\d+) requests in`. -/
def requestsPattern : List Piece := .plus (some 1) Char.isDigit :: chars " requests in".toList

/-- `timeout\s+(\d+)`. -/
def timeoutPattern : List Piece := chars "timeout".toList ++ [.plus none isSpace, .plus (some 1) Char.isDigit]

/-- `%\s+(\d+.\d+)` between a tag and what stands for the unit. -/
def percentilePattern (tag : Text) (unit : List Piece) : List Piece :=
  chars tag ++ char '%' :: .plus none isSpace :: .plus (some 1) Char.isDigit ::
    .one (some 1) (fun c => c ≠ '\n') :: .plus (some 1) Char.isDigit :: unit

/-- `\w`. -/
def isWord (c : Char) : Bool := c.isAlphanum || c = '_'

def connectionsTest : Test α where
  pattern := connectionsPattern
  assign groups vars :=
    .ok { vars with found.thread := some (groups.group 1), found.con := some (groups.group 2) }

def requestsTest : Test α where
  pattern := requestsPattern
  assign groups vars := .ok { vars with found.total := some (groups.group 1) }

def timeoutTest : Test α where
  pattern := timeoutPattern
  assign groups vars := .ok { vars with timeouts := groups.group 1 }

/-- What differs between the loops of the two functions. -/
structure Tool (α : Type) where
  tag : Percentile → Text
  unit : List Piece
  value : Captures → Except PyError α
  more : List (Test α)

def Tool.percentileTest (tool : Tool α) (p : Percentile) : Test α where
  pattern := percentilePattern (tool.tag p) tool.unit
  assign groups vars := do
    let value ← tool.value groups
    return { vars with found.percentile := Function.update vars.found.percentile p (some value) }

def Tool.common (tool : Tool α) : List (Test α) :=
  [connectionsTest, tool.percentileTest .p50, tool.percentileTest .p75, tool.percentileTest .p99, requestsTest]

def Tool.tests (tool : Tool α) : List (Test α) := tool.common ++ tool.more

def Tool.scan (tool : Tool α) (lines : List Text) : Except PyError (Vars α) :=
  lines.foldlM (scanLine tool.tests) ⟨.start, ['0']⟩

/-- Reading a variable. -/
def bound {β : Type} (var : Option β) : Except PyError β := var.elim (.error .unboundLocalError) .ok

/-- `50%\s+(\d+.\d+)ms` and the like; the text of the group is kept. -/
def wrk : Tool Text where
  tag
    | .p50 => ['5', '0']
    | .p75 => ['7', '5']
    | .p99 => ['9', '9']
  unit := chars ['m', 's']
  value groups := .ok (groups.group 1)
  more := []

def getWrkStat (lines : List Text) : Except PyError Text := do
  let ⟨found, _⟩ ← wrk.scan lines
  let res ← [found.thread, found.con, found.percentile .p50, found.percentile .p75, found.percentile .p99,
    found.total].mapM bound
  return [','].intercalate res

/-- `float(text)` for digits with at most one point, exact. -/
def float (text : Text) : Except PyError ℚ :=
  match text.splitOn '.' with
  | [whole] => if whole ≠ [] ∧ whole.all Char.isDigit then .ok (readDecimal whole) else .error .valueError
  | [whole, frac] =>
      if whole ++ frac ≠ [] ∧ (whole ++ frac).all Char.isDigit then
        .ok (readDecimal whole + readDecimal frac / 10 ^ frac.length)
      else .error .valueError
  | _ => .error .valueError

def mult (unit : Text) : ℚ :=
  if unit = ['m'] then 60 * 1000
  else if unit = ['s'] then 1000
  else if unit = ['u', 's'] then 0.001
  else 1

/-- `50.000%\s+(\d+.\d+)(\w+)` and the like. -/
def wrk2 : Tool ℚ where
  tag
    | .p50 => ['5', '0', '.', '0', '0', '0']
    | .p75 => ['7', '5', '.', '0', '0', '0']
    | .p99 => ['9', '9', '.', '9', '0', '0']
  unit := [.plus (some 2) isWord]
  value groups := do return mult (groups.group 2) * (← float (groups.group 1))
  more := [timeoutTest]

/-- The values that `get_wrk2_stat` writes into its result. -/
structure Row where
  thread : Text
  con : Text
  p50 : ℚ
  p75 : ℚ
  p99 : ℚ
  qps : ℚ
  timeouts : Text
  deriving DecidableEq

def int (text : Text) : Except PyError Int := (readInt text).elim (.error .valueError) .ok

def div (n d : Int) : Except PyError ℚ := if d = 0 then .error .zeroDivisionError else .ok (n / d)

def getWrk2Stat (lines : List Text) (dur : Text) : Except PyError Row := do
  let ⟨found, timeouts⟩ ← wrk2.scan lines
  let time := dur.filter (· ≠ 's')
  let qps ← div (← int (← bound found.total)) (← int time)
  return {
    thread := ← bound found.thread
    con := ← bound found.con
    p50 := ← bound (found.percentile .p50)
    p75 := ← bound (found.percentile .p75)
    p99 := ← bound (found.percentile .p99)
    qps := qps
    timeouts := timeouts }

variable {tests more : List (Test α)} {vars : Vars α} {i : Text}

theorem scanLine_append (refused : ∀ test ∈ tests, search test.pattern i = none) :
    scanLine (tests ++ more) vars i = scanLine more vars i := by
  induction tests with
  | nil => rfl
  | cons test tests ih =>
      rw [List.forall_mem_cons] at refused
      rw [List.cons_append, scanLine, refused.1]
      exact ih refused.2

theorem scanLine_first (test : Test α) {groups : Captures} (refused : ∀ test ∈ tests, search test.pattern i = none)
    (matched : search test.pattern i = some groups) :
    scanLine (tests ++ test :: more) vars i = test.assign groups vars := by
  rw [scanLine_append refused, scanLine, matched]

end KvmWorkload.Nginx
