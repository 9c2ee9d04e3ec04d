import KvmWorkload.Lib.Dict
import KvmWorkload.Lib.PyText

/-! # `run_and_capture_pqos`

Two loops read from one generator.  The first one runs up to the second line
with `TIME` and notes the names of the metrics and of the core groups.  The
second one sorts the values into columns until the interrupt arrives while it
waits for a line; then the columns are written.
-/

namespace KvmWorkload.PqosMonTool

inductive PyError where
  | keyboardInterrupt
  | unboundLocalError
  | indexError
  | keyError
  deriving DecidableEq

/-- `re.split("\s+", line)`. -/
def reSplit (line : Text) : List Text := splitRuns isSpace line

/-- An alternative of `infopat`: a word, and behind it one character of a class, if there is one. -/
structure Pattern where
  word : Text
  chars : Option (List Char)

/-- The brackets in the names of the units are character classes. -/
def patterns : List Pattern :=
  [⟨"CORE".toList, none⟩, ⟨"IPC".toList, none⟩, ⟨"MISSES".toList, none⟩,
    ⟨"LLC".toList, some ['K', 'B']⟩, ⟨"MBL".toList, some ['M', 'B', '/', 's']⟩,
    ⟨"MBR".toList, some ['M', 'B', '/', 's']⟩, ⟨"TIME".toList, none⟩]

def Pattern.texts (pattern : Pattern) : List Text :=
  match pattern.chars with
  | none => [pattern.word]
  | some chars => chars.map fun c => pattern.word ++ [c]

/-- What `infopat` matches. -/
def headerWords : List Text := patterns.flatMap Pattern.texts

/-- `re.search(infopat, line)`. -/
def infopat (line : Text) : Bool := headerWords.any fun word => contains word line

/-- `re.search(r"TIME", line)`. -/
def hasTime (line : Text) : Bool := contains "TIME".toList line

/-- The lines up to the end of the file, without those that contain `time`. -/
def perflineout (lines : List Text) : List Text :=
  (lines.takeWhile (· ≠ [])).filter fun line => !contains "time".toList line

/-- `count`, `metname` (unbound at first) and `cores`. -/
structure Discovery where
  count : Nat
  metname : Option (List Text)
  cores : List Text
  deriving DecidableEq

def Discovery.start : Discovery := ⟨0, none, []⟩

/-- The body of `while(count < 2)`. -/
def Discovery.read (s : Discovery) (line : Text) : Discovery :=
  if hasTime (strip line) then { s with count := s.count + 1 }
  else if 1 ≤ s.count then
    if infopat (strip line) then { s with metname := some (reSplit (strip line)) }
    else { s with cores := s.cores ++ [(reSplit (strip line)).headD []] }
  else s

/-- The loop, with the lines that it leaves. -/
def discover : List Text → Discovery → Discovery × List Text
  | [], s => (s, [])
  | line :: lines, s => if s.count < 2 then discover lines (s.read line) else (s, line :: lines)

abbrev Data := Dict Text (List Text)

section Lower

-- `str.lower`
variable (lower : Text → Text)

/-- `"%s_%s" % (name.lower(), group)`. -/
def metricName (name group : Text) : Text := lower name ++ '_' :: group

/-- A use of `metname`. -/
def bound (metname : Option (List Text)) : Except PyError (List Text) :=
  match metname with
  | none => .error .unboundLocalError
  | some names => .ok names

/-- An empty column for every metric of every core group. -/
def Discovery.data (s : Discovery) : Except PyError Data :=
  s.cores.foldlM (fun data c => do
    let metname ← bound s.metname
    pure ((metname.drop 1).foldl (fun data name => data.set (metricName lower name c) []) data)) Dict.empty

/-- `data[colname].append(value)`. -/
def append (data : Data) (colname value : Text) : Except PyError Data :=
  match data.get? colname with
  | none => .error .keyError
  | some _ => .ok (data.modify colname (· ++ [value]))

/-- `metname[i]`. -/
def nameAt (metname : Option (List Text)) (i : Nat) : Except PyError Text := do
  let names ← bound metname
  match names[i]? with
  | none => .error .indexError
  | some name => .ok name

/-- The body of the second loop, behind `next`. -/
def capture (metname : Option (List Text)) (data : Data) (line : Text) :
    Except PyError Data :=
  if infopat (strip line) then .ok data
  else
    let metinfo := reSplit (strip line)
    (metinfo.zipIdx.drop 1).foldlM (fun data info => do
      let name ← nameAt metname info.2
      append data (metricName lower name (metinfo.headD [])) info.1) data

/-- A column of the CSV file: its name and its cells.  An empty cell is `none`. -/
abbrev Column := Text × List (Option Text)

-- `DataFrame.from_dict(data, orient='index').transpose()`, written with `to_csv`
variable (toCsv : Data → List Column)

/-- What is written when the interrupt arrives behind the `consumed` lines.  The first loop does not
    handle it. -/
def runAndCapturePqos (consumed : List Text) : Except PyError (List Column) :=
  let (found, rest) := discover (perflineout consumed) .start
  if found.count < 2 then .error .keyboardInterrupt
  else do
    let data ← found.data lower
    let data ← rest.foldlM (capture lower found.metname) data
    pure (toCsv data)

end Lower

/-- A column under its name, with its values and padding behind them. -/
def Padded (entry : Text × List Text) (column : Column) : Prop :=
  column.1 = entry.1 ∧ ∃ padding, column.2 = entry.2.map some ++ List.replicate padding none

/-- What pandas is taken to do: every key becomes a column, and short columns are padded at their end. -/
def Transposes (toCsv : Data → List Column) : Prop := ∀ data, List.Forall₂ Padded data.entries (toCsv data)

/-- The length of the longest column. -/
def height (data : Data) : Nat := (data.entries.map fun entry => entry.2.length).foldr max 0

/-- All columns filled up to the longest one. -/
def filledUp (data : Data) : List Column :=
  data.entries.map fun entry =>
    (entry.1, entry.2.map some ++ List.replicate (height data - entry.2.length) none)

theorem filledUp_transposes : Transposes filledUp := by
  intro data
  rw [filledUp, List.forall₂_map_right_iff]
  exact List.forall₂_same.mpr fun entry _ => ⟨rfl, _, rfl⟩

end KvmWorkload.PqosMonTool
