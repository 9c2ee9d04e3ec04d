import KvmWorkload.Lib.Radix
import KvmWorkload.Lib.Fields
import Mathlib.Data.BitVec
import Mathlib.Data.List.Chain

/-! # Shell arithmetic

The text between `((` and `))` is an expression on 64-bit numbers.  A word that
starts with a digit is a constant and any other word is a variable, whose own
text is evaluated in turn; quotes have been dropped before.  The operators are
those that occur in the scripts.
-/

namespace KvmWorkload.ShellArith

/-- The binary operators, the loosest first. -/
inductive Op where
  | or
  | bitOr
  | bitAnd
  | eq
  | sub
  | div
  deriving DecidableEq

inductive Token where
  | word (text : Text)
  | op (op : Op)
  deriving DecidableEq

inductive Expr where
  | name (x : Text)
  | number (n : BitVec 64)
  | neg (e : Expr)
  | binary (op : Op) (a b : Expr)

def isWordChar (c : Char) : Bool := c.isAlphanum || c == '_'

/-- The word collected so far ends here. -/
def flush (word : Text) (tokens : List Token) : List Token :=
  if word = [] then tokens else .word word :: tokens

/-- The tokens of a text.  Two adjacent dashes are one token, the decrement, which is left out. -/
def scan (word : Text) : Text → Option (List Token)
  | [] => some (flush word [])
  | ' ' :: rest => (scan [] rest).map (flush word)
  | '-' :: '-' :: _ => none
  | '-' :: rest => (scan [] rest).map fun tokens => flush word (.op .sub :: tokens)
  | '/' :: rest => (scan [] rest).map fun tokens => flush word (.op .div :: tokens)
  | '&' :: rest => (scan [] rest).map fun tokens => flush word (.op .bitAnd :: tokens)
  | '=' :: '=' :: rest => (scan [] rest).map fun tokens => flush word (.op .eq :: tokens)
  | '|' :: '|' :: rest => (scan [] rest).map fun tokens => flush word (.op .or :: tokens)
  | '|' :: rest => (scan [] rest).map fun tokens => flush word (.op .bitOr :: tokens)
  | c :: rest => if isWordChar c then scan (word ++ [c]) rest else none

def tokens (text : Text) : Option (List Token) := scan [] text

/-- A constant: hexadecimal behind `0x`, octal behind `0`, and decimal otherwise. -/
def constant (text : Text) : Option (BitVec 64) :=
  let value := match text with
    | '0' :: 'x' :: digits => readRadix 16 digits
    | ['0'] => some 0
    | '0' :: digits => readRadix 8 digits
    | digits => readRadix 10 digits
  value.map (BitVec.ofNat 64)

def primary : List Token → Option Expr
  | [.word text] => if text.head?.any Char.isDigit then (constant text).map .number else some (.name text)
  | _ => none

/-- A chain of operands of the next level, taken from the left. -/
def level (op : Op) (next : List Token → Option Expr) (tokens : List Token) : Option Expr := do
  match ← (tokens.splitOn (.op op)).mapM next with
  | [] => none
  | first :: others => some (others.foldl (.binary op) first)

def term : List Token → Option Expr := level .div primary

/-- What stands between the dashes.  A dash with no operand in front of it negates. -/
def sumFrom (left : Option Expr) (signs : Nat) : List (List Token) → Option Expr
  | [] => left
  | [[]] => none
  | [] :: rest => sumFrom left (signs + 1) rest
  | part :: rest => do
      let operand := Expr.neg^[signs] (← term part)
      sumFrom (some (left.elim operand fun left => .binary .sub left operand)) 0 rest

def sum (tokens : List Token) : Option Expr := sumFrom none 0 (tokens.splitOn (.op .sub))

def expression : List Token → Option Expr := level .or (level .bitOr (level .bitAnd (level .eq sum)))

/-- What the text of a variable amounts to. -/
inductive Content where
  | number (n : BitVec 64)
  /-- The text is no expression, or it never comes to an end. -/
  | broken

/-- The variables that are set. -/
abbrev Env := Text → Option Content

def Env.value (env : Env) (x : Text) : Option (BitVec 64) :=
  match env x with
  | none => some 0
  | some (.number n) => some n
  | some .broken => none

def ofBool (b : Bool) : BitVec 64 := if b then 1 else 0

def apply (x y : BitVec 64) : Op → Option (BitVec 64)
  | .or => some (ofBool (x ≠ 0 ∨ y ≠ 0))
  | .bitOr => some (x ||| y)
  | .bitAnd => some (x &&& y)
  | .eq => some (ofBool (x = y))
  | .sub => some (x - y)
  | .div => if y = 0 then none else some (x.sdiv y)

def eval (env : Env) : Expr → Option (BitVec 64)
  | .name x => env.value x
  | .number n => some n
  | .neg e => (eval env e).map (- ·)
  | .binary op a b => do
      let x ← eval env a
      -- The right side of `||` is left alone when the left one decides.
      if op = .or ∧ x ≠ 0 then return 1
      let y ← eval env b
      apply x y op

/-- The value of a text; `none` is an error. -/
def arith (env : Env) (text : Text) : Option (BitVec 64) := do eval env (← expression (← tokens text))

/-- The command `(( text ))` succeeds. -/
def holds (env : Env) (text : Text) : Bool := (arith env text).any (· ≠ 0)

/-- What `$(( ))` leaves in its place. -/
def expansion (value : BitVec 64) : Text :=
  if value.msb then '-' :: decimal (-value).toNat else decimal value.toNat

theorem flush_append (word : Text) (front back : List Token) :
    flush word (front ++ back) = flush word front ++ back := by
  rw [flush, flush]
  split <;> rfl

theorem scan_cons_of_wordChar {c : Char} (wordChar : isWordChar c = true) (word rest : Text) :
    scan word (c :: rest) = scan (word ++ [c]) rest := by
  have other : ∀ d : Char, isWordChar d = false → c ≠ d := by
    rintro d none rfl
    exact Bool.false_ne_true (none.symm.trans wordChar)
  rw [scan, if_pos wordChar]
  · exact other ' ' (by decide)
  · exact fun _ same _ => other '-' (by decide) same
  · exact other '-' (by decide)
  · exact other '/' (by decide)
  · exact other '&' (by decide)
  · exact fun _ same _ => other '=' (by decide) same
  · exact fun _ same _ => other '|' (by decide) same
  · exact other '|' (by decide)

/-- Characters of a word are collected. -/
theorem scan_wordChars {more : Text} (wordChars : ∀ c ∈ more, isWordChar c = true) (word rest : Text) :
    scan word (more ++ rest) = scan (word ++ more) rest := by
  induction more generalizing word with
  | nil => rw [List.nil_append, List.append_nil]
  | cons c more ih =>
      rw [List.cons_append, scan_cons_of_wordChar (wordChars c List.mem_cons_self),
        ih fun d member => wordChars d (List.mem_cons_of_mem c member), List.append_assoc, List.singleton_append]

theorem tokens_word {word : Text} (nonempty : word ≠ []) (wordChars : ∀ c ∈ word, isWordChar c = true) :
    tokens word = some [.word word] := by
  have collected := scan_wordChars wordChars [] []
  rw [List.append_nil, List.nil_append] at collected
  rw [tokens, collected, scan, flush, if_neg nonempty]

@[simp] theorem tokens_blank (text : Text) : tokens (' ' :: text) = tokens text := by
  rw [tokens, tokens, scan]
  cases scan [] text <;> rfl

/-- No two dashes are adjacent. -/
def SingleDashes (text : Text) : Prop := text.IsChain fun c d => c = '-' → d ≠ '-'

theorem singleDashes_cons {c : Char} {text : Text} :
    SingleDashes (c :: text) ↔ (c = '-' → text.head? ≠ some '-') ∧ SingleDashes text := by
  rw [SingleDashes, List.isChain_cons]
  refine and_congr ⟨fun apart same head => ?_, fun apart d head same => ?_⟩ Iff.rfl
  · exact apart '-' head same rfl
  · rintro rfl
    exact apart same head

theorem singleDashes_append {word rest : Text} (clean : '-' ∉ word) (single : SingleDashes rest) :
    SingleDashes (word ++ rest) := by
  induction word with
  | nil => exact single
  | cons c word ih =>
      rw [List.mem_cons, not_or] at clean
      rw [List.cons_append, singleDashes_cons]
      exact ⟨fun same => absurd same.symm clean.1, ih clean.2⟩

/-- A text of words and single dashes. -/
structure Plain (text : Text) : Prop where
  chars : ∀ c ∈ text, isWordChar c = true ∨ c = '-'
  single : SingleDashes text

theorem Plain.tail {c : Char} {text : Text} (plain : Plain (c :: text)) : Plain text where
  chars d member := plain.chars d (List.mem_cons_of_mem c member)
  single := (singleDashes_cons.mp plain.single).2

theorem scan_dash {rest : Text} (alone : rest.head? ≠ some '-') (word : Text) :
    scan word ('-' :: rest) = (scan [] rest).map fun tokens => flush word (.op .sub :: tokens) := by
  rw [scan]
  rintro after rfl
  exact alone rfl

/-- Tokens that are operands of the looser operators. -/
def Tight (tokens : List Token) : Prop := ∀ token ∈ tokens, ∀ op, token = .op op → op = .sub

theorem tight_flush {word : Text} {tokens : List Token} (tight : Tight tokens) : Tight (flush word tokens) := by
  rw [flush]
  split
  · exact tight
  · rintro token (_ | ⟨_, member⟩) op same
    · cases same
    · exact tight token member op same

theorem scan_plain {text : Text} (plain : Plain text) (word : Text) :
    ∃ front, Tight front ∧ scan word text = some front ∧
      ∀ rest, scan word (text ++ ' ' :: rest) = (tokens rest).map (front ++ ·) := by
  induction text generalizing word with
  | nil =>
      refine ⟨flush word [], tight_flush nofun, rfl, fun rest => ?_⟩
      rw [List.nil_append, scan]
      exact congrFun (congrArg Option.map (funext fun after => flush_append word [] after)) _
  | cons c text ih =>
      rcases plain.chars c List.mem_cons_self with wordChar | rfl
      · obtain ⟨front, tight, scanned, continued⟩ := ih plain.tail (word ++ [c])
        refine ⟨front, tight, ?_, fun after => ?_⟩
        · rw [scan_cons_of_wordChar wordChar, scanned]
        · rw [List.cons_append, scan_cons_of_wordChar wordChar, continued]
      · obtain ⟨front, tight, scanned, continued⟩ := ih plain.tail []
        have alone := (singleDashes_cons.mp plain.single).1 rfl
        refine ⟨flush word (.op .sub :: front), tight_flush ?_, ?_, fun after => ?_⟩
        · rintro token (_ | ⟨_, member⟩) op same
          · cases same
            rfl
          · exact tight token member op same
        · rw [scan_dash alone, scanned, Option.map_some]
        · have still : (text ++ ' ' :: after).head? ≠ some '-' := by
            cases text with
            | nil => simp
            | cons d text => exact alone
          rw [List.cons_append, scan_dash still, continued, Option.map_map]
          exact congrFun (congrArg Option.map (funext fun back => flush_append word (.op .sub :: front) back)) _

section Levels

variable {op : Op} {next : List Token → Option Expr} {tokens left right : List Token}

theorem level_of_absent (absent : .op op ∉ tokens) : level op next tokens = next tokens := by
  rw [level, splitOn_of_not_mem absent, List.mapM_cons, List.mapM_nil]
  cases next tokens <;> rfl

theorem level_pair (absent : .op op ∉ left) (absent' : .op op ∉ right) :
    level op next (left ++ .op op :: right) =
      (next left).bind fun a => (next right).map fun b => .binary op a b := by
  rw [level, List.splitOn_append_cons_self, splitOn_of_not_mem absent, splitOn_of_not_mem absent',
    List.singleton_append, List.mapM_cons, List.mapM_cons, List.mapM_nil]
  cases next left <;> cases next right <;> rfl

theorem sumFrom_operand {part : List Token} (some_token : part ≠ []) (before : Option Expr)
    (rest : List (List Token)) :
    sumFrom before 0 (part :: rest) = (term part).bind fun operand =>
      sumFrom (some (before.elim operand fun before => .binary .sub before operand)) 0 rest := by
  rw [sumFrom]
  · rfl
  · exact fun none _ => some_token none
  · exact some_token

theorem sum_of_absent (some_token : tokens ≠ []) (absent : .op .sub ∉ tokens) : sum tokens = term tokens := by
  rw [sum, splitOn_of_not_mem absent, sumFrom_operand some_token]
  cases term tokens <;> rfl

theorem Tight.absent (tight : Tight tokens) (loose : op ≠ .sub) : .op op ∉ tokens :=
  fun member => loose (tight _ member op rfl)

end Levels

section Plain

variable {a b : Text} {front : List Token}

/-- What a plain text is read as. -/
def parsed (a : Text) : Option Expr := (tokens a).bind sum

theorem expression_of_tight {tokens : List Token} (tight : Tight tokens) : expression tokens = sum tokens := by
  rw [expression, level_of_absent (tight.absent (by decide)), level_of_absent (tight.absent (by decide)),
    level_of_absent (tight.absent (by decide)), level_of_absent (tight.absent (by decide))]

theorem arith_plain (plain : Plain a) (env : Env) : arith env a = (parsed a).bind (eval env) := by
  obtain ⟨front, tight, scanned, -⟩ := scan_plain plain []
  rw [arith, parsed, tokens, scanned]
  exact congrArg (Option.bind · (eval env)) (expression_of_tight tight)

theorem tokens_equation (plain : Plain a) (plain' : Plain b) :
    ∃ left right, Tight left ∧ Tight right ∧ tokens a = some left ∧ tokens b = some right ∧
      tokens (a ++ " == ".toList ++ b) = some (left ++ .op .eq :: right) ∧
      ∀ rest, tokens (a ++ " == ".toList ++ b ++ ' ' :: rest) =
        (tokens rest).map (left ++ .op .eq :: right ++ ·) := by
  obtain ⟨left, tight, scanned, continued⟩ := scan_plain plain []
  obtain ⟨right, tight', scanned', continued'⟩ := scan_plain plain' []
  have middle : ∀ text, tokens ('=' :: '=' :: ' ' :: text) = (tokens text).map (.op .eq :: ·) := by
    intro text
    rw [tokens, scan, ← tokens, tokens_blank]
    rfl
  refine ⟨left, right, tight, tight', scanned, scanned', ?_, fun rest => ?_⟩
  · have split : a ++ " == ".toList ++ b = a ++ ' ' :: '=' :: '=' :: ' ' :: b := by simp
    rw [split, tokens, continued, middle, tokens, scanned']
    rfl
  · have split : a ++ " == ".toList ++ b ++ ' ' :: rest = a ++ ' ' :: '=' :: '=' :: ' ' :: (b ++ ' ' :: rest) := by
      simp
    rw [split, tokens, continued, middle, tokens, continued']
    simp [Option.map_map, Function.comp_def]

theorem absent_equation {op : Op} {left right : List Token} (tight : Tight left) (tight' : Tight right)
    (loose : op ≠ .sub) (other : op ≠ .eq) : .op op ∉ left ++ .op .eq :: right := by
  intro member
  rcases List.mem_append.mp member with inside | inside
  · exact tight.absent loose inside
  · rcases List.mem_cons.mp inside with same | inside
    · exact other (Token.op.inj same)
    · exact tight'.absent loose inside

theorem equation_eq {left right : List Token} (tight : Tight left) (tight' : Tight right) :
    level .bitOr (level .bitAnd (level .eq sum)) (left ++ .op .eq :: right) =
      (sum left).bind fun x => (sum right).map fun y => .binary .eq x y := by
  rw [level_of_absent (absent_equation tight tight' (by decide) (by decide)),
    level_of_absent (absent_equation tight tight' (by decide) (by decide)),
    level_pair (tight.absent (by decide)) (tight'.absent (by decide))]

theorem eval_equation (env : Env) (x y : Expr) :
    eval env (.binary .eq x y) = (eval env x).bind fun m => (eval env y).map fun n => ofBool (m = n) := by
  rw [eval]
  cases eval env x with
  | none => rfl
  | some m => cases eval env y <;> simp [apply]

theorem arith_equation (plain : Plain a) (plain' : Plain b) (env : Env) :
    arith env (a ++ " == ".toList ++ b ++ [' ']) =
      (arith env a).bind fun m => (arith env b).map fun n => ofBool (m = n) := by
  obtain ⟨left, right, tight, tight', scanned, scanned', -, continued⟩ := tokens_equation plain plain'
  have joined : tokens (a ++ " == ".toList ++ b ++ [' ']) = some (left ++ .op .eq :: right) := by
    rw [continued, tokens, scan, Option.map_some, flush, if_pos rfl, List.append_nil]
  rw [arith_plain plain, arith_plain plain', parsed, parsed, scanned, scanned', arith, joined]
  change (expression (left ++ .op .eq :: right)).bind (eval env) =
    ((sum left).bind (eval env)).bind fun m => ((sum right).bind (eval env)).map fun n => ofBool (m = n)
  rw [expression, level_of_absent (absent_equation tight tight' (by decide) (by decide)),
    equation_eq tight tight']
  cases sum left with
  | none => rfl
  | some x =>
      cases sum right with
      | none => simp
      | some y => exact eval_equation env x y

@[simp] theorem ofBool_ne_zero {p : Bool} : ofBool p ≠ 0 ↔ p = true := by
  cases p <;> decide

theorem eval_or_equations (env : Env) (x y z : Expr) :
    eval env (.binary .or (.binary .eq x y) (.binary .eq x z)) =
      (eval env x).bind fun m => (eval env y).bind fun n =>
        if m = n then some 1 else (eval env z).map fun k => ofBool (m = k) := by
  rw [eval, eval_equation, eval_equation]
  cases eval env x with
  | none => rfl
  | some m =>
      cases eval env y with
      | none => rfl
      | some n =>
          by_cases same : m = n
          · simp [same, ofBool]
          · cases eval env z with
            | none => simp [same, ofBool]
            | some k => simp [same, apply, ofBool]

theorem arith_or_equations {c : Text} (plain : Plain a) (plain' : Plain b) (plain'' : Plain c)
    (known : (parsed c).isSome = true) (env : Env) :
    arith env (a ++ " == ".toList ++ b ++ " || ".toList ++ (a ++ " == ".toList ++ c)) =
      (arith env a).bind fun m => (arith env b).bind fun n =>
        if m = n then some 1 else (arith env c).map fun k => ofBool (m = k) := by
  obtain ⟨left, right, tight, tight', scanned, scanned', -, continued⟩ := tokens_equation plain plain'
  obtain ⟨left', third, -, tight'', again, scanned'', joined, -⟩ := tokens_equation plain plain''
  cases scanned.symm.trans again
  have split : a ++ " == ".toList ++ b ++ " || ".toList ++ (a ++ " == ".toList ++ c) =
      a ++ " == ".toList ++ b ++ ' ' :: '|' :: '|' :: ' ' :: (a ++ " == ".toList ++ c) := by simp
  have later : tokens ('|' :: '|' :: ' ' :: (a ++ " == ".toList ++ c)) =
      some (.op .or :: (left ++ .op .eq :: third)) := by
    rw [tokens, scan, ← tokens, tokens_blank, joined]
    rfl
  obtain ⟨z, read⟩ := Option.isSome_iff_exists.mp known
  rw [parsed, scanned''] at read
  rw [arith_plain plain, arith_plain plain', arith_plain plain'', parsed, parsed, parsed, scanned, scanned',
    scanned'', arith, split, continued, later]
  change (expression (left ++ .op .eq :: right ++ .op .or :: (left ++ .op .eq :: third))).bind (eval env) =
    ((sum left).bind (eval env)).bind fun m => ((sum right).bind (eval env)).bind fun n =>
      if m = n then some 1 else ((sum third).bind (eval env)).map fun k => ofBool (m = k)
  rw [expression, level_pair (absent_equation tight tight' (by decide) (by decide))
    (absent_equation tight tight'' (by decide) (by decide)), equation_eq tight tight', equation_eq tight tight'']
  have third_eq : sum third = some z := read
  rw [third_eq]
  cases sum left with
  | none => rfl
  | some x =>
      cases sum right with
      | none => simp
      | some y => exact eval_or_equations env x y z

end Plain

/-- The name of a variable. -/
structure IsName (x : Text) : Prop where
  nonempty : x ≠ []
  wordChars : ∀ c ∈ x, isWordChar c = true
  letter : x.head?.any Char.isDigit = false

/-- The number that the difference of two variables amounts to. -/
def Env.difference (env : Env) (x y : Text) : Option (BitVec 64) :=
  (env.value x).bind fun m => (env.value y).map fun n => m - n

section Differences

variable {x y : Text}

theorem term_name (name : IsName x) : term [.word x] = some (.name x) := by
  rw [term, level_of_absent (by simp), primary, name.letter]
  rfl

theorem IsName.dash_not_mem (name : IsName x) : '-' ∉ x :=
  fun member => absurd (name.wordChars _ member) (by decide)

theorem IsName.head_ne_dash (name : IsName x) : x.head? ≠ some '-' :=
  fun head => name.dash_not_mem (List.mem_of_head? head)

theorem IsName.plain (name : IsName x) (name' : IsName y) : Plain (x ++ '-' :: y) where
  chars := by
    intro c member
    rcases List.mem_append.mp member with inside | inside
    · exact .inl (name.wordChars c inside)
    · rcases List.mem_cons.mp inside with same | inside
      · exact .inr same
      · exact .inl (name'.wordChars c inside)
  single := by
    have last : SingleDashes y := List.append_nil y ▸ singleDashes_append name'.dash_not_mem .nil
    exact singleDashes_append name.dash_not_mem (singleDashes_cons.mpr ⟨fun _ => name'.head_ne_dash, last⟩)

theorem tokens_difference (name : IsName x) (name' : IsName y) :
    tokens (x ++ '-' :: y) = some [.word x, .op .sub, .word y] := by
  rw [tokens, scan_wordChars name.wordChars, List.nil_append, scan_dash name'.head_ne_dash, ← tokens,
    tokens_word name'.nonempty name'.wordChars, Option.map_some, flush, if_neg name.nonempty]

theorem sumFrom_word (name : IsName x) (left : Option Expr) (rest : List (List Token)) :
    sumFrom left 0 ([.word x] :: rest) =
      sumFrom (some (left.elim (.name x) fun left => .binary .sub left (.name x))) 0 rest := by
  rw [sumFrom_operand (List.cons_ne_nil _ _), term_name name]
  rfl

theorem sum_difference (name : IsName x) (name' : IsName y) :
    sum [.word x, .op .sub, .word y] = some (.binary .sub (.name x) (.name y)) := by
  have parts : [Token.word x, .op .sub, .word y].splitOn (.op .sub) = [[.word x], [.word y]] := rfl
  rw [sum, parts, sumFrom_word name, sumFrom_word name', sumFrom]
  rfl

theorem arith_difference (name : IsName x) (name' : IsName y) (env : Env) :
    arith env (x ++ '-' :: y) = env.difference x y := by
  rw [arith_plain (name.plain name'), parsed, tokens_difference name name', Option.bind_some, sum_difference name name',
    Option.bind_some, eval, eval, eval, Env.difference]
  cases env.value x with
  | none => rfl
  | some m => cases env.value y <;> rfl

end Differences

/-- A word that is a constant, with its value. -/
structure Constant (w : Text) (value : BitVec 64) : Prop where
  wordChars : ∀ c ∈ w, isWordChar c = true
  digit : w.head?.any Char.isDigit = true
  reads : constant w = some value

section Constants

variable {v w : Text} {m n : BitVec 64}

theorem Constant.nonempty (number : Constant w n) : w ≠ [] := by
  rintro rfl
  cases number.digit

theorem Constant.primary_eq (number : Constant w n) : primary [.word w] = some (.number n) := by
  rw [primary, if_pos number.digit, number.reads]
  rfl

@[simp] theorem level_word {op : Op} {next : List Token → Option Expr} :
    level op next [.word w] = next [.word w] := level_of_absent (by simp)

@[simp] theorem sum_word : sum [.word w] = primary [.word w] := by
  rw [sum_of_absent (List.cons_ne_nil _ _) (by simp), term, level_word]

theorem level_three {op other : Op} {next : List Token → Option Expr} :
    level op next [.word v, .op other, .word w] =
      if other = op then (next [.word v]).bind fun a => (next [.word w]).map fun b => .binary op a b
      else next [.word v, .op other, .word w] := by
  split
  · next same =>
      rw [same, ← List.singleton_append, level_pair (by simp) (by simp)]
  · next differ => exact level_of_absent (by simpa using Ne.symm differ)

theorem expression_three {op : Op} (notSub : op ≠ .sub) :
    expression [.word v, .op op, .word w] =
      (primary [.word v]).bind fun a => (primary [.word w]).map fun b => .binary op a b := by
  have terms : sum [.word v, .op op, .word w] = term [.word v, .op op, .word w] :=
    sum_of_absent (List.cons_ne_nil _ _) (by simpa using Ne.symm notSub)
  rw [expression]
  simp only [level_three, level_word, sum_word, terms, term]
  cases op <;> simp at notSub ⊢

theorem arith_operation {op : Op} {text : Text} (left : Constant v m) (right : Constant w n)
    (read : tokens text = some [.word v, .op op, .word w]) (notSub : op ≠ .sub) (notOr : op ≠ .or) (env : Env) :
    arith env text = apply m n op := by
  rw [arith, read]
  change (expression [.word v, .op op, .word w]).bind (eval env) = _
  rw [expression_three notSub, left.primary_eq, right.primary_eq]
  simp [eval, notOr]

theorem Constant.tokens_append (number : Constant w n) (rest : Text) :
    tokens (w ++ ' ' :: rest) = (tokens rest).map (.word w :: ·) := by
  rw [tokens, scan_wordChars number.wordChars, List.nil_append, scan]
  refine congrFun (congrArg Option.map (funext fun later => ?_)) _
  rw [flush, if_neg number.nonempty]

theorem tokens_nil : tokens [] = some [] := rfl

theorem arith_bitAnd (left : Constant v m) (right : Constant w n) (env : Env) :
    arith env (' ' :: (v ++ ' ' :: '&' :: ' ' :: (w ++ [' ']))) = some (m &&& n) := by
  have read : tokens (' ' :: (v ++ ' ' :: '&' :: ' ' :: (w ++ [' ']))) = some [.word v, .op .bitAnd, .word w] := by
    rw [tokens_blank, left.tokens_append, tokens, scan, ← tokens, tokens_blank, right.tokens_append, tokens_nil]
    rfl
  exact arith_operation left right read (by decide) (by decide) env

theorem arith_bitOr (left : Constant v m) (right : Constant w n) (env : Env) :
    arith env (' ' :: (v ++ ' ' :: '|' :: ' ' :: (w ++ [' ']))) = some (m ||| n) := by
  have read : tokens (' ' :: (v ++ ' ' :: '|' :: ' ' :: (w ++ [' ']))) = some [.word v, .op .bitOr, .word w] := by
    rw [tokens_blank, left.tokens_append, tokens, scan, ← tokens, tokens_blank, right.tokens_append, tokens_nil]
    · rfl
    · simp
  exact arith_operation left right read (by decide) (by decide) env

theorem arith_div (left : Constant v m) (right : Constant w n) (nonzero : n ≠ 0) (env : Env) :
    arith env (v ++ '/' :: w) = some (m.sdiv n) := by
  have read : tokens (v ++ '/' :: w) = some [.word v, .op .div, .word w] := by
    rw [tokens, scan_wordChars left.wordChars, List.nil_append, scan, ← tokens,
      tokens_word right.nonempty right.wordChars, Option.map_some, flush, if_neg left.nonempty]
  rw [arith_operation left right read (by decide) (by decide) env, apply, if_neg nonzero]

end Constants

theorem isWordChar_digitChar {digit : Nat} (hex : digit < 16) : isWordChar digit.digitChar = true := by
  revert digit
  decide

theorem constant_hex (n : Nat) : Constant ('0' :: 'x' :: Nat.toDigits 16 n) (BitVec.ofNat 64 n) where
  wordChars := by
    intro c member
    rcases List.mem_cons.mp member with rfl | member
    · decide
    · rcases List.mem_cons.mp member with rfl | member
      · decide
      · obtain ⟨digit, hex, rfl⟩ := exists_digitChar_of_mem_toDigits (by decide) member
        exact isWordChar_digitChar hex
  digit := rfl
  reads := by
    rw [constant, readRadix_toDigits (by decide) (by decide) (by decide), Nat.ofDigits_digits]
    rfl

theorem constant_decimal (n : Nat) : Constant (decimal n) (BitVec.ofNat 64 n) where
  wordChars := by
    intro c member
    rw [isWordChar, Char.isAlphanum, isDigit_of_mem_decimal member, Bool.or_true]
    rfl
  digit := by
    obtain ⟨c, rest, shape⟩ := List.exists_cons_of_ne_nil (decimal_ne_nil n)
    rw [shape, List.head?_cons, Option.any_some]
    have member : c ∈ decimal n := by
      rw [shape]
      exact List.mem_cons_self
    exact isDigit_of_mem_decimal member
  reads := by
    rcases Nat.eq_zero_or_pos n with rfl | pos
    · decide
    · have reads := readRadix_decimal n
      obtain ⟨c, rest, shape⟩ := List.exists_cons_of_ne_nil (decimal_ne_nil n)
      have head : c ≠ '0' := by
        rintro rfl
        exact head?_toDigits_ne_zero (by decide) (by decide) pos (congrArg List.head? shape)
      rw [shape] at reads ⊢
      rw [constant, reads]
      · rfl
      · exact fun _ same => head (List.cons.inj same).1
      · exact fun same => head (List.cons.inj same).1
      · exact fun _ same => head (List.cons.inj same).1

end KvmWorkload.ShellArith
