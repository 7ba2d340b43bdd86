import LiveLine.Shell.Arithmetic
import LiveLine.Shell.Lines

/-!
# Calculations with words

The expressions of `expr`, where each operand and each operator is a word. Values are texts; those
that are integers are calculated with.
-/

namespace LiveLine.Shell

/-- What two values are combined by. -/
inductive Combination where
  | or
  | and
  | less
  | atMost
  | equal
  | unequal
  | atLeast
  | greater
  | plus
  | minus
  | times
  | quotient
  | remainder
  /-- What an expression matches at the start of a text. -/
  | matching
  deriving DecidableEq, Repr

inductive Calculation where
  | value (t : Text)
  | combine (c : Combination) (a b : Calculation)
  | length (a : Calculation)
  /-- The place of the first character that is one of some others. -/
  | index (a b : Calculation)
  /-- A part of a text, from a position on. -/
  | part (a position size : Calculation)
  deriving Repr

namespace Calculation

/-- Why a calculation has no value. -/
inductive Fault where
  | missingArgument
  | unexpectedArgument
  | unexpectedClosing
  | missingClosing
  | notInteger
  | divisionByZero
  | expression (f : Regex.Fault)
  deriving DecidableEq, Repr

/-! ## Values -/

/-- The integer that a text spells. -/
def integer? (t : Text) : Option Int :=
  match t with
  | '-' :: r => (Text.numeral? r).map fun n => -Int.ofNat n
  | r => (Text.numeral? r).map Int.ofNat

/-- Whether a value counts as false. -/
def isNull (t : Text) : Bool := t.isEmpty || integer? t = some 0

def truth (p : Bool) : Text := if p then ['1'] else ['0']

/-- Compares two values, as integers if both are. -/
def compare (p : Int → Int → Bool) (q : Text → Text → Bool) (a b : Text) : Text :=
  match integer? a, integer? b with
  | some x, some y => truth (p x y)
  | _, _ => truth (q a b)

def compute (f : Int → Int → Except Fault Int) (a b : Text) : Except Fault Text :=
  match integer? a, integer? b with
  | some x, some y => (f x y).map Arithmetic.numeral
  | _, _ => .error .notInteger

/-- What an expression matches at the start of a text: what its first group matched, or the length
of the match if it has no group. -/
def matchAtStart (t expression : Text) : Except Fault Text :=
  match Regex.read false expression with
  | .error f => .error (.expression f)
  | .ok (x, groups) =>
    match x.longest? (fun _ _ => true) { rest := t } with
    | some q =>
      .ok (if groups = 0 then Text.ofNat q.position else (q.groups.lookup 1).getD [])
    | none => .ok (if groups = 0 then ['0'] else [])

def Combination.apply (c : Combination) (a b : Text) : Except Fault Text :=
  let divide (f : Int → Int → Int) : Except Fault Text :=
    compute (fun x y => if y = 0 then .error .divisionByZero else .ok (f x y)) a b
  match c with
  | .or => .ok (if !isNull a then a else if isNull b then ['0'] else b)
  | .and => .ok (if isNull a || isNull b then ['0'] else a)
  | .less => .ok (compare (· < ·) (fun a b => !Text.notAfter b a) a b)
  | .atMost => .ok (compare (· ≤ ·) Text.notAfter a b)
  | .equal => .ok (compare (· = ·) (· = ·) a b)
  | .unequal => .ok (compare (· ≠ ·) (· ≠ ·) a b)
  | .atLeast => .ok (compare (· ≥ ·) (fun a b => Text.notAfter b a) a b)
  | .greater => .ok (compare (· > ·) (fun a b => !Text.notAfter a b) a b)
  | .plus => compute (fun x y => .ok (x + y)) a b
  | .minus => compute (fun x y => .ok (x - y)) a b
  | .times => compute (fun x y => .ok (x * y)) a b
  | .quotient => divide Int.tdiv
  | .remainder => divide Int.tmod
  | .matching => matchAtStart a b

/-- The value of a calculation. What cannot change it is not looked at. -/
def evaluate : Calculation → Except Fault Text
  | value t => .ok t
  | combine c a b => do
    let x ← a.evaluate
    if c = .or && !isNull x then return x
    if c = .and && isNull x then return ['0']
    Combination.apply c x (← b.evaluate)
  | length a => return Text.ofNat (← a.evaluate).length
  | index a b => do
    let x ← a.evaluate
    let y ← b.evaluate
    return Text.ofNat (((x.findIdx? fun c => y.contains c).map (· + 1)).getD 0)
  | part a position size => do
    let x ← a.evaluate
    let p := (integer? (← position.evaluate)).getD 0
    let n := (integer? (← size.evaluate)).getD 0
    return if p ≤ 0 then [] else (x.drop (p.toNat - 1)).take n.toNat

/-! ## Reading -/

/-- The operators, those that bind least first. -/
def levels : List (List (String × Combination)) :=
  [[("|", .or)], [("&", .and)],
    [("<", .less), ("<=", .atMost), ("=", .equal), ("==", .equal), ("!=", .unequal),
      (">=", .atLeast), (">", .greater)],
    [("+", .plus), ("-", .minus)], [("*", .times), ("/", .quotient), ("%", .remainder)],
    [(":", .matching)]]

/-- What is read, in which order: an operand of a level, or the rest of a level after the first
operand. -/
inductive Goal where
  | level (n : Nat)
  | after (n : Nat) (a : Calculation)

/-- Reads a part of an expression and gives what follows it. A fault comes with the words that are
left where it is found. -/
def readPart : Nat → Goal → List Text → Except (Fault × List Text) (Calculation × List Text)
  | 0, _, ws => .error (.missingArgument, ws)
  | limit + 1, .after n a, ws => do
    match ws with
    | [] => return (a, [])
    | w :: rest =>
      match (levels.getD n []).lookup (String.ofList w) with
      | none => return (a, w :: rest)
      | some c =>
        let (b, rest) ← readPart limit (.level (n + 1)) rest
        readPart limit (.after n (.combine c a b)) rest
  | limit + 1, .level n, ws => do
    let operand (ws : List Text) : Except (Fault × List Text) (Calculation × List Text) :=
      readPart limit (.level levels.length) ws
    if n < levels.length then
      let (a, rest) ← readPart limit (.level (n + 1)) ws
      readPart limit (.after n a) rest
    else match ws with
      | [] => throw (.missingArgument, [])
      | w :: rest =>
        match String.ofList w with
        | "+" => match rest with
          | [] => throw (.missingArgument, [])
          | t :: rest => return (.value t, rest)
        | "length" =>
          let (a, rest) ← operand rest
          return (.length a, rest)
        | "match" =>
          let (a, rest) ← operand rest
          let (b, rest) ← operand rest
          return (.combine .matching a b, rest)
        | "index" =>
          let (a, rest) ← operand rest
          let (b, rest) ← operand rest
          return (.index a b, rest)
        | "substr" =>
          let (a, rest) ← operand rest
          let (p, rest) ← operand rest
          let (s, rest) ← operand rest
          return (.part a p s, rest)
        | "(" =>
          let (a, rest) ← readPart limit (.level 0) rest
          match rest with
          | [')'] :: rest => return (a, rest)
          | rest => throw (.missingClosing, rest)
        | ")" => throw (.unexpectedClosing, rest)
        | _ => return (.value w, rest)

/-- Reads a whole expression. -/
def read (ws : List Text) : Except (Fault × List Text) Calculation := do
  match ← readPart ((levels.length + 2) * (ws.length + 2)) (.level 0) ws with
  | (a, []) => return a
  | (_, rest) => throw (.unexpectedArgument, rest)

/-- What is said about a fault. `words` are those of the expression and `rest` those that are left
where it is found. -/
def Fault.message (words rest : List Text) (f : Fault) : Text :=
  let quoted (t : Text) : Text := '\'' :: t ++ ['\'']
  let lastWord := quoted (words.getLast?.getD [])
  let nextWord := quoted (rest.headD [])
  match f with
  | missingArgument => "syntax error: missing argument after ".toList ++ lastWord
  | unexpectedArgument => "syntax error: unexpected argument ".toList ++ nextWord
  | unexpectedClosing => "syntax error: unexpected ')'".toList
  | missingClosing =>
    if rest.isEmpty then "syntax error: expecting ')' after ".toList ++ lastWord
    else "syntax error: expecting ')' instead of ".toList ++ nextWord
  | notInteger => "non-integer argument".toList
  | divisionByZero => "division by zero".toList
  | expression f => f.description

/-- The value of an expression, or a message. -/
def valueOf (words : List Text) : Except Text Text :=
  match read words with
  | .error (f, rest) => .error (f.message words rest)
  | .ok c => match c.evaluate with
    | .ok t => .ok t
    | .error f => .error (f.message words [])

end Calculation

end LiveLine.Shell
