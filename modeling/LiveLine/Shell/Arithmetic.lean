import LiveLine.Shell.Reader.Word

/-!
# Arithmetic in shell scripts

Expressions over words of 64 bits, with the usual precedence. Names stand for the values of
variables and may be assigned to. What a choice leaves out is read but not computed.
-/

namespace LiveLine.Shell.Arithmetic

/-- Why an expression has no value. -/
inductive Fault where
  | expects (what : String)
  | divisionByZero
  /-- A quotient that is no word. -/
  | trap
  /-- The value of a variable that is no number. -/
  | illegal (t : Text)
  deriving DecidableEq, Repr

inductive Token where
  | number (n : Int64)
  | name (t : Text)
  | operator (sign : String)
  | unknown
  deriving DecidableEq, Repr

/-- The operators of two operands, from the loosest level to the tightest. -/
def levels : List (List String) :=
  [["|"], ["^"], ["&"], ["==", "!="], ["<=", ">=", "<", ">"], ["<<", ">>"], ["+", "-"],
    ["*", "/", "%"]]

/-- All signs; of two that begin alike the longer comes first. -/
def signs : List String :=
  ["<<=", ">>=", "<<", ">>", "<=", ">=", "==", "!=", "&&", "||", "+=", "-=", "*=", "/=", "%=",
    "&=", "|=", "^=", "=", "<", ">", "&", "|", "^", "+", "-", "*", "/", "%", "!", "~", "(", ")",
    "?", ":"]

/-- The operator that an assignment applies first, if the sign is one of an assignment. -/
def assigning? (sign : String) : Option (Option String) :=
  if sign = "=" then some none
  else if ["<<=", ">>=", "+=", "-=", "*=", "/=", "%=", "&=", "|=", "^="].contains sign then
    some (some (String.ofList sign.toList.dropLast))
  else none

def skipSpace (s : Text) : Text := s.dropWhile fun c => c = ' ' || c = '\t' || c = '\n'

/-- The value of a digit in a base up to sixteen. -/
def digit? (base : Nat) (c : Char) : Option Nat :=
  let n :=
    if c.isDigit then c.toNat - '0'.toNat
    else if 'a' ≤ c.toLower && c.toLower ≤ 'f' then c.toLower.toNat - 'a'.toNat + 10
    else base
  if n < base then some n else none

/-- The number that the digits at the start make in a base, and what follows. -/
def digitsFrom (base acc : Nat) : Text → Nat × Text
  | [] => (acc, [])
  | c :: r =>
    match digit? base c with
    | some d => digitsFrom base (acc * base + d) r
    | none => (acc, c :: r)

/-- The number at the start of a text, and what follows: hexadecimal after `0x`, octal after `0`,
and decimal otherwise. -/
def numeral? : Text → Option (Nat × Text)
  | '0' :: x :: c :: r =>
    if (x = 'x' || x = 'X') && (digit? 16 c).isSome then some (digitsFrom 16 0 (c :: r))
    else some (digitsFrom 8 0 (x :: c :: r))
  | '0' :: r => some (digitsFrom 8 0 r)
  | c :: r => if c.isDigit then some (digitsFrom 10 0 (c :: r)) else none
  | [] => none

/-- The number at the start of a text after blanks and a sign, and what follows; zero and the whole
text if there is none. -/
def signed (t : Text) : Int × Text :=
  match skipSpace t with
  | '-' :: r => ((numeral? r).map fun (n, r) => (-Int.ofNat n, r)).getD (0, t)
  | '+' :: r => ((numeral? r).map fun (n, r) => (Int.ofNat n, r)).getD (0, t)
  | r => ((numeral? r).map fun (n, r) => (Int.ofNat n, r)).getD (0, t)

def isWord (n : Int) : Bool := Int64.minValue.toInt ≤ n && n ≤ Int64.maxValue.toInt

/-- The word nearest to a number. -/
def nearestWord (n : Int) : Int64 :=
  if isWord n then Int64.ofInt n else if n < 0 then Int64.minValue else Int64.maxValue

/-- The tokens of an expression, up to one that is unknown. -/
def tokensWithin : Nat → Text → List Token
  | 0, _ => []
  | limit + 1, s =>
    match skipSpace s with
    | [] => []
    | c :: r =>
      match numeral? (c :: r) with
      | some (n, rest) => .number (nearestWord (Int.ofNat n)) :: tokensWithin limit rest
      | none =>
        if isNameStart c then
          .name ((c :: r).takeWhile isNameChar) ::
            tokensWithin limit ((c :: r).dropWhile isNameChar)
        else
          match signs.findSome? fun sign =>
              (Text.dropLead? sign.toList (c :: r)).map (sign, ·) with
          | some (sign, rest) => .operator sign :: tokensWithin limit rest
          | none => [.unknown]

def tokens (s : Text) : List Token := tokensWithin (s.length + 1) s

/-- The value of a text as a variable has it; an empty one is zero. -/
def ofVariable (t : Text) : Except Fault Int64 :=
  let (n, rest) := signed t
  if isWord n && (skipSpace rest).isEmpty then .ok (Int64.ofInt n) else .error (.illegal t)

def ofBool (b : Bool) : Int64 := if b then 1 else 0

/-- The value of an operator of two operands. -/
def combine (sign : String) (a b : Int64) : Except Fault Int64 :=
  match sign with
  | "|" => .ok (a ||| b)
  | "^" => .ok (a ^^^ b)
  | "&" => .ok (a &&& b)
  | "==" => .ok (ofBool (a = b))
  | "!=" => .ok (ofBool (a ≠ b))
  | "<=" => .ok (ofBool (a ≤ b))
  | ">=" => .ok (ofBool (b ≤ a))
  | "<" => .ok (ofBool (a < b))
  | ">" => .ok (ofBool (b < a))
  | "<<" => .ok (a <<< b)
  | ">>" => .ok (a >>> b)
  | "+" => .ok (a + b)
  | "-" => .ok (a - b)
  | "*" => .ok (a * b)
  | _ =>
    if b = 0 then .error .divisionByZero
    else if b = -1 && a = Int64.minValue then .error .trap
    else .ok (if sign = "/" then a / b else a % b)

/-- An integer in decimal. -/
def numeral (n : Int) : Text :=
  if n < 0 then '-' :: Text.ofNat n.natAbs else Text.ofNat n.natAbs

/-- What is left of an expression, and what it has assigned so far, the last first. -/
structure Progress where
  rest : List Token
  assigned : List (Text × Int64) := []

abbrev Calculation := StateT Progress (Except Fault)

/-- Takes a sign if it comes next. -/
def takes (sign : String) : Calculation Bool := do
  match (← get).rest with
  | .operator s :: rest =>
    if s = sign then
      modify fun p => { p with rest }
      return true
    else return false
  | _ => return false

/-- The value of a name: what was assigned to it, or else the variable. -/
def lookUp (look : Text → Except Fault Int64) (x : Text) : Calculation Int64 := do
  match (← get).assigned.lookup x with
  | some n => return n
  | none => fun p => (look x).map (·, p)

mutual

/-- An expression that may assign. If it is not `live`, only its form counts. -/
def assignment (look : Text → Except Fault Int64) : Nat → Bool → Calculation Int64
  | 0, _ => throw (.expects "primary")
  | limit + 1, live => do
    match (← get).rest with
    | .name x :: .operator sign :: rest =>
      match assigning? sign with
      | none => choice look limit live
      | some change =>
        modify fun p => { p with rest }
        let n ← assignment look limit live
        if !live then return n
        let m ← match change with
          | none => pure n
          | some sign => do
            let old ← lookUp look x
            fun p => (combine sign old n).map (·, p)
        modify fun p => { p with assigned := (x, m) :: p.assigned }
        return m
    | _ => choice look limit live

/-- A condition and two expressions of which one is chosen. -/
def choice (look : Text → Except Fault Int64) : Nat → Bool → Calculation Int64
  | 0, _ => throw (.expects "primary")
  | limit + 1, live => do
    let a ← either look limit live
    if ← takes "?" then
      let b ← assignment look limit (live && a ≠ 0)
      if !(← takes ":") then throw (.expects "':'")
      let c ← choice look limit (live && a = 0)
      return if a ≠ 0 then b else c
    else return a

def either (look : Text → Except Fault Int64) : Nat → Bool → Calculation Int64
  | 0, _ => throw (.expects "primary")
  | limit + 1, live => do
    let a ← both look limit live
    if ← takes "||" then
      let b ← either look limit (live && a = 0)
      return ofBool (a ≠ 0 || b ≠ 0)
    else return a

def both (look : Text → Except Fault Int64) : Nat → Bool → Calculation Int64
  | 0, _ => throw (.expects "primary")
  | limit + 1, live => do
    let a ← level look limit live levels
    if ← takes "&&" then
      let b ← both look limit (live && a ≠ 0)
      return ofBool (a ≠ 0 && b ≠ 0)
    else return a

/-- Operators of two operands from a level on. -/
def level (look : Text → Except Fault Int64) :
    Nat → Bool → List (List String) → Calculation Int64
  | 0, _, _ => throw (.expects "primary")
  | limit + 1, live, [] => primary look limit live
  | limit + 1, live, ops :: tighter => do
    let a ← level look limit live tighter
    more look limit live ops tighter a

/-- Goes on after an operand of a level. -/
def more (look : Text → Except Fault Int64) :
    Nat → Bool → List String → List (List String) → Int64 → Calculation Int64
  | 0, _, _, _, _ => throw (.expects "primary")
  | limit + 1, live, ops, tighter, a => do
    match (← get).rest with
    | .operator sign :: rest =>
      if !ops.contains sign then return a
      modify fun p => { p with rest }
      let b ← level look limit live tighter
      let n ← if live then fun p => (combine sign a b).map (·, p) else pure b
      more look limit live ops tighter n
    | _ => return a

/-- An operand. -/
def primary (look : Text → Except Fault Int64) : Nat → Bool → Calculation Int64
  | 0, _ => throw (.expects "primary")
  | limit + 1, live => do
    let p ← get
    match p.rest with
    | .number n :: rest =>
      set { p with rest }
      return n
    | .name x :: rest =>
      set { p with rest }
      if live then lookUp look x else return 0
    | .operator "(" :: rest =>
      set { p with rest }
      let n ← assignment look limit live
      if !(← takes ")") then throw (.expects "')'")
      return n
    | .operator "+" :: rest =>
      set { p with rest }
      primary look limit live
    | .operator "-" :: rest =>
      set { p with rest }
      return -(← primary look limit live)
    | .operator "!" :: rest =>
      set { p with rest }
      return ofBool ((← primary look limit live) = 0)
    | .operator "~" :: rest =>
      set { p with rest }
      return ~~~(← primary look limit live)
    | _ => throw (.expects "primary")

end

/-- The value of a whole expression and what it assigns, the last first. -/
def evaluate (look : Text → Except Fault Int64) (s : Text) :
    Except Fault (Int64 × List (Text × Int64)) := do
  let ts := tokens s
  let (n, p) ← (assignment look (16 * (ts.length + 2)) true).run { rest := ts }
  if p.rest.isEmpty then return (n, p.assigned) else throw (.expects "EOF")

end LiveLine.Shell.Arithmetic
