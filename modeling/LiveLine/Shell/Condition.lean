import LiveLine.Shell.Arithmetic
import LiveLine.Shell.Lines
import LiveLine.Shell.Program.Operands

/-!
# Conditions of `test`

A condition is read from a row of words. The reader stands on a word and leaves the place where it
stopped, whose word an error names.
-/

namespace LiveLine.Shell

namespace Condition

/-- What a word can be in a condition. -/
inductive Role where
  /-- Asks something of the word after it. -/
  | unary
  /-- Compares the words around it. -/
  | binary
  | negation
  | both
  | either
  | opening
  | closing
  | operand
  deriving DecidableEq, Repr

/-- The operators with one operand. -/
def unaryNames : List String :=
  ["-r", "-w", "-x", "-e", "-f", "-d", "-c", "-b", "-p", "-u", "-g", "-k", "-s", "-t", "-z", "-n",
    "-h", "-O", "-G", "-L", "-S"]

/-- The operators with two operands. -/
def binaryNames : List String :=
  ["=", "!=", "<", ">", "-eq", "-ne", "-ge", "-gt", "-le", "-lt", "-nt", "-ot", "-ef"]

/-- What a word is by itself. -/
def Role.ofWord (w : Text) : Role :=
  let w := String.ofList w
  if unaryNames.contains w then unary
  else if binaryNames.contains w then binary
  else match w with
    | "!" => negation
    | "-a" => both
    | "-o" => either
    | "(" => opening
    | ")" => closing
    | _ => operand

/-- What the first of some words is; nothing where there is none. An operator that lacks what it
applies to is an operand. -/
def role? : List Text → Option Role
  | [] => none
  | w :: rest =>
    let r := Role.ofWord w
    let lacking : Bool := match rest with
      | [] => true
      | [_] => false
      | op :: _ => Role.ofWord op = .binary
    some (if (r = .unary && lacking) || (r = .opening && rest.isEmpty) then .operand else r)

/-- The value of an operator with one operand. -/
def unaryValue (s : State) (op t : Text) : Bool :=
  let node := s.node? t
  match String.ofList op with
  | "-n" => !t.isEmpty
  | "-z" => t.isEmpty
  | "-e" | "-r" | "-w" | "-O" | "-G" => node.isSome
  | "-f" => node.any fun n => !n.isDirectory
  | "-d" => node.any FileNode.isDirectory
  | "-x" => node.any fun n => n.isDirectory || n.isExecutable
  | "-s" => match node with
    | some (.file content _) => !content.isEmpty
    | some .directory => true
    | none => false
  | _ => false

/-- An integer operand, with blanks around it. -/
def integer (t : Text) : Except Text Int :=
  let bare := Text.dropTailWhile isSeparator (t.dropWhile isSeparator)
  let bare := match bare with
    | '+' :: r => r
    | r => r
  if isInteger bare && Arithmetic.isWord (leadingNumber bare) then .ok (leadingNumber bare)
  else .error ("Illegal number: ".toList ++ t)

/-- The value of an operator with two operands. -/
def binaryValue (s : State) (a op b : Text) : Except Text Bool :=
  let compare (f : Int → Int → Bool) : Except Text Bool := do return f (← integer a) (← integer b)
  match String.ofList op with
  | "=" => .ok (a = b)
  | "!=" => .ok (a ≠ b)
  | "<" => .ok (a < b)
  | ">" => .ok (b < a)
  | "-eq" => compare fun x y => x = y
  | "-ne" => compare fun x y => x ≠ y
  | "-lt" => compare fun x y => x < y
  | "-le" => compare fun x y => x ≤ y
  | "-gt" => compare fun x y => x > y
  | "-ge" => compare fun x y => x ≥ y
  | "-ef" => .ok ((s.place? a).toOption.isSome && (s.place? a).toOption = (s.place? b).toOption)
  | _ => .ok false

mutual

/-- Reads alternatives, of which the first word has a role. -/
def anyOf (s : State) : Nat → Option Role → List Text → Except Text (Bool × List Text)
  | 0, _, w => .ok (false, w)
  | limit + 1, role, w => do
    let (x, w) ← allOf s limit role w
    if role? w.tail = some .either then
      let w := w.drop 2
      let (y, w) ← anyOf s limit (role? w) w
      return (x || y, w)
    else return (x, w)

/-- Reads conditions that have to hold together. -/
def allOf (s : State) : Nat → Option Role → List Text → Except Text (Bool × List Text)
  | 0, _, w => .ok (false, w)
  | limit + 1, role, w => do
    let (x, w) ← negated s limit role w
    if role? w.tail = some .both then
      let w := w.drop 2
      let (y, w) ← allOf s limit (role? w) w
      return (x && y, w)
    else return (x, w)

/-- Reads a condition after any number of negations. -/
def negated (s : State) : Nat → Option Role → List Text → Except Text (Bool × List Text)
  | 0, _, w => .ok (false, w)
  | limit + 1, role, w => do
    if role ≠ some .negation then primary s limit role w
    else
      let next := role? w.tail
      let (x, w) ← negated s limit next (if next.isSome then w.tail else w)
      return (!x, w)

/-- Reads one condition. -/
def primary (s : State) : Nat → Option Role → List Text → Except Text (Bool × List Text)
  | 0, _, w => .ok (false, w)
  | limit + 1, role, w => do
    match role, w with
    | none, w => return (false, w)
    | some .opening, w =>
      let w := w.tail
      if role? w = some .closing then return (false, w)
      let (x, w) ← anyOf s limit (role? w) w
      if role? w.tail = some .closing then return (x, w.tail)
      else throw "closing paren expected".toList
    | some .unary, op :: t :: w => return (unaryValue s op t, t :: w)
    | some _, a :: op :: w =>
      if role? (op :: w) ≠ some .binary then return (!a.isEmpty, a :: op :: w)
      match w with
      | b :: w => return (← binaryValue s a op b, b :: w)
      | [] => throw (op ++ ": argument expected".toList)
    | some _, [a] => return (!a.isEmpty, [a])
    | some _, [] => return (false, [])

end

/-- The value of a condition whose first word has a role. -/
def valueFrom (s : State) (role : Option Role) (w : List Text) : Except Text Bool := do
  let (x, w) ← anyOf s (8 * w.length + 8) role w
  match w with
  | last :: _ :: _ =>
    throw ((if last.isEmpty then [] else last ++ ": ".toList) ++ "unexpected operator".toList)
  | _ => return x

/-- The value of a whole condition. Three words with an operator in the middle are a comparison, and
a few words are read without the parentheses around them or after their negation. -/
def value (s : State) : List Text → Except Text Bool
  | [] => .ok false
  | a :: rest =>
    let w := a :: rest
    let isFew : Bool := w.length = 3 || w.length = 4
    if w.length = 3 && (rest.head?.map Role.ofWord) = some .binary then
      valueFrom s (some .operand) w
    else if isFew && a = ['('] && w.getLast? = some [')'] then
      valueFrom s (role? rest.dropLast) rest.dropLast
    else if isFew && a = ['!'] then (value s rest).map (!·)
    else valueFrom s (role? w) w

end Condition

end LiveLine.Shell
