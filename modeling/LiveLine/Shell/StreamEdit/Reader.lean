import LiveLine.Shell.StreamEdit

/-!
# Reading a script of edits

Each command is read from what is left of the script. What is wrong with a script is told with the
place up to which it was read.
-/

namespace LiveLine.Shell

namespace StreamEdit

/-- What is wrong with a script. -/
inductive Fault where
  | unknownCommand (c : Char)
  | missingCommand
  | unterminated (command : Char)
  | unterminatedAddress
  | extraCharacters
  | unexpectedComma
  | lineZero
  | unmatchedOpening
  | unmatchedClosing
  | missingLabel
  | missingText
  | unequalLengths
  | unknownOption
  | repeatedOption (c : Char)
  | zeroMatch
  | noGroup (n : Nat)
  | expression (f : Regex.Fault)
  deriving DecidableEq, Repr

def Fault.description : Fault → Text
  | unknownCommand c => "unknown command: ".toList ++ ['\x60', c, '\'']
  | missingCommand => "missing command".toList
  | unterminated c => "unterminated ".toList ++ '\x60' :: c :: "' command".toList
  | unterminatedAddress => "unterminated address regex".toList
  | extraCharacters => "extra characters after command".toList
  | unexpectedComma => "unexpected \x60,'".toList
  | lineZero => "invalid usage of line address 0".toList
  | unmatchedOpening => "unmatched \x60\x7b'".toList
  | unmatchedClosing => "unexpected \x60\x7d'".toList
  | missingLabel => "\":\" lacks a label".toList
  | missingText => "expected \\ after \x60a', \x60c' or \x60i'".toList
  | unequalLengths => "strings for \x60y' command are different lengths".toList
  | unknownOption => "unknown option to \x60s'".toList
  | repeatedOption c => "multiple \x60".toList ++ c :: "' options to \x60s' command".toList
  | zeroMatch => "number option to \x60s' command may not be zero".toList
  | noGroup n => "invalid reference \\".toList ++ Text.ofNat n ++ " on \x60s' command's RHS".toList
  | expression f => f.description

/-- A fault with what was left of the script when it was found, nothing where it is found at the
end. -/
abbrev Failure := Fault × Option Text

/-- A step of reading gives its result with what is left of the script. -/
abbrev Reading (α : Type) := StateT Text (Except Failure) α

/-- Gives up because of a fault. -/
def reject {α : Type} (f : Fault) : Reading α := do throw (f, some (← get))

/-- Takes the characters at the start that are of some kind. -/
def takeWhile (p : Char → Bool) : Reading Text := do
  let t ← get
  set (t.dropWhile p)
  return t.takeWhile p

def isBlank (c : Char) : Bool := c = ' ' || c = '\t'

/-- Takes one character, if there is one. -/
def next? : Reading (Option Char) := do
  match ← get with
  | [] => return none
  | c :: r =>
    set r
    return some c

/-- The text up to an unguarded separator and what follows it. In an expression a separator between
brackets is one of their characters. -/
def upTo? (separator : Char) (inExpression : Bool) : Nat → Text → Option (Text × Text)
  | 0, _ | _, [] => none
  | limit + 1, c :: r =>
    let after (lead : Text) (rest : Text) : Option (Text × Text) :=
      (upTo? separator inExpression limit rest).map fun (a, b) => (lead ++ a, b)
    match c, r with
    | '\\', d :: rest =>
      if d = separator then after [d] rest
      else if inExpression && d = 'n' then after ['\n'] rest
      else after ['\\', d] rest
    | c, r =>
      if c = separator then some ([], r)
      else if inExpression && c = '[' then
        match bracket? '^' r with
        | some (_, rest) => after (c :: r.take (r.length - rest.length)) rest
        | none => none
      else after [c] r

def readUpTo (separator : Char) (inExpression : Bool) (f : Fault) : Reading Text := do
  let t ← get
  match upTo? separator inExpression (t.length + 1) t with
  | some (part, rest) =>
    set rest
    return part
  | none => throw (f, some [])

/-- Reads an expression from its text. -/
def readRegex (extended ignoresCase : Bool) (t : Text) : Reading (Regex × Nat) := do
  match Regex.read extended t with
  | .ok (x, groups) => return (if ignoresCase then x.ignoringCase else x, groups)
  | .error f => reject (.expression f)

def address? (extended : Bool) : Reading (Option Address) := do
  match ← get with
  | '$' :: r =>
    set r
    return some .last
  | '/' :: r =>
    set r
    found '/'
  | '\\' :: c :: r =>
    set r
    found c
  | _ =>
    let digits ← takeWhile Char.isDigit
    match Text.numeral? digits with
    | none => return none
    | some n => match ← get with
      | '~' :: r =>
        set r
        return some (.every n ((Text.numeral? (← takeWhile Char.isDigit)).getD 0))
      | _ => return some (.line n)
where
  /-- Reads the expression of an address. -/
  found (separator : Char) : Reading (Option Address) := do
    let t ← readUpTo separator true .unterminatedAddress
    let ignoresCase : Bool := (← get).head? = some 'I'
    if ignoresCase then let _ ← next?
    return some (.found (← readRegex extended ignoresCase t).1)

def bound? (extended : Bool) : Reading (Option Bound) := do
  match ← get with
  | '+' :: r =>
    set r
    return some (.after ((Text.numeral? (← takeWhile Char.isDigit)).getD 0))
  | _ => return (← address? extended).map .address

/-- Reads the lines that a command works on. -/
def scope (extended : Bool) : Reading (Scope × Option Fault) := do
  let first ← address? extended
  let _ ← takeWhile isBlank
  let mut last : Option Bound := none
  let mut fault : Option Fault := none
  if first.isSome && (← get).head? = some ',' then
    let _ ← next?
    let _ ← takeWhile isBlank
    last ← bound? extended
    if last.isNone then fault := some .unexpectedComma
  let _ ← takeWhile isBlank
  let negated := !(← takeWhile fun c => c = '!' || isBlank c).isEmpty
  let fromZero : Bool := match first, last with
    | some (.line 0), some (.address (.found _)) => false
    | some (.line 0), _ => true
    | _, _ => false
  return ({ first, last, negated }, fault.or (if fromZero then some .lineZero else none))

/-- Reads the parts of a replacement. -/
def parts : Text → List Part
  | [] => []
  | '&' :: r => .group 0 :: parts r
  | '\\' :: c :: r =>
    let part : Part :=
      if c.isDigit then .group (c.toNat - 48)
      else match c with
        | 'n' => .literal '\n'
        | 't' => .literal '\t'
        | 'U' => .casing .upper
        | 'L' => .casing .lower
        | 'E' => .casing .asIs
        | 'u' => .casing .upperOnce
        | 'l' => .casing .lowerOnce
        | c => .literal c
    part :: parts r
  | c :: r => .literal c :: parts r

/-- Reads a command that replaces what an expression matches. -/
def substitution (extended : Bool) : Reading Action := do
  let some separator ← next? | reject (.unterminated 's')
  let pattern ← readUpTo separator true (.unterminated 's')
  let text ← readUpTo separator false (.unterminated 's')
  let flags ← takeWhile fun c => c.isDigit || "gpIiMm".toList.contains c
  for c in ['g', 'p'] do if 1 < flags.count c then reject (.repeatedOption c)
  let start := (Text.numeral? (flags.filter Char.isDigit)).getD 1
  if start = 0 then reject .zeroMatch
  if (← get).head?.any Char.isAlpha then
    let _ ← next?
    reject .unknownOption
  let (x, groups) ← readRegex extended (flags.contains 'i' || flags.contains 'I') pattern
  let parts := parts text
  match parts.findSome? fun p => match p with
    | .group n => if groups < n then some n else none
    | _ => none with
  | some n => reject (.noGroup n)
  | none => return .replace x parts start (flags.contains 'g') (flags.contains 'p')

/-- The characters of a list, where a backslash guards one or stands for another. -/
def plainChars : Text → Text
  | '\\' :: 'n' :: r => '\n' :: plainChars r
  | '\\' :: 't' :: r => '\t' :: plainChars r
  | '\\' :: '\\' :: r => '\\' :: plainChars r
  | c :: r => c :: plainChars r
  | [] => []

def translation : Reading Action := do
  let some separator ← next? | reject (.unterminated 'y')
  let source ← readUpTo separator false (.unterminated 'y')
  let image ← readUpTo separator false (.unterminated 'y')
  let pairs := (plainChars source).zip (plainChars image)
  if (plainChars source).length = (plainChars image).length then return .translate pairs
  else reject .unequalLengths

/-- A text up to the end of its line; a backslash guards the character after it. -/
def guardedLine : Text → Text × Text
  | [] => ([], [])
  | '\\' :: c :: r =>
    let (line, rest) := guardedLine r
    (c :: line, rest)
  | c :: r =>
    if c = '\n' then ([], r)
    else
      let (line, rest) := guardedLine r
      (c :: line, rest)

/-- Reads the text of a command, which may stand on the next line after a backslash. -/
def textArgument : Reading Text := do
  let _ ← takeWhile isBlank
  match ← get with
  | [] => reject .missingText
  | '\\' :: r =>
    let onward := r.dropWhile isBlank
    set (if onward.head? = some '\n' then onward.drop 1 else r)
  | _ => pure ()
  let (line, rest) := guardedLine (← get)
  set rest
  return line

/-- Reads the name of a label. -/
def labelName : Reading Text := do
  let _ ← takeWhile isBlank
  takeWhile fun c => c ≠ ';' && c ≠ '\n' && c ≠ '\x7d' && !isBlank c

/-- The commands that are one letter. -/
def plainAction? : Char → Option Action
  | 'p' => some .print
  | 'P' => some .printFirst
  | 'd' => some .delete
  | 'D' => some .deleteFirst
  | 'n' => some .next
  | 'N' => some .join
  | 'h' => some .hold
  | 'H' => some .holdMore
  | 'g' => some .recall
  | 'G' => some .recallMore
  | 'x' => some .exchange
  | 'z' => some .clear
  | '=' => some .number
  | '\x7b' => some .enter
  | '\x7d' => some .leave
  | _ => none

/-- Reads what a command does. -/
def action (extended : Bool) (c : Char) : Reading Action := do
  match plainAction? c with
  | some a => return a
  | none => match c with
    | 'q' | 'Q' =>
      let _ ← takeWhile isBlank
      return .quit (c = 'Q') ((Text.numeral? (← takeWhile Char.isDigit)).getD 0)
    | 's' => substitution extended
    | 'y' => translation
    | 'a' => return .append (← textArgument)
    | 'i' => return .insert (← textArgument)
    | 'c' => return .change (← textArgument)
    | 'b' => return .jump .always (← labelName)
    | 't' => return .jump .replaced (← labelName)
    | 'T' => return .jump .notReplaced (← labelName)
    | ':' =>
      let name ← labelName
      if name.isEmpty then reject .missingLabel else return .label name
    | c => reject (.unknownCommand c)

/-- Whether the text of a command ends it. -/
def endsItself (a : Action) : Bool :=
  a matches .append _ | .insert _ | .change _ | .enter

/-- Reads the commands of a script; `depth` counts the blocks that are open. -/
def readAll (extended : Bool) : Nat → (depth : Nat) → Reading (List Edit)
  | 0, _ => return []
  | limit + 1, depth => do
    let _ ← takeWhile fun c => isBlank c || c = ';' || c = '\n'
    match ← get with
    | [] => if depth = 0 then return [] else throw (.unmatchedOpening, none)
    | '#' :: _ =>
      let _ ← takeWhile (· ≠ '\n')
      readAll extended limit depth
    | _ =>
      let (scope, fault) ← scope extended
      let some c ← next? | reject .missingCommand
      if let some f := fault then reject f
      if c = '\x7d' && depth = 0 then reject .unmatchedClosing
      let action ← action extended c
      let _ ← takeWhile isBlank
      unless endsItself action || (← get).head?.all fun c =>
          c = ';' || c = '\n' || c = '\x7d' || c = '#' do
        let _ ← next?
        reject .extraCharacters
      let depth := match action with
        | .enter => depth + 1
        | .leave => depth - 1
        | _ => depth
      return { scope, action } :: (← readAll extended limit depth)

/-- Reads a script, or tells what is wrong with it and where, and the status that goes with it. -/
def read (extended : Bool) (script : Text) : Except (Text × Nat) (List Edit) :=
  match (readAll extended (script.length + 1) 0).run script with
  | .ok (edits, _) =>
    let names := edits.filterMap fun e => match e.action with
      | .jump _ name => some name
      | _ => none
    match names.find? fun n => !n.isEmpty && target edits n = edits.length with
    | some n => .error ("can't find label for jump to \x60".toList ++ n ++ ['\''], 4)
    | none => .ok edits
  | .error (f, rest) =>
    let place := (rest.map fun r => script.length - r.length).getD 0
    .error ("-e expression #1, char ".toList ++ Text.ofNat place ++ ": ".toList ++
      f.description, 1)

end StreamEdit

end LiveLine.Shell
