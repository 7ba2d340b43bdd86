import LiveLine.Shell.Program

/-!
# Calls of programs

What a command comes to: an executable file names in its first line the interpreter that runs it,
and `env` runs a command in an environment that it has adjusted.
-/

namespace LiveLine.Shell

/-! ## Executable files -/

/-- Whether a character separates the interpreter from its argument. -/
def isShebangBlank (c : Char) : Bool := c = ' ' || c = '\t'

/-- How many characters of a file are looked at for its interpreter. -/
def shebangWindow : Nat := 256

/-- The interpreter that the first line of a file names, with its argument. Blanks at the end count
only where the line is not ended. -/
def shebang? (content : Text) : Option (Text × List Text) :=
  match content.take shebangWindow with
  | '#' :: '!' :: r =>
    let line := r.takeWhile fun c => c ≠ '\n' && c ≠ '\x00'
    let ended : Bool := (r.drop line.length).head? = some '\n'
    let cut : Bool := line.length + 2 = shebangWindow
    let line := if cut then line.dropLast else line
    let line := if ended then Text.dropTailWhile isShebangBlank line else line
    let line := line.dropWhile isShebangBlank
    let name := line.takeWhile fun c => !isShebangBlank c
    let rest := line.drop name.length
    if (ended && name.isEmpty) || (cut && rest.isEmpty) then none
    else some (name, if rest.isEmpty then [] else [rest.dropWhile isShebangBlank])
  | _ => none

/-- A program that is called, and what it is given. -/
structure Invocation where
  /-- The name that the program is known by. -/
  program : Text
  /-- The name that it is called by. -/
  called : Text
  arguments : List Text
  deriving DecidableEq, Repr

namespace Invocation

/-- What calling the file at a path comes to. An interpreter may be a file with an interpreter in
its turn, up to a bound. -/
def ofPath? (t : FileTree) (cwd : List Text) :
    Nat → Text → List Text → Except FileError Invocation
  | limit, p, args => do
    let next ← match Program.named? p with
      | some n =>
        if n.isSuffixOf p then pure (.inl ⟨n, p, args⟩) else throw .notADirectory
      | none => do
        if p.isEmpty then throw .permissionDenied
        match t.node? (← t.find? cwd (toPath p)) with
        | some (.file content true) =>
          match shebang? (ofBytes content) with
          | some (interpreter, options) => pure (Sum.inr (interpreter, options ++ p :: args))
          | none => throw .execFormat
        | some _ => throw .permissionDenied
        | none => throw .notFound
    match limit, next with
    | 0, _ => throw .tooManyLinks
    | _, .inl i => return i
    | limit + 1, .inr (p, args) => ofPath? t cwd limit p args

/-- How many files may name one another before the program. -/
def maxFiles : Nat := 6

/-- What a command comes to. A name without a slash is that of a program. -/
def find? (t : FileTree) (cwd : List Text) (name : Text) (args : List Text) :
    Except FileError Invocation :=
  if name.contains '/' then ofPath? t cwd maxFiles name args
  else if Program.isKnown name then .ok ⟨name, name, args⟩
  else .error .notFound

end Invocation

/-! ## Adjusted environments -/

/-- What `env` is asked to do. -/
structure Adjustment where
  /-- Whether to begin with no variables. -/
  cleared : Bool := false
  removed : List Text := []
  added : List (Text × Text) := []
  /-- The command to run, with its arguments. -/
  command : List Text := []
  deriving DecidableEq, Repr

namespace Adjustment

/-- The words of a text, in which blanks stand between words outside of quotes. `word` is the one
that is being read, and `quote` what ends the quotes around it. -/
def splitFrom (word : Option Text) (quote : Option Char) : Text → List Text
  | [] => word.toList
  | c :: r =>
    if quote = some c then splitFrom word none r
    else if quote.isNone && (c = '"' || c = '\'') then splitFrom (word.or (some [])) (some c) r
    else if quote.isNone && c.isWhitespace then word.toList ++ splitFrom none none r
    else splitFrom (some (word.getD [] ++ [c])) quote r

/-- What is said about blanks in a word that cannot be run. -/
def advice : Text := "use -[v]S to pass options in shebang lines".toList

/-- Takes a setting of a variable, or else the command. -/
def readSettings (a : Adjustment) : List Text → Adjustment
  | [] => a
  | t :: rest =>
    let name := t.takeWhile (· ≠ '=')
    match t.drop name.length with
    | _ :: value => readSettings { a with added := a.added ++ [(name, value)] } rest
    | [] => { a with command := t :: rest }

/-- How the arguments of `env` are wrong. -/
inductive Fault where
  | unknownOption (option : Text)
  | unknownLetter (letter : Char)
  | missingValue (letter : Char)
  deriving DecidableEq, Repr

/-- What is said about wrong arguments, line by line. -/
def Fault.lines : Fault → List Text
  | unknownOption o => ["unrecognized option ".toList ++ quoted o]
  | unknownLetter c => ("invalid option -- ".toList ++ quoted [c]) ::
      if c.isWhitespace then [advice] else []
  | missingValue c => ["option requires an argument -- ".toList ++ quoted [c]]

/-- Reads the arguments of `env` after what is known already. -/
def readOptions (a : Adjustment) : Nat → List Text → Except Fault Adjustment
  | 0, args => .ok (a.readSettings args)
  | _, [] => .ok a
  | limit + 1, t :: rest =>
    match t with
    | ['-'] => .ok (({ a with cleared := true } : Adjustment).readSettings rest)
    | ['-', '-'] => .ok (a.readSettings rest)
    | '-' :: '-' :: name =>
      let value? (o : String) : Option Text := Text.dropLead? o.toList name
      if name = "ignore-environment".toList then
        readOptions { a with cleared := true } limit rest
      else match value? "unset=", value? "split-string=" with
        | some n, _ => readOptions { a with removed := a.removed ++ [n] } limit rest
        | _, some words => readOptions a limit (splitFrom none none words ++ rest)
        | none, none => .error (.unknownOption t)
    | '-' :: c :: letters =>
      let (value, after) := match letters, rest with
        | [], v :: after => (v, after)
        | v, after => (v, after)
      match c with
      | 'i' =>
        readOptions { a with cleared := true } limit
          (if letters.isEmpty then rest else ('-' :: letters) :: rest)
      | 'u' | 'S' =>
        if letters.isEmpty && rest.isEmpty then .error (.missingValue c)
        else if c = 'u' then readOptions { a with removed := a.removed ++ [value] } limit after
        else readOptions a limit (splitFrom none none value ++ after)
      | c => .error (.unknownLetter c)
    | t => .ok (a.readSettings (t :: rest))

/-- Reads the arguments of `env`. -/
def read (args : List Text) : Except Fault Adjustment :=
  readOptions {} (args.foldl (fun n t => n + t.length + 1) 1) args

/-- Sets a variable at its place, or else at the end. -/
def set (new : Text × Text) : List (Text × Text) → List (Text × Text)
  | [] => [new]
  | v :: vs => if v.1 = new.1 then new :: vs else v :: set new vs

/-- The adjusted environment. -/
def apply (a : Adjustment) (environment : List (Text × Text)) : List (Text × Text) :=
  let kept := if a.cleared then [] else environment.filter fun v => !a.removed.contains v.1
  a.added.foldl (fun vs v => set v vs) kept

end Adjustment

end LiveLine.Shell
