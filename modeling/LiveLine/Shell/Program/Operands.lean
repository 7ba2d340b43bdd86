import LiveLine.Shell.State

/-!
# Options and operands

How programs take their arguments apart, and what they say about files that cannot be read.
-/

namespace LiveLine.Shell

/-- The options and operands among arguments; a letter in `valued` takes a value. -/
def options (valued : List Char) : Nat → List Text → List (Char × Text) × List Text
  | 0, args => ([], args)
  | _, [] => ([], [])
  | limit + 1, arg :: rest =>
    match arg with
    | ['-', '-'] => ([], rest)
    | '-' :: c :: letters =>
      if valued.contains c then
        let (value, rest) := match letters, rest with
          | [], v :: rest => (v, rest)
          | v, rest => (v, rest)
        let (opts, operands) := options valued limit rest
        ((c, value) :: opts, operands)
      else
        let rest := if letters.isEmpty then rest else ('-' :: letters) :: rest
        let (opts, operands) := options valued limit rest
        ((c, []) :: opts, operands)
    | arg =>
      let (opts, operands) := options valued limit rest
      (opts, arg :: operands)

/-- The options of a program. -/
def optionsOf (valued : String) (args : List Text) : List (Char × Text) × List Text :=
  options valued.toList (args.foldl (fun n a => n + a.length + 1) 1) args

/-- Whether a text is an integer. -/
def isInteger (t : Text) : Bool :=
  match t with
  | '-' :: r | r => !r.isEmpty && r.all Char.isDigit

def quoted (t : Text) : Text := '\'' :: t ++ ['\'']

/-- The text of an operand, where a dash is the standard input. -/
def operand (p : Text) : Script (Except FileError Text) := do
  if p = ['-'] then return .ok (← takeInput)
  else return (← get).read? p

/-- The text of each operand, of the standard input if there is none. Messages about those that
cannot be read go to the error stream. -/
def operands (complaint : Text → FileError → Text) (ps : List Text) :
    Script (List (Text × Text) × Bool) := do
  let ps := if ps.isEmpty then [['-']] else ps
  let mut found := []
  let mut failed := false
  for p in ps do
    match ← operand p with
    | .ok t => found := found ++ [(p, t)]
    | .error e =>
      protestLine (complaint p e)
      failed := true
  return (found, failed)

def plainComplaint (program : String) (p : Text) (e : FileError) : Text :=
  program.toList ++ ": ".toList ++ p ++ ": ".toList ++ e.description

/-- The complaint of programs that tell opening and reading apart. -/
def openingComplaint (program : String) (p : Text) (e : FileError) : Text :=
  program.toList ++ ": ".toList ++
    (if e = .isADirectory then "error reading ".toList ++ quoted p
      else "cannot open ".toList ++ quoted p ++ " for reading".toList) ++ ": ".toList ++
    e.description

/-- What programs add to a message about wrong arguments. -/
def hint (program : String) : Script Unit := do
  write 2 ("Try '".toList ++ (← get).calledFrom ++ program.toList ++
    " --help' for more information.\n".toList)

/-- The message about wrong arguments. -/
def misuse (program : String) (message : Text) : Script Nat := do
  protest program.toList message
  hint program
  return 1

def statusOf (failed : Bool) : Nat := if failed then 1 else 0

/-- A program that writes one text made of all its operands. -/
def filter (complaint : Text → FileError → Text) (files : List Text) (f : Text → Text) :
    Script Nat := do
  let (found, failed) ← operands complaint files
  say (f (found.flatMap Prod.snd))
  return statusOf failed

/-- A program that writes a text for each of its operands. -/
def filterEach (complaint : Text → FileError → Text) (files : List Text) (f : Text → Text) :
    Script Nat := do
  let (found, failed) ← operands complaint files
  say (found.flatMap fun x => f x.2)
  return statusOf failed

end LiveLine.Shell
