import LiveLine.Shell.External

/-!
# Running commands

One level of a command is run by functions that are handed the means to run the commands inside it.
The evaluator ties the knot, with a bound on how deep commands may lie in one another.
-/

namespace LiveLine.Shell

/-! ## Simple commands -/

/-- The commands of the shell that run nothing else. -/
def builtins : List (String × (List Text → Script Nat)) :=
  [(":", fun _ => return 0), ("true", fun _ => return 0), ("false", fun _ => return 1),
    ("echo", Builtin.writeEcho), ("printf", Builtin.writeFormat), ("test", Builtin.test "test"),
    ("[", Builtin.test "["), ("export", Builtin.exportNames), ("readonly", Builtin.freeze),
    ("local", Builtin.declareLocal), ("unset", Builtin.unset), ("pwd", Builtin.workingDirectory),
    ("cd", Builtin.changeDirectory), ("chdir", Builtin.changeDirectory), ("read", Builtin.read),
    ("set", Builtin.configure), ("shift", Builtin.shift), ("getopts", Builtin.takeOption),
    ("exit", Builtin.exit), ("break", Builtin.leave), ("continue", Builtin.skip),
    ("return", Builtin.giveBack), ("trap", Builtin.trap), ("umask", Builtin.changeMask),
    ("wait", Builtin.waitFor),
    ("jobs", fun _ => return 0),
    ("bg", fun _ => Builtin.refuse "bg" "No current job".toList),
    ("fg", fun _ => Builtin.refuse "fg" "No current job".toList),
    ("times", fun _ => do
      say (unlines (List.replicate 2 "0m0.000000s 0m0.000000s".toList))
      return 0),
    ("alias", fun _ => return 0),
    ("unalias", fun args => do
      for a in args do write 2 ("unalias: ".toList ++ a ++ " not found\n".toList)
      return statusOf (!args.isEmpty)),
    ("ulimit", fun args => do
      if args.isEmpty then say "unlimited\n".toList
      return 0)]

/-- The other commands of the shell. -/
def evaluatingNames : List String := [".", "eval", "exec", "command", "type", "kill", "hash"]

def isBuiltin (name : Text) : Bool :=
  (builtins.lookup (String.ofList name)).isSome || evaluatingNames.contains (String.ofList name)

/-- What a name is to the shell. -/
inductive Meaning where
  | keyword
  | function
  | special
  | builtin
  /-- A program, with its path. -/
  | program (p : Text)
  deriving DecidableEq, Repr

namespace Meaning

/-- The words that make up the forms of commands. -/
def keywords : List Text :=
  ["!", "\x7b", "case", "do", "done", "elif", "else", "esac", "fi", "for", "if", "in", "then",
    "until", "while", "\x7d"].map String.toList

def find? (s : State) (name : Text) : Option Meaning :=
  if keywords.contains name then some keyword
  else if (s.functions.lookup name).isSome then some function
  else if isBuiltin name then some (if isSpecial name then special else builtin)
  else if Program.isKnown name then some (program ("/usr/bin/".toList ++ name))
  else if name.contains '/' && (s.node? name).any FileNode.isExecutable then some (program name)
  else none

/-- What to write in order to call what a name stands for. -/
def call (name : Text) : Meaning → Text
  | program p => p
  | _ => name

def description : Meaning → Text
  | keyword => "a shell keyword".toList
  | function => "a shell function".toList
  | special => "a special shell builtin".toList
  | builtin => "a shell builtin".toList
  | program p => p

end Meaning

/-- Tells what names stand for. -/
def describeNames (names : List Text) : Script Nat := do
  let mut status := 0
  for n in names do
    match Meaning.find? (← get) n with
    | some m => say (n ++ " is ".toList ++ m.description ++ ['\n'])
    | none =>
      say (n ++ ": not found\n".toList)
      status := 127
  return status

/-- How many functions may call one another. -/
def maxFunctionCalls : Nat := 1000

/-- Runs a function with its own positional parameters. -/
def callFunction (self : Evaluator) (body : Command) (args : List Text) : Script Nat := do
  let before ← get
  if maxFunctionCalls ≤ before.calls then
    fail ("Maximum function recursion depth (".toList ++ Text.ofNat maxFunctionCalls ++
      ") reached".toList)
  set { before with positional := args, locals := some [], calls := before.calls + 1 }
  let result ← (self body).attempt
  for (name, value) in ((← get).locals.getD []).reverse do
    match value with
    | some v => assign name v
    | none => modify fun s => { s with bindings := s.bindings.filter (·.1 ≠ name) }
  modify fun s => { s with
    positional := before.positional
    locals := before.locals
    calls := before.calls }
  match result with
  | .ok _ => return (← get).status
  | .error (.returns n) => return n
  | .error e => throw e

/-- Runs a command of the shell, which may be given up. -/
def orFailed (s : Script Nat) : Script Nat := do
  match ← s.attempt with
  | .ok status => return status
  | .error (.failed status) => return status
  | .error e => throw e

/-- Runs a command of the shell or a program, without regard to functions. -/
def runPlain (self : Evaluator) (name : Text) (args : List Text) : Script Nat := do
  match builtins.lookup (String.ofList name) with
  | some builtin => orFailed (builtin args)
  | none =>
    match String.ofList name with
    | "eval" =>
      setStatus 0
      runFrom self "eval: ".toList (Text.joinWith ' ' args)
      return (← get).status
    | "." =>
      match args with
      | [] => return 0
      | p :: _ =>
        match (← get).read? p with
        | .ok t =>
          setStatus 0
          match ← (runText self t).attempt with
          | .ok _ => return (← get).status
          | .error (.returns n) => return n
          | .error e => throw e
        | .error _ =>
          fail (if p.contains '/' then ".: cannot open ".toList ++ p ++ ": No such file".toList
            else ".: ".toList ++ p ++ ": not found".toList)
    | "kill" => orFailed (kill self args)
    | "hash" =>
      let s ← get
      match args.find? fun a => a.head? ≠ some '-' && (Meaning.find? s a).isNone with
      | some a => orFailed (do
          complain ("hash: ".toList ++ a ++ ": not found".toList)
          return 1)
      | none => return 0
    | "type" => describeNames args
    | "exec" =>
      match args with
      | [] => return 0
      | n :: rest => throw (.exits (← replaceShell self n rest))
    | _ => orFailed (runExternal self (innerShell self) [] name args)

/-- Runs `command`, which tells what a name stands for or passes functions by. -/
def runCommand (self : Evaluator) (args : List Text) : Script Nat := do
  match ← (Builtin.optionsFor "command" "pvV" args).attempt with
  | .error (.failed status) => return status
  | .error e => throw e
  | .ok (_, []) => return 0
  | .ok (opts, n :: rest) =>
    if opts.any (·.1 = 'V') then describeNames [n]
    else if opts.any (·.1 = 'v') then
      match Meaning.find? (← get) n with
      | some m =>
        say (m.call n ++ ['\n'])
        return 0
      | none => return 127
    else runPlain self n rest

def runNamed (self : Evaluator) (name : Text) (args : List Text) : Script Nat := do
  match (← get).functions.lookup name with
  | some body => callFunction self body args
  | none => if name = "command".toList then runCommand self args else runPlain self name args

/-- Ends the shell after a failure that nobody looks at, if that is asked for. -/
def checkFailure : Script Unit := do
  let s ← get
  if s.options.contains 'e' && !s.tested && s.status ≠ 0 then throw (.exits s.status)

/-- Whether a word holds a substitution. -/
def hasSubstitution (w : Word) : Bool := w.any (· matches .substitution ..)

def assignAll (self : Evaluator) : List (Text × Word) → Script (List (Text × Text))
  | [] => return []
  | (n, w) :: rest => do
    let v ← textOf self w
    return (n, v) :: (← assignAll self rest)

/-- Shows a command before it is run, if that is asked for. -/
def trace (words : List Text) : Script Unit := do
  if (← get).options.contains 'x' then write 2 ("+ ".toList ++ Text.joinWith ' ' words ++ ['\n'])

/-- Runs assignments that stand alone. -/
def runAssignments (self : Evaluator) (assignments : List (Text × Word)) : Script Unit := do
  for (n, w) in assignments do
    let v ← textOf self w
    trace [n ++ '=' :: v]
    assignOrFail [] n v

/-- Runs a command that consists of words. -/
def runSimple (self : Evaluator) (line : Nat) (assignments : List (Text × Word))
    (words : List Word) (redirects : List Redirect) : Script Unit := do
  spend
  modify fun s => { s with line }
  match ← fieldsOfAll self words with
  | [] =>
    redirected self redirects do
      runAssignments self assignments
      unless assignments.any (fun a => hasSubstitution a.2) || words.any hasSubstitution do succeed
  | name :: args =>
    let values ← assignAll self assignments
    trace (values.map (fun v => v.1 ++ '=' :: v.2) ++ name :: args)
    if isSpecial name && ((← get).functions.lookup name).isNone then
      for (n, v) in values do assignOrFail [] n v
      if name = "exec".toList then
        if ← redirectAll self redirects then
          modify fun s => { s with line }
          setStatus (← runPlain self name args)
        else throw (.exits 2)
      else
        redirected self redirects do setStatus (← runPlain self name args)
    else
      redirected self redirects do
        modify fun s => { s with line }
        setStatus (← withExports values (runNamed self name args))
  checkFailure

/-! ## Compound commands -/

/-- Runs a command whose status is looked at. -/
def watched (self : Evaluator) (c : Command) : Script Unit := do
  let before := (← get).tested
  modify fun s => { s with tested := true }
  (self c).andFinally (modify fun s => { s with tested := before })

/-- Runs a loop, from which the commands inside can break out. -/
def looping (s : Script Unit) : Script Unit := do
  modify fun s => { s with loops := s.loops + 1 }
  s.andFinally (modify fun s => { s with loops := s.loops - 1 })

/-- Repeats a body while a test holds. `last` is the status of the round before. -/
def rounds (test : Script Bool) (body : Script Unit) : Nat → (last : Nat) → Script Unit
  | 0, _, s => (.error .overdue, s)
  | limit + 1, last, s =>
    match test s with
    | (.error e, s) => (.error e, s)
    | (.ok false, s) => (.ok (), { s with status := last })
    | (.ok true, s) =>
      match body s with
      | (.ok _, s) => rounds test body limit s.status s
      | (.error (.leaves n), s) =>
        if 1 < n then (.error (.leaves (n - 1)), s) else (.ok (), { s with status := 0 })
      | (.error (.skips n), s) =>
        if 1 < n then (.error (.skips (n - 1)), s) else rounds test body limit 0 s
      | (.error e, s) => (.error e, s)

/-- Runs a body for each of some values. -/
def forValues (name : Text) (body : Script Unit) : List Text → Script Unit
  | [] => return ()
  | v :: vs => do
    assignOrFail [] name v
    match ← body.attempt with
    | .ok _ => forValues name body vs
    | .error (.leaves n) => if 1 < n then throw (.leaves (n - 1)) else succeed
    | .error (.skips n) => if 1 < n then throw (.skips (n - 1)) else forValues name body vs
    | .error e => throw e

/-- Runs commands that each read what the one before writes. -/
def runStages (self : Evaluator) : List Command → Script Unit
  | [] => return ()
  | [c] => isolated self (self c)
  | c :: cs => do
    let out ← capture (isolated self (self c))
    feed out (runStages self cs)

/-- Whether one of some patterns fits a text. -/
def fitsAny (self : Evaluator) (t : Text) : List Word → Script Bool
  | [] => return false
  | w :: ws => do
    let gs ← expandAll (runSubstitution self) (expandTilde (← get) w)
    if Glob.fits (Field.globs (Glyph.pattern gs)) t then return true else fitsAny self t ws

def chooseBranch (self : Evaluator) (t : Text) : List (List Word × Command) → Script Unit
  | [] => succeed
  | (patterns, body) :: rest => do
    if ← fitsAny self t patterns then
      succeed
      self body
    else chooseBranch self t rest

/-- Whether a command keeps neither stream of the shell open. -/
def isDetached : Command → Bool
  | .simple _ _ _ rs | .redirected _ rs =>
    rs.any (·.descriptor = 1) && rs.any (·.descriptor = 2)
  | .located _ c => isDetached c
  | _ => false

/-- Runs a command as a job beside the ones that follow: it takes no time of theirs. -/
def runBeside (self : Evaluator) (c : Command) : Script Unit := do
  let before ← get
  let pid := before.pid + before.numbered + 1
  set { before with limit := none, writer := pid, numbered := before.numbered + 1 }
  let result ← (isolated self (feed [] (self c))).attempt
  let after ← get
  let ends := match result with
    | .error .overdue => max after.elapsed (before.limit.getD after.elapsed)
    | _ => after.elapsed
  let status := match result with
    | .error (.killed n) => 128 + n
    | _ => after.status
  set { after with
    limit := before.limit
    elapsed := before.elapsed
    writer := before.writer
    jobs := ⟨pid, status, ends, !isDetached c⟩ :: after.jobs
    newest := some pid
    status := 0 }

/-- Runs a command, given the means to run those inside it. -/
def evaluateForm (self : Evaluator) : Command → Script Unit
  | .simple line assignments words redirects => runSimple self line assignments words redirects
  | .pipeline negated stages => do
    if negated then
      let before := (← get).tested
      modify fun s => { s with tested := true }
      let work : Script Unit := match stages with
        | [c] => self c
        | cs => runStages self cs
      work.andFinally (modify fun s => { s with tested := before })
      setStatus (if (← get).status = 0 then 1 else 0)
    else
      runStages self stages
      checkFailure
  | .both first second => do
    watched self first
    if (← get).status = 0 then self second
  | .either first second => do
    watched self first
    if (← get).status ≠ 0 then self second
  | .sequence first second => do
    self first
    self second
  | .background body => runBeside self body
  | .conditional condition success failure => do
    watched self condition
    if (← get).status = 0 then self success
    else match failure with
      | some c => self c
      | none => succeed
  | .loop untilSuccess condition body => do
    let budget := (← get).budget
    looping <| rounds (do
      spend
      watched self condition
      return ((← get).status = 0) != untilSuccess) (self body) (budget + 1) 0
  | .forEach name words body => do
    let values ← match words with
      | some ws => fieldsOfAll self ws
      | none => pure (← get).positional
    succeed
    looping (forValues name (self body) values)
  | .choose subject branches => do chooseBranch self (← textOf self subject) branches
  | .redirected body redirects => redirected self redirects (self body)
  | .subshell body => do
    isolated self (self body)
    checkFailure
  | .function name body => do
    modify fun s => { s with functions := (name, body) :: s.functions.filter (·.1 ≠ name) }
    succeed
  | .located line body => do
    modify fun s => { s with line }
    self body
  | .nothing => return ()

/-- Runs a command on its line, unless commands are only read. -/
def evaluateWith (self : Evaluator) (c : Command) : Script Unit := do
  if (← get).options.contains 'n' then return ()
  match c with
  | .located line body =>
    modify fun s => { s with line }
    evaluateForm self body
  | c => evaluateForm self c

/-- Runs a command. Commands that lie too deep in one another take more memory than there is for
them. -/
def evaluate : Nat → Evaluator
  | 0, _ => throw (.killed 11)
  | depth + 1, c => evaluateWith (evaluate depth) c

end LiveLine.Shell
