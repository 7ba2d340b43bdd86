import LiveLine.Shell.Builtin
import LiveLine.Shell.Invocation
import LiveLine.Shell.Redirection

/-!
# Shells and programs inside a shell

A shell inside a shell has its own variables, functions and number. A program is run by the name
that it is called by.
-/

namespace LiveLine.Shell

/-- The script that a shell is called with, its name and its positional parameters. -/
def scriptOf (shell : Text) (args : List Text) :
    Script (Except Text (Text × Text × List Text)) := do
  let (changes, operands) ← match OptionChange.read true args.length args with
    | .error message => return .error ("0: ".toList ++ message)
    | .ok found => pure found
  changes.forM OptionChange.make
  let letters := (← get).options
  modify fun s => { s with options := letters.filter fun c => c ≠ 'c' && c ≠ 'l' }
  let args := operands.getD []
  if letters.contains 'c' then
    match args with
    | [] => return .error ("0: -c requires an argument".toList)
    | t :: rest => return .ok (t, rest.headD shell, rest.drop 1)
  else if letters.contains 's' then return .ok (← takeInput, shell, args)
  else
    match args with
    | [] => return .ok (← takeInput, shell, [])
    | p :: rest =>
      match (← get).read? p with
      | .ok t => return .ok (t, p, rest)
      | .error .isADirectory => return .ok ([], p, rest)
      | .error _ => return .error ("0: cannot open ".toList ++ p ++ ": No such file".toList)

/-- The variables that a shell has where the environment does not give them. -/
def standardBindings : List (Text × Text) :=
  [("PATH", "/usr/local/sbin:/usr/local/bin:/usr/sbin:/usr/bin:/sbin:/bin"), ("OPTIND", "1"),
    ("PS1", "# "), ("PS2", "> "), ("PS4", "+ ")].map fun v => (v.1.toList, v.2.toList)

/-- How many shells may start one another before a script counts as endless. -/
def maxShells : Nat := 400

/-- Runs a shell of its own with the given arguments. -/
def runShell (self : Evaluator) (shell : Text) (args : List Text) : Script Unit := do
  let s ← get
  if maxShells ≤ s.shells then throw .overdue
  set { s with
    shells := s.shells + 1
    calls := 0
    name := shell
    line := 0
    bindings := environment s ++ standardBindings
    constants := []
    functions := []
    positional := []
    optionPlace := (1, none)
    options := []
    traps := []
    status := 0
    tested := false }
  match ← scriptOf shell args with
  | .error message =>
    write 2 (shell ++ ": ".toList ++ message ++ ['\n'])
    setStatus 2
  | .ok (t, name, positional) =>
    modify fun s => { s with name, positional }
    concluded self (runText self t)

/-- Runs a shell inside a shell and gives its status. -/
def runInnerShell (self : Evaluator) (shell : Text) (args : List Text) : Script Nat := do
  let before ← get
  set { before with pid := before.pid + 1 }
  let result ← (isolated self (runShell self shell args)).attempt
  let status := (← get).status
  modify fun s => { s with status := before.status, pid := before.pid }
  match result with
  | .ok _ => return status
  | .error (.killed n) =>
    let t := Signal.description n
    unless t.isEmpty do write 2 (t ++ ['\n'])
    return 128 + n
  | .error e => throw e

/-- Runs a script with some variables exported, which are afterwards as they were before. -/
def withExports {α : Type} (values : List (Text × Text)) (s : Script α) : Script α := do
  let before ← get
  for (n, v) in values do
    assignOrFail [] n v
    modify fun s => { s with exported := n :: s.exported.filter (· ≠ n) }
  let isOurs (n : Text) : Bool := values.any (·.1 = n)
  s.andFinally (modify fun s =>
    if values.isEmpty then s
    else { s with
      bindings := s.bindings.filter (!isOurs ·.1) ++ before.bindings.filter (isOurs ·.1)
      exported := s.exported.filter (!isOurs ·) ++ before.exported.filter isOurs })

/-- What is said of a process that there is not. -/
def noProcess : Script Nat := do
  complain "kill: No such process\n".toList
  return 1

/-- Sends a signal to the shell itself. -/
def signalSelf (self : Evaluator) (signal : Nat) : Script Nat := do
  let s ← get
  match if signal = 9 then none else s.traps.lookup signal with
  | some action =>
    runText self action
    return 0
  | none =>
    if Signal.isIgnored signal then return 0
    else if Signal.isStop signal then throw .overdue
    else throw (.killed signal)

/-- Sends a signal to the shell or to one of its jobs. -/
def signalProcess (self : Evaluator) (signal : Nat) (process : Text) : Script Nat := do
  let s ← get
  match Builtin.job? s process with
  | some j =>
    if process.head? = some '%' || j.ends < s.elapsed then noProcess
    else
      unless Signal.isIgnored signal || Signal.isStop signal do Builtin.endJob j signal
      return 0
  | none =>
    if process = Text.ofNat s.pid then signalSelf self signal
    else if (Text.numeral? process).isNone then
      complain ("kill: Illegal number: ".toList ++ process)
      return 2
    else noProcess

/-- Sends signals or tells their names. -/
def kill (self : Evaluator) (args : List Text) : Script Nat := do
  match Builtin.killArgs args with
  | .error message => Builtin.refuse "kill" message
  | .ok (.names none) =>
    say (unlines (['0'] :: (List.range Signal.greatest).map fun n => Signal.shortName (n + 1)))
    return 0
  | .ok (.names (some t)) =>
    match Builtin.signalName t with
    | .ok name =>
      say (name ++ ['\n'])
      return 0
    | .error message => Builtin.refuse "kill" message
  | .ok (.send _ []) =>
    complain "kill: Usage: kill [-s sigspec | -signum | -sigspec] [pid | job]... or".toList
    write 2 "kill -l [exitstatus]\n".toList
    return 2
  | .ok (.send signal processes) =>
    let mut status := 0
    for p in processes do status := max status (← signalProcess self signal p)
    return status

/-- Programs whose messages begin with their names alone. -/
def namedShortly : List String := ["rev", "kill", "which"]

/-- Runs a program whose messages begin with its name as it is called. -/
def asCalled {α : Type} (i : Invocation) (s : Script α) : Script α := do
  let before := (← get).calledFrom
  let calledFrom :=
    if namedShortly.contains (String.ofList i.program) then []
    else i.called.take (i.called.length - i.program.length)
  modify fun s => { s with calledFrom }
  s.andFinally (modify fun s => { s with calledFrom := before })

/-- Runs a program that is neither a shell nor `env`. -/
def runTool (self : Evaluator) (name : String) (args : List Text) : Script Nat := do
  match name with
  | "echo" =>
    match args with
    | ['-', 'n'] :: rest => say (Text.joinWith ' ' rest)
    | args => say (Text.joinWith ' ' args ++ ['\n'])
    return 0
  | "printf" => Builtin.writeFormat args
  | "test" => Builtin.test "test" args
  | "[" =>
    if args.getLast? = some [']'] then Builtin.test "[" args
    else
      protest "[".toList "missing ']'".toList
      return 2
  | "pwd" => Builtin.workingDirectory args
  | "kill" =>
    match args.find? fun a => a.head? ≠ some '-' && (Text.numeral? a).isNone with
    | some a =>
      protest "kill".toList ("failed to parse argument: ".toList ++ quoted a)
      return 1
    | none => kill self args
  | "which" => Program.locate Program.isKnown args
  | other =>
    match Program.all.lookup other with
    | some program => program.start other args
    | none => return 127

/-- How a shell is run, given the name that it is called by and its arguments. -/
abbrev ShellRunner := Text → List Text → Script Nat

/-- A shell inside a shell. -/
def innerShell (self : Evaluator) : ShellRunner := runInnerShell self

/-- A shell that takes the place of the one that runs. -/
def replacingShell (self : Evaluator) : ShellRunner := fun called args => do
  runShell self called args
  return (← get).status

/-- Runs a script with another environment. -/
def withEnvironment {α : Type} (environment : List (Text × Text)) (s : Script α) : Script α := do
  let before ← get
  set { before with bindings := environment, exported := environment.map Prod.fst }
  s.andFinally (modify fun s =>
    { s with bindings := before.bindings, exported := before.exported })

/-- What a program that runs other programs is asked for. -/
structure Errand where
  /-- The commands, each with its arguments. -/
  commands : List (List Text)
  /-- What is said before the reason why a command cannot be run. -/
  lead : Text → Text
  /-- Milliseconds that the commands may take. -/
  limit : Option Nat := none
  /-- The status where a command fails. -/
  failure : Nat → Nat := id

namespace Errand

/-- The rows of a list, each of at most a number of items. -/
def rows {α : Type} (size : Nat) (l : List α) : List (List α) :=
  (List.range ((l.length + size - 1) / size)).map fun i => (l.drop (i * size)).take size

/-- A text with a word in place of each mark. -/
def filled (mark word : Text) : Nat → Text → Text
  | 0, t => t
  | _, [] => []
  | limit + 1, c :: r =>
    if !mark.isEmpty && mark.isPrefixOf (c :: r) then
      word ++ filled mark word limit ((c :: r).drop mark.length)
    else c :: filled mark word limit r

/-- Reads the arguments of `xargs`, which takes further ones from its input. -/
def ofInput (args : List Text) : Script Errand := do
  let (opts, base) := match Builtin.leadingOptions "n:I:0rtd:L:s:x".toList 1000 args with
    | .ok found => found
    | .error _ => ([], args)
  let has (c : Char) : Bool := opts.any (·.1 = c)
  let t ← takeInput
  let base := if base.isEmpty then ["echo".toList] else base
  let words :=
    if has '0' then (Text.splitOn '\x00' t).filter (!·.isEmpty)
    else if has 'I' then (lines t).filter (!·.isEmpty)
    else Adjustment.splitFrom none none t
  let commands := match opts.lookup 'I', (opts.lookup 'n').bind Text.numeral? with
    | some mark, _ => words.map fun w => base.map fun a => filled mark w (a.length + 1) a
    | none, some n => (rows (max 1 n) words).map (base ++ ·)
    | none, none => [base ++ words]
  return {
    commands := if words.isEmpty && has 'r' then [] else commands
    lead := fun name => "xargs: ".toList ++ name ++ ": ".toList
    failure := fun n => if n = 127 || n = 126 then n else 123 }

/-- What a program is asked for, if it runs other programs; or the status of its refusal. -/
def of? (program : String) (args : List Text) : Script (Option (Except Nat Errand)) := do
  let couldNot (how : String) (name : Text) : Text :=
    program.toList ++ ": ".toList ++ how.toList ++ quoted name ++ ": ".toList
  let lacking : Script (Option (Except Nat Errand)) := do
    hint program
    return some (.error 125)
  match program with
  | "nice" =>
    let args := match args with
      | ['-', 'n'] :: _ :: rest => rest
      | args => args
    return some (.ok { commands := [args], lead := couldNot "" })
  | "nohup" =>
    if args.isEmpty then lacking
    else return some (.ok { commands := [args], lead := couldNot "failed to run command " })
  | "setsid" => return some (.ok {
      commands := [args]
      lead := fun name => "setsid: failed to execute ".toList ++ name ++ ": ".toList })
  | "timeout" =>
    match (Builtin.leadingOptions "s:k:v".toList 1000 args).toOption.map Prod.snd with
    | some (time :: command :: rest) =>
      match Program.duration? time with
      | some limit => return some (.ok {
          commands := [command :: rest]
          lead := couldNot "failed to run command "
          limit := if limit = 0 then none else some limit })
      | none =>
        protest "timeout".toList ("invalid time interval ".toList ++ quoted time)
        lacking
    | _ => lacking
  | "xargs" => return some (.ok (← ofInput args))
  | _ => return none

end Errand

/-- Runs a script for at most some time, after which its status is that of a timeout. -/
def withinTime (limit : Nat) (s : Script Nat) : Script Nat := do
  let before ← get
  let bound := before.elapsed + limit
  if before.limit.any (· ≤ bound) then s
  else
    set { before with limit := some bound }
    let result ← s.attempt
    modify fun s => { s with limit := before.limit }
    match result with
    | .ok status => return status
    | .error .overdue =>
      modify fun s => { s with elapsed := bound }
      return 124
    | .error e => throw e

/-- Runs a program. What it is to run itself runs in its place. -/
def runInvocation (self : Evaluator) (shell : ShellRunner) : Nat → Invocation → Script Nat
  | 0, _ => throw .overdue
  | limit + 1, i => do
    let run (lead : Text → Text) (command : List Text) : Script Nat := do
      let s ← get
      match command with
      | [] => return 0
      | name :: args => match Invocation.find? s.files s.cwd name args with
        | .ok j => runInvocation self shell limit j
        | .error .execFormat => shell "/bin/sh".toList (name :: args)
        | .error e =>
          asCalled i (protestLine (lead name ++ e.description))
          return if e = .notFound then 127 else 126
    if Program.shells.contains (String.ofList i.program) then shell i.called i.arguments
    else if i.program ≠ "env".toList then
      match ← asCalled i (Errand.of? (String.ofList i.program) i.arguments) with
      | none => asCalled i (runTool self (String.ofList i.program) i.arguments)
      | some (.error status) => return status
      | some (.ok e) =>
        let work : Script Nat := do
          let mut status := 0
          for command in e.commands do
            let n ← run e.lead command
            if n ≠ 0 then status := e.failure n
          return status
        match e.limit with
        | some n => withinTime n work
        | none => work
    else
      match Adjustment.read i.arguments with
      | .error fault => asCalled i do
        fault.lines.forM (protest "env".toList)
        hint "env"
        return 125
      | .ok a =>
        let s ← get
        withEnvironment (a.apply (environment s)) <| match a.command with
          | [] => Program.printEnvironment []
          | name :: args => do
            let lead (name : Text) : Text := "env: ".toList ++ quoted name ++ ": ".toList
            let status ← run lead (name :: args)
            let missing : Bool := match Invocation.find? s.files s.cwd name args with
              | .error .notFound => true
              | _ => false
            if missing && name.any Char.isWhitespace then
              asCalled i (protest "env".toList Adjustment.advice)
            return status

/-- How many programs may run one another. -/
def maxCalls : Nat := 1000

/-- What the shell says about a command that it cannot run, and the status of that. -/
def refusal : FileError → Text × Nat
  | .notFound | .notADirectory => ("not found".toList, 127)
  | .nameTooLong => (FileError.nameTooLong.description, 127)
  | .tooManyLinks => (FileError.tooManyLinks.description, 127)
  | e => (e.description, 126)

/-- Runs a program or an executable file. A file that names no interpreter is a script. `lead`
precedes what is said about a command that cannot be run. -/
def runExternal (self : Evaluator) (shell : ShellRunner) (lead name : Text) (args : List Text) :
    Script Nat := do
  if name.isEmpty then
    complain (": ".toList ++ FileError.permissionDenied.description)
    return 127
  let s ← get
  match Invocation.find? s.files s.cwd name args with
  | .ok i => runInvocation self shell maxCalls i
  | .error .execFormat => shell name (name :: args)
  | .error e =>
    let (reason, status) := refusal e
    complain (lead ++ name ++ ": ".toList ++ reason)
    return status

/-- Runs a program or an executable file in place of the shell, which does nothing more then. -/
def replaceShell (self : Evaluator) (name : Text) (args : List Text) : Script Nat := do
  let s ← get
  match Invocation.find? s.files s.cwd name args with
  | .ok _ | .error .execFormat => set { s with traps := [] }
  | .error _ => pure ()
  runExternal self (replacingShell self) "exec: ".toList name args

end LiveLine.Shell
