import LiveLine.Shell.Condition
import LiveLine.Shell.Format
import LiveLine.Shell.Lines
import LiveLine.Shell.Options
import LiveLine.Shell.Signal

/-!
# Commands of the shell itself

Those that need no evaluation of further commands. Each takes its arguments and gives its status.
-/

namespace LiveLine.Shell

namespace Builtin

/-! ## Arguments -/

/-- Tells what is wrong with the arguments of a command, which ends the shell if the command is a
special one. -/
def refuse {α : Type} (name : String) (message : Text) : Script α := do
  complain (name.toList ++ ": ".toList ++ message)
  throw (if isSpecial name.toList || name = "local" then .exits 2 else .failed 2)

/-- The options that stand before the operands. A colon in `known` follows a letter that takes a
value. -/
def leadingOptions (known : Text) : Nat → List Text →
    Except Text (List (Char × Text) × List Text)
  | 0, args => .ok ([], args)
  | limit + 1, args =>
    match args with
    | ['-', '-'] :: rest => .ok ([], rest)
    | ('-' :: c :: letters) :: rest => do
      if c = ':' || !known.contains c then throw ("Illegal option -".toList ++ [c])
      if (known.dropWhile (· ≠ c))[1]? = some ':' then
        match letters, rest with
        | [], [] => throw ("No arg for -".toList ++ c :: " option".toList)
        | [], value :: rest =>
          let (opts, operands) ← leadingOptions known limit rest
          return ((c, value) :: opts, operands)
        | value, rest =>
          let (opts, operands) ← leadingOptions known limit rest
          return ((c, value) :: opts, operands)
      else
        let rest := if letters.isEmpty then rest else ('-' :: letters) :: rest
        let (opts, operands) ← leadingOptions known limit rest
        return ((c, []) :: opts, operands)
    | args => .ok ([], args)

/-- The options and operands of a command. -/
def optionsFor (name known : String) (args : List Text) :
    Script (List (Char × Text) × List Text) := do
  match leadingOptions known.toList (args.foldl (fun n a => n + a.length + 1) 1) args with
  | .ok found => return found
  | .error message => refuse name message

/-- The number that an argument names. -/
def numberFor (name : String) (t : Text) : Script Nat := do
  match Text.numeral? t with
  | some n => return n
  | none => refuse name ("Illegal number: ".toList ++ t)

/-- Sees to it that a text is the name of a variable. -/
def requireName (name : String) (t : Text) : Script Unit := do
  unless isName t do refuse name (t ++ ": bad variable name".toList)

/-- Assigns to a variable for a command. -/
def assignFor (command : String) (name value : Text) : Script Unit := do
  requireName command name
  if (← get).constants.contains name then refuse command (name ++ ": is read only".toList)
  else assign name value

/-- The name in a word such as `n=v`, and the value if there is one. -/
def setting (t : Text) : Text × Option Text :=
  let name := t.takeWhile (· ≠ '=')
  match t.drop name.length with
  | _ :: value => (name, some value)
  | [] => (name, none)

/-- A text between quotes, as the shell could read it again. -/
def requotedFrom : Nat → Text → Text
  | 0, _ => []
  | limit + 1, t =>
    let plain := t.takeWhile (· ≠ '\'')
    let rest := t.drop plain.length
    let quotes := rest.takeWhile (· = '\'')
    let rest := rest.drop quotes.length
    quoted plain ++ (if quotes.isEmpty then [] else '"' :: quotes ++ ['"']) ++
      (if rest.isEmpty then [] else requotedFrom limit rest)

def requoted (t : Text) : Text := requotedFrom (t.length + 1) t

/-! ## Conditions -/

def test (name : String) (args : List Text) : Script Nat := do
  let args? := if name = "[" then
      if args.getLast? = some [']'] then some args.dropLast else none
    else some args
  match args? with
  | none =>
    complain "[: missing ]".toList
    return 2
  | some args =>
    match Condition.value (← get) args with
    | .ok true => return 0
    | .ok false => return 1
    | .error message =>
      complain (name.toList ++ ": ".toList ++ message)
      return 2

/-! ## Writing and reading -/

/-- Writes what a command has to write. -/
def utter (name : String) (t : Text) : Script Unit := do
  if ((← get).sinks.lookup 1).isNone && !t.isEmpty then
    complain (name.toList ++ ": ".toList ++ name.toList ++ ": I/O error".toList)
    throw (.failed 1)
  else say t

def writeEcho (args : List Text) : Script Nat := do
  utter "echo" (echo args)
  return 0

def writeFormat (args : List Text) : Script Nat := do
  let args := match args with
    | ['-', '-'] :: rest => rest
    | args => args
  match args with
  | [] =>
    complain "printf: usage: printf format [arg ...]".toList
    return 2
  | format :: args =>
    let w := printf format args
    utter "printf" w.text
    for (argument, fault) in w.unfit do
      complain ("printf: ".toList ++ argument ++ ": ".toList ++ fault.toList)
    match w.unknown with
    | some d =>
      complain ("printf: ".toList ++ d ++ ": invalid directive".toList)
      return 1
    | none => return statusOf (!w.unfit.isEmpty)

/-- Splits a line among names; the last one takes the rest. -/
def share (separators : Text) : List Text → Text → List (Text × Text)
  | [], _ => []
  | [n], t =>
    let blank (c : Char) : Bool := isSeparator c && separators.contains c
    [(n, Text.dropTailWhile blank (t.dropWhile blank))]
  | n :: m :: ns, t =>
    let blank (c : Char) : Bool := isSeparator c && separators.contains c
    let t := t.dropWhile blank
    let w := t.takeWhile fun c => !separators.contains c
    let rest := (t.drop w.length).dropWhile blank
    let rest := match rest with
      | c :: r => if separators.contains c then r else c :: r
      | [] => []
    (n, w) :: share separators (m :: ns) rest

/-- Takes one line from a text; without `raw` a backslash joins lines and guards characters. -/
def takeLine (raw : Bool) : Text → Text × Text × Bool
  | [] => ([], [], false)
  | '\n' :: r => ([], r, true)
  | '\\' :: c :: r =>
    if raw then
      let (l, rest, ended) := takeLine raw (c :: r)
      ('\\' :: l, rest, ended)
    else
      let (l, rest, ended) := takeLine raw r
      (if c = '\n' then l else c :: l, rest, ended)
  | c :: r =>
    let (l, rest, ended) := takeLine raw r
    (c :: l, rest, ended)

def read (args : List Text) : Script Nat := do
  let (opts, names) ← optionsFor "read" "p:r" args
  if names.isEmpty then refuse "read" "arg count".toList
  for n in names do requireName "read" n
  let s ← get
  let (line, rest, ended) := takeLine (opts.any (·.1 = 'r')) s.input
  set (s.setInput rest)
  for (n, v) in share (separators s) names line do assignFor "read" n v
  return if ended then 0 else 1

/-! ## Variables and directories -/

/-- The declarations of variables, each after its assignment, or the list of those declared. -/
def declareEach (name : String) (declared : State → List Text) (mark : Text → State → State)
    (args : List Text) : Script Nat := do
  let (_, args) ← optionsFor name "p" args
  if args.isEmpty then
    let s ← get
    say (unlines ((declared s).mergeSort Text.notAfter |>.map fun n =>
      name.toList ++ ' ' :: n ++ match value? s n with
        | some v => '=' :: requoted v
        | none => []))
  for a in args do
    let (n, v) := setting a
    requireName name n
    match v with
    | some v => assignFor name n v
    | none => pure ()
    modify (mark n)
  return 0

/-- Marks variables as exported. -/
def exportNames : List Text → Script Nat :=
  declareEach "export" State.exported fun n s =>
    { s with exported := n :: s.exported.filter (· ≠ n) }

/-- Lets variables keep their values. -/
def freeze : List Text → Script Nat :=
  declareEach "readonly" State.constants fun n s =>
    { s with constants := n :: s.constants.filter (· ≠ n) }

/-- Declares variables of a function, which are restored when it ends. -/
def declareLocal (args : List Text) : Script Nat := do
  match (← get).locals with
  | none => refuse "local" "not in a function".toList
  | some _ =>
    for a in args do
      let (n, v) := setting a
      requireName "local" n
      modify fun s => { s with locals := s.locals.map (· ++ [(n, value? s n)]) }
      match v with
      | some v => assignFor "local" n v
      | none => pure ()
    return 0

def unset (args : List Text) : Script Nat := do
  let (opts, names) ← optionsFor "unset" "vf" args
  for n in names do
    if opts.any (·.1 = 'f') then
      modify fun s => { s with functions := s.functions.filter (·.1 ≠ n) }
    else
      requireName "unset" n
      if (← get).constants.contains n then refuse "unset" (n ++ ": is read only".toList)
      modify fun s => { s with
        bindings := s.bindings.filter (·.1 ≠ n)
        exported := s.exported.filter (· ≠ n) }
  return 0

def workingDirectory (args : List Text) : Script Nat := do
  let _ ← optionsFor "pwd" "LP" args
  say (ofText (Path.ofParts (← get).cwd) ++ ['\n'])
  return 0

def changeDirectory (args : List Text) : Script Nat := do
  let s ← get
  let (_, operands) ← optionsFor "cd" "LP" args
  let home := (value? s "HOME".toList).getD []
  let target := match operands with
    | ['-'] :: _ => (value? s "OLDPWD".toList).getD (ofText (Path.ofParts s.cwd))
    | t :: _ => t
    | [] => home
  let target := if target.isEmpty then ['.'] else target
  let place := (s.place? target).toOption.filter fun p => (s.files.node? p).any FileNode.isDirectory
  match place with
  | some place =>
    set { s with cwd := place }
    assign "OLDPWD".toList (ofText (Path.ofParts s.cwd))
    assign "PWD".toList (ofText (Path.ofParts place))
    if operands.head? = some ['-'] then say (ofText (Path.ofParts place) ++ ['\n'])
    return 0
  | none =>
    complain ("cd: can't cd to ".toList ++ target)
    return 2

/-- Sets options and positional parameters. -/
def configure (args : List Text) : Script Nat := do
  match OptionChange.read false args.length args with
  | .error message => refuse "set" message
  | .ok (changes, operands) =>
    changes.forM OptionChange.make
    match operands with
    | some positional => modify fun s => { s with positional }
    | none => pure ()
    return 0

def shift (args : List Text) : Script Nat := do
  let n ← match args with
    | [] => pure 1
    | a :: _ => numberFor "shift" a
  let s ← get
  if s.positional.length < n then refuse "shift" "can't shift that many".toList
  set { s with positional := s.positional.drop n }
  return 0

/-- The rights in a file mode, as they are written for one class of users. -/
def rights (n : Nat) : Text :=
  (if n / 4 % 2 = 1 then ['r'] else []) ++ (if n / 2 % 2 = 1 then ['w'] else []) ++
    (if n % 2 = 1 then ['x'] else [])

/-- Shows or sets the rights that new files do not get. -/
def changeMask (args : List Text) : Script Nat := do
  let (opts, operands) ← optionsFor "umask" "S" args
  let mask := (← get).mask
  match operands with
  | [] =>
    let digits := [mask / 64 % 8, mask / 8 % 8, mask % 8]
    if opts.isEmpty then say ('0' :: digits.flatMap Text.ofNat ++ ['\n'])
    else
      let classes := (['u', 'g', 'o'].zip digits).map fun (c, n) => c :: '=' :: rights (7 - n)
      say (Text.joinWith ',' classes ++ ['\n'])
    return 0
  | t :: _ =>
    if t.all isOctal then
      modify fun s => { s with mask := t.foldl (fun n c => n * 8 + (c.toNat - 48)) 0 % 512 }
      return 0
    else if t.head?.any Char.isDigit then refuse "umask" ("Illegal number: ".toList ++ t)
    else refuse "umask" ("Illegal mode: ".toList ++ t)

/-! ## Options of scripts -/

/-- What a step through the options of a script finds: a letter with its value, or what is wrong. -/
inductive Found where
  | option (letter : Char) (value : Text)
  | unknown (letter : Char)
  | lacksValue (letter : Char)
  | none
  deriving DecidableEq, Repr

/-- Finds the next option. `offset` characters of the argument before the number `index` are done.
Gives the new index and offset too. -/
def nextOption (known : Text) (args : List Text) (index : Nat) (offset : Option Nat) :
    Found × Nat × Option Nat :=
  let inside : Text := match offset with
    | some n => ((args[index - 2]?).getD []).drop n
    | Option.none => []
  let inside := if index ≤ 1 then [] else inside
  let (letters, index) : Text × Nat :=
    if !inside.isEmpty then (inside, index)
    else match args[index - 1]? with
      | some ('-' :: c :: letters) => (c :: letters, index + 1)
      | _ => ([], index)
  match letters with
  | [] => (.none, index, Option.none)
  | c :: rest =>
    let offset := ((args[index - 2]?).getD []).length - rest.length
    if inside.isEmpty && letters = ['-'] then (.none, index, Option.none)
    else if c = ':' || !known.contains c then (.unknown c, index, some offset)
    else if (known.dropWhile (· ≠ c))[1]? ≠ some ':' then (.option c [], index, some offset)
    else if !rest.isEmpty then (.option c rest, index, Option.none)
    else match args[index - 1]? with
      | some value => (.option c value, index + 1, Option.none)
      | Option.none => (.lacksValue c, index, Option.none)

/-- Takes the next option of a script. -/
def takeOption (args : List Text) : Script Nat := do
  match args with
  | known :: name :: operands =>
    let s ← get
    let index := max 1 (((value? s "OPTIND".toList).bind Text.numeral?).getD 1)
    let operands := if operands.isEmpty then s.positional else operands
    let offset := if s.optionPlace.1 = index then s.optionPlace.2 else none
    let (found, index, offset) := nextOption known operands index offset
    let silent : Bool := known.head? = some ':'
    let setValue (value : Option Text) : Script Unit := match value with
      | some v => assign "OPTARG".toList v
      | none => modify fun s =>
        { s with bindings := s.bindings.filter (·.1 ≠ "OPTARG".toList) }
    let letter ← match found with
      | .none => pure '?'
      | .option c value => do
        setValue (some value)
        pure c
      | .unknown c => do
        setValue (if silent then some [c] else none)
        unless silent do write 2 ("Illegal option -".toList ++ [c, '\n'])
        pure '?'
      | .lacksValue c => do
        setValue (if silent then some [c] else none)
        unless silent do write 2 ("No arg for -".toList ++ c :: " option\n".toList)
        pure (if silent then ':' else '?')
    assign "OPTIND".toList (Text.ofNat index)
    modify fun s => { s with optionPlace := (index, offset) }
    assignFor "getopts" name [letter]
    return statusOf (found = .none)
  | _ => refuse "getopts" "Usage: getopts optstring var [arg...]".toList

/-! ## Ending -/

/-- The status that an argument names, the last one if there is none. -/
def givenStatus (name : String) (args : List Text) : Script Nat := do
  match args with
  | [] => return (← get).status
  | a :: _ => return (← numberFor name a) % 256

def exit (args : List Text) : Script Nat := do throw (.exits (← givenStatus "exit" args))

/-- The number of loops that an argument names, at most those around the command. -/
def givenLoops (name : String) (args : List Text) : Script Nat := do
  match args with
  | [] => return min 1 (← get).loops
  | a :: _ =>
    let n ← numberFor name a
    if n = 0 then refuse name ("Illegal number: ".toList ++ a)
    return min n (← get).loops

def leave (args : List Text) : Script Nat := do
  let n ← givenLoops "break" args
  if n = 0 then return 0 else throw (.leaves n)

def skip (args : List Text) : Script Nat := do
  let n ← givenLoops "continue" args
  if n = 0 then return 0 else throw (.skips n)

def giveBack (args : List Text) : Script Nat := do throw (.returns (← givenStatus "return" args))

/-- Sets or lists what is done on signals. -/
def trap (args : List Text) : Script Nat := do
  let (_, args) ← optionsFor "trap" "" args
  let (action, names) : Option Text × List Text := match args with
    | [] => (none, [])
    | [n] => (none, [n])
    | action :: names =>
      if (Text.numeral? action).isSome then (none, args) else (some action, names)
  if args.isEmpty then
    say (unlines (((← get).traps.mergeSort fun a b => Nat.ble a.1 b.1).map fun t =>
      "trap -- ".toList ++ requoted t.2 ++ ' ' :: Signal.shortName t.1))
  for n in names do
    match Signal.number? n with
    | none =>
      write 2 ("trap: ".toList ++ n ++ ": bad trap\n".toList)
      return 1
    | some k =>
      modify fun s => { s with traps := s.traps.filter (·.1 ≠ k) ++
        (action.filter (· ≠ ['-'])).toList.map fun a => (k, a) }
  return 0

/-! ## Jobs -/

/-- The job that an argument names, by the number of its process or by its own number. -/
def job? (s : State) : Text → Option Job
  | '%' :: n => (Text.numeral? n).bind fun k => if k = 0 then none else s.jobs.reverse[k - 1]?
  | n => (Text.numeral? n).bind fun pid => s.jobs.find? (·.pid = pid)

/-- Waits for jobs and gives the status of the last one. -/
def waitFor (args : List Text) : Script Nat := do
  let (_, args) ← optionsFor "wait" "" args
  let s ← get
  if args.isEmpty then pass (s.jobs.foldl (fun n j => max n j.ends) 0 - s.elapsed)
  let mut status := 0
  for a in args do
    let s ← get
    match job? s a with
    | some j =>
      if s.elapsed ≤ j.ends then
        pass (j.ends - s.elapsed)
        let t := if 128 < j.status then Signal.description (j.status - 128) else []
        unless t.isEmpty do write 2 (t ++ ['\n'])
      status := j.status
    | none =>
      if a.head? = some '%' then refuse "wait" ("No such job: ".toList ++ a)
      let _ ← numberFor "wait" a
      status := 127
  return status

/-- Ends a job by a signal: what it would have written later is not written. -/
def endJob (j : Job) (signal : Nat) : Script Unit := modify fun s =>
  if s.elapsed < j.ends then
    { s with
      jobs := s.jobs.map fun k =>
        if k.pid = j.pid then { k with ends := s.elapsed, status := 128 + signal } else k
      streams := s.streams.map fun chunks =>
        chunks.filter fun c => c.writer ≠ j.pid || c.time ≤ s.elapsed }
  else s

/-- What the arguments of `kill` ask for. -/
inductive Signalling where
  | send (signal : Nat) (processes : List Text)
  /-- The names of all signals, or of the one with a number or that ended a process. -/
  | names (of : Option Text)
  deriving DecidableEq, Repr

/-- Reads the arguments of `kill`. -/
def killArgs : List Text → Except Text Signalling
  | ['-', 's'] :: n :: rest => match Signal.number? n with
    | some k => .ok (.send k rest)
    | none => .error ("invalid signal number or name: ".toList ++ n)
  | [['-', 's']] => .error "No arg for -s option".toList
  | ['-', 'l'] :: rest => .ok (.names rest.head?)
  | ['-', '-'] :: rest => .ok (.send 15 rest)
  | ('-' :: c :: n) :: rest => match Signal.number? (c :: n) with
    | some k => .ok (.send k rest)
    | none => .error ("Illegal option -".toList ++ [c])
  | rest => .ok (.send 15 rest)

/-- The name of the signal with a number or that ended a process with a status. -/
def signalName (t : Text) : Except Text Text :=
  match Text.numeral? t with
  | none => .error ("Illegal number: ".toList ++ t)
  | some n =>
    let k := if n > 128 then n - 128 else n
    if 0 < k && k ≤ 64 then .ok (Signal.shortName k)
    else .error ("invalid signal number or exit status: ".toList ++ t)

end Builtin

end LiveLine.Shell
