import LiveLine.Files.Movement
import LiveLine.Shell.Lines
import LiveLine.Shell.Program.Operands

/-!
# Programs on names, files and time
-/

namespace LiveLine.Shell

namespace Program

/-! ## Names -/

def basename (args : List Text) : Script Nat := do
  match args with
  | [] =>
    misuse "basename" "missing operand".toList
  | _ :: _ :: extra :: _ => misuse "basename" ("extra operand ".toList ++ quoted extra)
  | p :: rest =>
    let whole := Text.dropTailWhile (· = '/') p
    let name := (whole.reverse.takeWhile (· ≠ '/')).reverse
    let name := if whole.isEmpty && !p.isEmpty then ['/'] else name
    let name := match rest with
      | ending :: _ =>
        if name = ending then name
        else ((Text.dropLead? ending.reverse name.reverse).map List.reverse).getD name
      | [] => name
    say (name ++ ['\n'])
    return 0

def dirname (args : List Text) : Script Nat := do
  if args.isEmpty then return ← misuse "dirname" "missing operand".toList
  for p in args do
    let whole := Text.dropTailWhile (· = '/') p
    let outer := whole.reverse.dropWhile (· ≠ '/')
    let directory := Text.dropTailWhile (· = '/') outer.reverse
    say ((if directory.isEmpty then (if p.head? = some '/' then ['/'] else ['.'])
      else directory) ++ ['\n'])
  return 0

/-! ## Files -/

/-- The message that something cannot be done to a file. -/
def refuse (program action : String) (p : Text) (e : FileError) : Script Unit :=
  protest program.toList (action.toList ++ ' ' :: quoted p ++ ": ".toList ++ e.description)

/-- Applies a change of the files to each operand. -/
def changeEach (program action : String) (ps : List Text)
    (f : State → Text → FileTree → Except FileError FileTree) : Script Nat := do
  let mut failed := false
  for p in ps do
    match ← changeFiles (f (← get) p) with
    | .ok _ => pure ()
    | .error e =>
      refuse program action p e
      failed := true
  return statusOf failed

def rm (args : List Text) : Script Nat := do
  let (opts, files) := optionsOf "" args
  let has (c : Char) : Bool := opts.any (·.1 = c)
  if files.isEmpty && !has 'f' then return ← misuse "rm" "missing operand".toList
  changeEach "rm" "cannot remove" files fun s p t =>
    match t.find? s.cwd (toPath p) with
    | .ok place =>
      if (t.node? place).any FileNode.isDirectory && !(has 'r' || has 'R') then
        .error .isADirectory
      else .ok (t.erase place)
    | .error e => if has 'f' && (e = .notFound || e = .notADirectory) then .ok t else .error e

def rmdir (args : List Text) : Script Nat := do
  if args.isEmpty then return ← misuse "rmdir" "missing operand".toList
  changeEach "rmdir" "failed to remove" args fun s p t => do
    let place ← t.find? s.cwd (toPath p)
    if !(t.node? place).any FileNode.isDirectory then throw .notADirectory
    else if !(t.names place).isEmpty then throw .notEmpty
    else return t.erase place

/-- Makes a directory and those on the way to it. -/
def makeNested (s : State) (p : Text) : Except Text FileTree :=
  let t := s.files
  let base := if Path.isAbsolute p then [] else s.cwd
  let place := base ++ Path.parts (toPath p)
  match (List.range (place.length + 1)).find? fun i =>
    (t.node? (place.take i)).any (!·.isDirectory) with
  | none => .ok (t.makeDirectories place)
  | some i =>
    let e : FileError := if i = place.length then .alreadyExists else .notADirectory
    let shown := Path.ofParts ((place.take i).drop base.length)
    .error ("cannot create directory ".toList ++
      quoted (ofText (if Path.isAbsolute p then shown else shown.drop 1)) ++ ": ".toList ++
      e.description)

def mkdir (args : List Text) : Script Nat := do
  let (opts, files) := optionsOf "m" args
  if files.isEmpty then return ← misuse "mkdir" "missing operand".toList
  if opts.any (·.1 = 'p') then
    let mut failed := false
    for p in files do
      let s ← get
      match makeNested s p with
      | .ok files => set { s with files }
      | .error message =>
        protest "mkdir".toList message
        failed := true
    return statusOf failed
  else changeEach "mkdir" "cannot create directory" files fun s p t =>
    if t.hasPath s.cwd (toPath p) then .error .alreadyExists
    else do
      let place ← t.target? s.cwd (Text.dropTailWhile (· = '/') (toPath p))
      return t.put place .directory

def touch (args : List Text) : Script Nat := do
  if args.isEmpty then return ← misuse "touch" "missing file operand".toList
  changeEach "touch" "cannot touch" args fun s p t =>
    if t.hasPath s.cwd (toPath p) then .ok t else t.write? s.cwd (toPath p) []

/-- Whether a path leads to a directory. -/
def leadsInside (s : State) (p : Text) : Bool := (s.node? p).any FileNode.isDirectory

/-- The path of something in a directory, or the one that is given for it elsewhere. -/
def pathAt (s : State) (name target : Text) : Text :=
  if leadsInside s target then Text.dropTailWhile (· = '/') target ++ '/' :: name else target

/-- Copies or moves what is at one path to another one, in a directory under its own name. -/
def carry (s : State) (copies deep : Bool) (source target : Text) : Except Text FileTree := do
  let t := s.files
  let a ← (t.find? s.cwd (toPath source)).mapError fun e =>
    "cannot stat ".toList ++ quoted source ++ ": ".toList ++ e.description
  let isDirectory := (t.node? a).any FileNode.isDirectory
  if copies && isDirectory && !deep then
    throw ("-r not specified; omitting directory ".toList ++ quoted source)
  let goal := pathAt s ((a.getLast?.map ofText).getD []) target
  let b ← (t.target? s.cwd (toPath (if isDirectory then Text.dropTailWhile (· = '/') goal
      else goal))).mapError fun e =>
    let e := if e = .isADirectory then .notADirectory else e
    (if !copies then "cannot move ".toList ++ quoted source ++ " to ".toList ++ quoted goal
      else (if isDirectory then "cannot create directory ".toList
        else "cannot create regular file ".toList) ++ quoted goal) ++ ": ".toList ++ e.description
  if a = b then throw (quoted source ++ " and ".toList ++ quoted goal ++
    " are the same file".toList)
  if a.isPrefixOf b then
    throw (if copies then "cannot copy a directory, ".toList ++ quoted source ++
        ", into itself, ".toList ++ quoted goal
      else "cannot move ".toList ++ quoted source ++ " to a subdirectory of itself, ".toList ++
        quoted goal)
  match isDirectory, t.node? b with
  | true, some (.file ..) =>
    throw ("cannot overwrite non-directory ".toList ++ quoted goal ++ " with directory ".toList ++
      quoted source)
  | false, some .directory =>
    throw ("cannot overwrite directory ".toList ++ quoted goal ++ " with non-directory".toList)
  | _, _ => pure ()
  if copies then
    return t.nodes.foldl (fun t n =>
      if !a.isPrefixOf n.1 then t
      else
        let place := b ++ n.1.drop a.length
        t.put place (match n.2, t.node? place with
          | .file content _, some (.file _ executable) => .file content executable
          | n, _ => n)) t
  else if t.canMove a b then return t.move a b
  else throw ("cannot overwrite ".toList ++ quoted goal ++ ": ".toList ++
    FileError.notEmpty.description)

/-- Copies or moves files. -/
def transfer (program : String) (copies : Bool) (args : List Text) : Script Nat := do
  let (opts, files) := optionsOf "" args
  let deep : Bool := opts.any fun o => "rRa".toList.contains o.1
  match files.reverse with
  | [only] =>
    misuse program ("missing destination file operand after ".toList ++ quoted only)
  | target :: sources =>
    let s ← get
    if 1 < sources.length && !leadsInside s target then
      let e : FileError := if (s.node? target).isSome then .notADirectory else .notFound
      refuse program "target" target e
      return 1
    let mut failed := false
    for source in sources.reverse do
      let s ← get
      match carry s copies deep source target with
      | .ok files => set { s with files }
      | .error message =>
        protest program.toList message
        failed := true
    return statusOf failed
  | [] => misuse program "missing file operand".toList

/-- Who may execute a file: its owner, its group and all others. -/
abbrev Executors := List (Char × Bool)

/-- Who may execute a file after a change such as `u+x`. -/
def changed? (old : Executors) (change : Text) : Option Executors :=
  let who := change.takeWhile fun c => "ugoa".toList.contains c
  let meant (w : Char) : Bool := who.isEmpty || who.contains 'a' || who.contains w
  match change.drop who.length with
  | sign :: rights =>
    let given : Bool := rights.contains 'x' || (rights.contains 'X' && old.any Prod.snd)
    if !("+-=".toList.contains sign && rights.all fun c => "rwxXst".toList.contains c) then none
    else some (old.map fun (w, x) => (w, if !meant w then x
      else if sign = '+' then x || given
      else if sign = '-' then x && !given
      else given))
  | [] => none

/-- Whether a file may be executed once it has the rights that a mode gives. -/
def executableAfter? (mode : Text) (executable : Bool) : Option Bool :=
  let old : Executors := ['u', 'g', 'o'].map (·, executable)
  if mode.all fun c => '0' ≤ c && c ≤ '7' then
    if 4 < (mode.dropWhile (· = '0')).length then none
    else some ((mode.reverse.take 3).any fun c => c.toNat % 2 = 1)
  else ((Text.splitOn ',' mode).foldlM changed? old).map (·.any Prod.snd)

/-- Changes who may execute files. -/
def chmod (args : List Text) : Script Nat := do
  let args := args.filter fun a => !(["-v", "-f", "-c", "--"].contains (String.ofList a))
  match args with
  | [mode] => misuse "chmod" ("missing operand after ".toList ++ quoted mode)
  | mode :: files =>
    if (executableAfter? mode false).isNone then
      return ← misuse "chmod" ("invalid mode: ".toList ++ quoted mode)
    changeEach "chmod" "cannot access" files fun s p t => do
      let place ← t.find? s.cwd (toPath p)
      match t.node? place with
      | some (.file content executable) =>
        return t.put place (.file content ((executableAfter? mode executable).getD executable))
      | _ => return t
  | [] => misuse "chmod" "missing operand".toList

/-- The names in a directory as a list shows them; those that begin with a dot only if `hidden`. -/
def listing (s : State) (place : List Text) (hidden itself : Bool) : Text :=
  let names := (s.files.names place).map ofText ++ if itself then [['.'], "..".toList] else []
  unlines ((names.filter fun n => hidden || n.head? ≠ some '.').mergeSort Text.notAfter)

/-- Lists files, and then what is in directories. -/
def ls (args : List Text) : Script Nat := do
  let (opts, ps) := optionsOf "" args
  let has (c : Char) : Bool := opts.any (·.1 = c)
  let s ← get
  let ps := if ps.isEmpty then [['.']] else ps
  let mut failed := false
  for p in ps do
    match s.place? p with
    | .ok _ => pure ()
    | .error e =>
      refuse "ls" "cannot access" p e
      failed := true
  let there := (ps.filter fun p => (s.place? p).toOption.isSome).mergeSort Text.notAfter
  let (directories, files) := there.partition fun p => leadsInside s p && !has 'd'
  let lists := directories.map fun p =>
    let place := (s.place? p).toOption.getD []
    (if 1 < ps.length then p ++ [':', '\n'] else []) ++
      listing s place (has 'a' || has 'A') (has 'a')
  let parts := (if files.isEmpty then [] else [unlines files]) ++ lists
  say (Text.joinWith '\n' parts)
  return if failed then 2 else 0

def tee (args : List Text) : Script Nat := do
  let (opts, files) := optionsOf "" args
  let t ← takeInput
  say t
  let adds := opts.any (·.1 = 'a')
  let mut failed := false
  for p in files do
    let s ← get
    let old : Bytes := if adds then (s.files.read? s.cwd (toPath p)).toOption.getD [] else []
    match ← changeFiles (·.write? s.cwd (toPath p) (old ++ toBytes t)) with
    | .ok _ => pure ()
    | .error e =>
      protestLine (plainComplaint "tee" p e)
      failed := true
  return statusOf failed

/-- A size such as `4k`, in bytes. -/
def size? (t : Text) : Option Nat := do
  let digits := t.takeWhile Char.isDigit
  let scale ← match String.ofList (t.drop digits.length) with
    | "" | "c" => some 1
    | "w" => some 2
    | "b" => some 512
    | "kB" => some 1000
    | "k" | "K" => some 1024
    | "MB" => some 1000000
    | "M" => some 1048576
    | _ => none
  return (← Text.numeral? digits) * scale

/-- Copies blocks of bytes. How long that took is no part of what it tells. -/
def dd (args : List Text) : Script Nat := do
  let settings := args.map fun a =>
    let name := a.takeWhile (· ≠ '=')
    (String.ofList name, a.drop (name.length + 1))
  let known := ["if", "of", "bs", "ibs", "obs", "count", "skip", "status", "conv"]
  match (args.zip settings).find? fun a => !a.1.contains '=' || !known.contains a.2.1 with
  | some (a, _) => return ← misuse "dd" ("unrecognized operand ".toList ++ quoted a)
  | none => pure ()
  let number (name : String) (standard : Nat) : Nat :=
    ((settings.lookup name).bind size?).getD standard
  let block := max 1 (number "bs" 512)
  let input ← operand ((settings.lookup "if").getD ['-'])
  match input with
  | .error e =>
    refuse "dd" "failed to open" ((settings.lookup "if").getD []) e
    return 1
  | .ok t =>
    let rest := t.drop (number "skip" 0 * block)
    let copied := match settings.lookup "count" with
      | some _ => rest.take (number "count" 0 * block)
      | none => rest
    match settings.lookup "of" with
    | none => say copied
    | some p =>
      let s ← get
      match ← changeFiles (·.write? s.cwd (toPath p) (toBytes copied)) with
      | .ok _ => pure ()
      | .error e =>
        refuse "dd" "failed to open" p e
        return 1
    let records := Text.ofNat (copied.length / block) ++ '+' ::
      (if copied.length % block = 0 then ['0'] else ['1'])
    unless settings.lookup "status" = some "none".toList do
      write 2 (records ++ " records in\n".toList ++ records ++ " records out\n".toList)
    return 0

/-- Writes the parts of a text, a thousand lines each, to files of their own. -/
def split (args : List Text) : Script Nat := do
  let (opts, files) := optionsOf "abCdlnt" args
  let rows := max 1 (((opts.lookup 'l').bind Text.numeral?).getD 1000)
  match ← operand (files.headD ['-']) with
  | .error e =>
    protest "split".toList ("cannot open ".toList ++ quoted (files.headD []) ++
      " for reading: ".toList ++ e.description)
    return 1
  | .ok t =>
    let ls := endedLines t
    let letter (n : Nat) : Char := Char.ofNat (97 + n % 26)
    for i in List.range ((ls.length + rows - 1) / rows) do
      let s ← get
      let name := files.getD 1 ['x'] ++ [letter (i / 26), letter i]
      let part := ((ls.drop (i * rows)).take rows).flatten
      let _ ← changeFiles (·.write? s.cwd (toPath name) (toBytes part))
    return 0

/-- Gives a file a second name, in the current directory if none is given. Each name has its own
file from then on. -/
def link (args : List Text) : Script Nat := do
  let (opts, files) := optionsOf "" args
  let replaces : Bool := opts.any (·.1 = 'f')
  match files with
  | [] => misuse "ln" "missing file operand".toList
  | source :: rest =>
    let s ← get
    let name := ((Text.splitOn '/' source).filter (!·.isEmpty)).getLastD source
    let shown := pathAt s name (rest.headD ['.'])
    let result ← changeFiles fun t => do
      let goal ← t.target? s.cwd (toPath shown)
      if (t.node? goal).isSome && !replaces then throw .alreadyExists
      match t.node? (← t.find? s.cwd (toPath source)) with
      | some n => return t.put goal n
      | none => throw .notFound
    match result with
    | .ok _ => return 0
    | .error e =>
      if e = .notFound then refuse "ln" "failed to access" source e
      else refuse "ln" "failed to create hard link" shown e
      return 1

def unlink (args : List Text) : Script Nat := do
  match args with
  | [] => misuse "unlink" "missing operand".toList
  | _ :: extra :: _ => misuse "unlink" ("extra operand ".toList ++ quoted extra)
  | [p] => changeEach "unlink" "cannot unlink" [p] fun s p t => do
    let place ← t.find? s.cwd (toPath p)
    if (t.node? place).any FileNode.isDirectory then throw .isADirectory
    else return t.erase place

/-- What a search through directories looks for. -/
structure Wanted where
  pattern : Option Text := none
  directories : Option Bool := none
  depth : Option Nat := none

/-- Whether something with a name is looked for. -/
def Wanted.accepts (w : Wanted) (name : Text) (n : FileNode) : Bool :=
  (w.pattern.all fun p =>
    Glob.fits (Glob.ofChars (p.length + 1) (p.map fun c => (c, false))) name) &&
  (w.directories.all fun d => n.isDirectory = d)

/-- The paths of what is looked for at a place and inside it. -/
def Wanted.paths (w : Wanted) (t : FileTree) : Nat → (depth : Nat) → List Text → Text → List Text
  | 0, _, _, _ => []
  | limit + 1, depth, place, path =>
    match t.node? place with
    | none => []
    | some n =>
      let name := ((Text.splitOn '/' path).filter (!·.isEmpty)).getLastD path
      let inner := if n.isDirectory && w.depth.all (depth < ·) then
          (t.names place).flatMap fun x => w.paths t limit (depth + 1) (place ++ [x])
            (path ++ (if path.getLast? = some '/' then [] else ['/']) ++ ofText x)
        else []
      (if w.accepts name n then [path] else []) ++ inner

/-- Reads what `find` is to look for. -/
def Wanted.read (w : Wanted) : List Text → Wanted
  | op :: value :: rest =>
    match String.ofList op with
    | "-name" => Wanted.read { w with pattern := some value } rest
    | "-type" => Wanted.read { w with directories := some (value = ['d']) } rest
    | "-maxdepth" => Wanted.read { w with depth := Text.numeral? value } rest
    | _ => Wanted.read w (value :: rest)
  | _ => w

def find (args : List Text) : Script Nat := do
  let starts := args.takeWhile fun a => a.head? ≠ some '-'
  let wanted := ({} : Wanted).read (args.drop starts.length)
  let mut failed := false
  for p in (if starts.isEmpty then [['.']] else starts) do
    let s ← get
    match s.place? p with
    | .ok place => say (unlines (wanted.paths s.files 100 0 place p))
    | .error e =>
      protest "find".toList (quoted p ++ ": ".toList ++ e.description)
      failed := true
  return statusOf failed

/-- Lines that do not end. In a pipe they end when the reader is done. -/
def yes (args : List Text) : Script Nat := do
  match (← get).sinks.lookup 1 with
  | some (.stream n) =>
    if n < 2 then throw .overdue
    else
      let line := if args.isEmpty then ['y'] else Text.joinWith ' ' args
      say (unlines (List.replicate (maxDemand / (line.length + 1) + 1) line))
      return 141
  | _ => throw .overdue

/-- Finds programs. -/
def locate (isKnown : Text → Bool) (args : List Text) : Script Nat := do
  say (unlines ((args.filter isKnown).map ("/usr/bin/".toList ++ ·)))
  return statusOf (!args.all isKnown)

/-! ## Time and values -/

/-- The number of milliseconds that a text names, with a unit after it. -/
def duration? (t : Text) : Option Nat :=
  let whole := t.takeWhile Char.isDigit
  let rest := t.drop whole.length
  let (part, unit) := match rest with
    | '.' :: r => (r.takeWhile Char.isDigit, r.dropWhile Char.isDigit)
    | r => ([], r)
  let scale : Option Nat := match unit with
    | [] | ['s'] => some 1
    | ['m'] => some 60
    | ['h'] => some 3600
    | ['d'] => some 86400
    | _ => none
  let thousandths := (Text.numeral? ((part ++ ['0', '0', '0']).take 3)).getD 0
  if whole.isEmpty && part.isEmpty then none
  else scale.map fun k => (((Text.numeral? whole).getD 0) * 1000 + thousandths) * k

def sleep (args : List Text) : Script Nat := do
  if args.isEmpty then
    misuse "sleep" "missing operand".toList
  else if args.contains "infinity".toList then throw .overdue
  else
    match args.find? fun t => (duration? t).isNone with
    | some bad =>
      misuse "sleep" ("invalid time interval ".toList ++ quoted bad)
    | none =>
      pass ((args.filterMap duration?).foldl (· + ·) 0)
      return 0

def printEnvironment (args : List Text) : Script Nat := do
  let vars := environment (← get)
  match args with
  | [] =>
    say (unlines (vars.map fun v => v.1 ++ '=' :: v.2))
    return 0
  | names =>
    let found := names.filterMap fun n => vars.lookup n
    say (unlines found)
    return statusOf (found.length < names.length)

end Program

end LiveLine.Shell
