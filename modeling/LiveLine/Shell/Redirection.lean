import LiveLine.Shell.Expansion
import LiveLine.Shell.Reader

/-!
# Scripts, words and redirections

What commands are made of is run by functions that are handed the means to run the commands inside.
-/

namespace LiveLine.Shell

/-- The means to run a command that lies inside another. -/
abbrev Evaluator := Command → Script Unit

/-! ## Scripts -/

/-- Runs the commands of a script line by line; `origin` precedes what is said of errors. -/
def runRows (self : Evaluator) (origin : Text) (total : Nat) : Nat → Text → Script Unit
  | 0, _ => return ()
  | limit + 1, t =>
    match row? total t with
    | .error e => do
      modify fun s => { s with line := total - e.rest.count '\n' + 1 }
      fail (origin ++ e.description)
    | .ok none => shown t
    | .ok (some (c, rest)) => do
      shown (t.take (t.length - rest.length))
      self c
      runRows self origin total limit rest
where
  /-- Shows the lines that were read, if that is asked for. -/
  shown (t : Text) : Script Unit := do
    if (← get).options.contains 'v' then write 2 t

/-- Runs a script that comes from a command; errors in it are told with the command's name. -/
def runFrom (self : Evaluator) (origin t : Text) : Script Unit :=
  runRows self origin (t.count '\n') (t.length + 1) t

def runText (self : Evaluator) (t : Text) : Script Unit := runFrom self [] t

/-- Runs a script to its end and then what was to be done at the end. -/
def concluded (self : Evaluator) (s : Script Unit) : Script Unit := do
  let conclude : Script Unit := do
    let st ← get
    match st.traps.lookup 0 with
    | none => return ()
    | some action =>
      set { st with traps := st.traps.filter (·.1 ≠ 0) }
      runText self action
      setStatus st.status
  match ← s.attempt with
  | .ok _ => conclude
  | .error (.exits n) =>
    setStatus n
    conclude
    throw (.exits n)
  | .error e => throw e

/-- Runs a script apart: of what it does to the shell only the status is left. -/
def isolated (self : Evaluator) (s : Script Unit) : Script Unit := do
  let before ← get
  set { before with traps := [], jobs := [] }
  let result ← (concluded self s).attempt
  let after ← get
  let back : State := { before with
    files := after.files
    elapsed := after.elapsed
    numbered := after.numbered
    lingering := after.released
    budget := after.budget
    sources := after.sources
    streams := after.streams
    status := after.status }
  let back := back.withInputs before.inputs
  match result with
  | .ok _ | .error (.leaves _) | .error (.skips _) => set back
  | .error (.exits n) | .error (.returns n) => set { back with status := n }
  | .error e =>
    set back
    throw e

/-! ## Words and redirections -/

/-- The script of a substitution is run apart. -/
def runSubstitution (self : Evaluator) (t : Text) : Script Unit := isolated self (runText self t)

/-- Puts the home directory in place of a tilde at the start of a word. -/
def expandTilde (s : State) (w : Word) : Word :=
  let home (rest : Word) : Word := match value? s "HOME".toList with
    | some h => .literal true h :: rest
    | none => w
  match w with
  | [.literal false ['~']] => home []
  | .literal false ['~'] :: .literal false ['/'] :: rest => home (.literal false ['/'] :: rest)
  | w => w

/-- The fields of a word. -/
def fieldsOf (self : Evaluator) (w : Word) : Script (List Text) := do
  let s ← get
  let w := match w with
    | [.literal true [], .parameter true ['@'] form] =>
      if s.positional.isEmpty then [.parameter true ['@'] form] else w
    | w => w
  let gs ← expandAll (runSubstitution self) (expandTilde s w)
  let s ← get
  return (Glyph.fieldsFrom (separators s) [] false gs).flatMap (Field.paths s)

def fieldsOfAll (self : Evaluator) : List Word → Script (List Text)
  | [] => return []
  | w :: ws => do
    let fs ← fieldsOf self w
    return fs ++ (← fieldsOfAll self ws)

/-- The text of a word as a whole. -/
def textOf (self : Evaluator) (w : Word) : Script Text := do
  return Glyph.text (← expandAll (runSubstitution self) (expandTilde (← get) w))

def setSink (descriptor : Nat) (sink : Sink) : Script Unit := modify fun s =>
  { s with sinks := (descriptor, sink) :: s.sinks.filter (·.1 ≠ descriptor) }

/-- The sink that a device stands for. -/
def device? (s : State) (place : List Text) : Option Sink :=
  if devices.contains place then some .nowhere
  else if place = ["dev".toList, "stdout".toList] then s.sinks.lookup 1
  else if place = ["dev".toList, "stderr".toList] then s.sinks.lookup 2
  else none

/-- Opens a file for writing. With `keeps` what it holds stays, with `spares` it must not exist. -/
def openOutput (descriptor : Nat) (keeps spares : Bool) (p : Text) : Script Bool := do
  let s ← get
  let opened : Except FileError (FileTree × List Text) := do
    let place ← s.files.target? s.cwd (toPath p)
    if spares && (device? s place).isNone && (s.files.node? place).any (!·.isDirectory) then
      throw .alreadyExists
    let old ← if keeps && (s.files.node? place).isSome then s.files.read? s.cwd (toPath p)
      else pure []
    return (← s.files.write? s.cwd (toPath p) old, place)
  match opened with
  | .ok (files, place) =>
    match device? s place with
    | some sink => setSink descriptor sink
    | none =>
      set { s with files }
      setSink descriptor (.file place)
    return true
  | .error e =>
    complain ("cannot create ".toList ++ p ++ ": ".toList ++
      if e = .notFound then "Directory nonexistent".toList else e.description)
    return false

/-- Opens a file for reading. -/
def openInput (descriptor : Nat) (p : Text) : Script Bool := do
  let s ← get
  match s.read? p with
  | .ok text =>
    set (s.openSource descriptor ⟨text, !(s.place? p).toOption.any devices.contains⟩)
    return true
  | .error .isADirectory =>
    set (s.openSource descriptor {})
    return true
  | .error e =>
    complain ("cannot open ".toList ++ p ++ ": ".toList ++
      if e = .notFound then "No such file".toList else e.description)
    return false

/-- Lets a descriptor stand for what another one stands for, or closes it. -/
def duplicate (descriptor : Nat) (target : Text) : Script Bool := do
  let s ← get
  let sinks := s.sinks.filter (·.1 ≠ descriptor)
  let inputs := s.inputs.filter (·.1 ≠ descriptor)
  let n? := Text.numeral? target
  let sink? := n?.bind fun n => s.sinks.lookup n
  let input? := n?.bind fun n => s.inputs.lookup n
  if target ≠ ['-'] && sink?.isNone && input?.isNone then
    complain (target ++ ": Bad file descriptor".toList)
    return false
  else
    set { s with
      sinks := sink?.toList.map (descriptor, ·) ++ sinks
      inputs := input?.toList.map (descriptor, ·) ++ inputs }
    return true

/-- Performs a redirection and tells whether that was possible. -/
def redirect (self : Evaluator) (r : Redirect) : Script Bool := do
  let t ← textOf self r.target
  match r.kind with
  | .document =>
    modify (·.openSource r.descriptor { text := t })
    return true
  | .duplicate => duplicate r.descriptor t
  | .input => openInput r.descriptor t
  | .output => openOutput r.descriptor false ((← get).options.contains 'C') t
  | .overwrite => openOutput r.descriptor false false t
  | .append => openOutput r.descriptor true false t

def redirectAll (self : Evaluator) : List Redirect → Script Bool
  | [] => return true
  | r :: rs => do if ← redirect self r then redirectAll self rs else return false

/-- Runs a script with redirections, which end with it. -/
def redirected (self : Evaluator) (rs : List Redirect) (body : Script Unit) : Script Unit := do
  let before ← get
  let work : Script Unit := do if ← redirectAll self rs then body else setStatus 2
  let restored {α : Type} (old new : List (Nat × α)) : List (Nat × α) :=
    let isOurs (d : Nat) : Bool := rs.any (·.descriptor = d)
    old.filter (isOurs ·.1) ++ new.filter (!isOurs ·.1)
  work.andFinally (modify fun s =>
    { s.withInputs (restored before.inputs s.inputs) with
      sinks := restored before.sinks s.sinks })

end LiveLine.Shell
