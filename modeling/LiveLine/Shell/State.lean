import LiveLine.Files.Tree
import LiveLine.Shell.Command

/-!
# The state of a running shell

Files, variables, streams and the time that has passed. A script ends in the usual way or by one of
the interrupts.
-/

namespace LiveLine.Shell

/-- The characters of a text as bytes, one character for each. -/
def ofText (t : Text) : Text := (Utf8.encode t).map fun b => Char.ofNat b.toNat

def ofBytes (b : Bytes) : Text := b.map fun b => Char.ofNat b.toNat

def toBytes (t : Text) : Bytes := t.map fun c => UInt8.ofNat c.toNat

/-- The path that a sequence of bytes spells. -/
def toPath (t : Text) : Path := Utf8.decodeLossy (toBytes t)

/-- Where a descriptor writes to. -/
inductive Sink where
  | stream (n : Nat)
  | file (place : List Text)
  | nowhere
  deriving DecidableEq, Repr

/-- The ways in which a script does not go on with the next command. -/
inductive Interrupt where
  | exits (status : Nat)
  | killed (signal : Nat)
  /-- Gives up a command of the shell. -/
  | failed (status : Nat)
  /-- Leaves loops. -/
  | leaves (levels : Nat)
  /-- Goes on with the next round of a loop. -/
  | skips (levels : Nat)
  | returns (status : Nat)
  /-- The time is up, or the script does not end. -/
  | overdue
  deriving DecidableEq, Repr

/-- What is left to be read of something that was opened, and whether that is a file. -/
structure Source where
  text : Text := []
  fromFile : Bool := false

/-- A text that was written at a time, by the shell itself or by the job with a number. -/
structure Chunk where
  time : Nat
  writer : Nat
  text : Text

/-- A command that runs beside the ones that follow it. -/
structure Job where
  /-- The number of its process. -/
  pid : Nat
  status : Nat
  /-- When it is done. -/
  ends : Nat
  /-- Whether it keeps a stream of the shell open. -/
  holds : Bool

structure State where
  files : FileTree
  cwd : List Text
  /-- What the shell calls itself in messages. -/
  name : Text
  /-- The line of the command that is being run. -/
  line : Nat := 0
  /-- The number of the process; a shell inside has the next number. -/
  pid : Nat := 4000
  bindings : List (Text × Text) := []
  exported : List Text := []
  /-- The variables that keep their values. -/
  constants : List Text := []
  functions : List (Text × Command) := []
  positional : List Text := []
  /-- The argument that the options of the script have been taken from, and how much of it. -/
  optionPlace : Nat × Option Nat := (1, none)
  options : List Char := []
  /-- What to do on a signal, or at the end under number zero. -/
  traps : List (Nat × Text) := []
  status : Nat := 0
  /-- Milliseconds since the start. -/
  elapsed : Nat := 0
  /-- The jobs in the background, the newest first. -/
  jobs : List Job := []
  /-- The number of the newest job. -/
  newest : Option Nat := none
  /-- How many processes have got numbers. -/
  numbered : Nat := 0
  /-- When the jobs of shells inside this one are done that keep a stream open. -/
  lingering : Nat := 0
  /-- The number of the job that is run, zero outside of jobs. -/
  writer : Nat := 0
  limit : Option Nat := none
  /-- What messages of the running program begin with: the directory that it was called from. -/
  calledFrom : Text := []
  /-- How many commands may still be run before the script counts as endless. -/
  budget : Nat := 500000
  /-- All that was opened for reading. -/
  sources : List Source := [{}]
  /-- The descriptors that can be read from, each with the number of its source. -/
  inputs : List (Nat × Nat) := [(0, 0)]
  sinks : List (Nat × Sink) := [(1, .stream 0), (2, .stream 1)]
  /-- What was written to each stream, the newest first. -/
  streams : List (List Chunk) := [[], []]
  /-- The rights that new files do not get. -/
  mask : Nat := 18
  /-- How many loops the command is in. -/
  loops : Nat := 0
  /-- How many functions the command is in. -/
  calls : Nat := 0
  /-- How many shells were started one by another. -/
  shells : Nat := 0
  /-- In a function, the variables that are its own and what they were before. -/
  locals : Option (List (Text × Option Text)) := none
  /-- Whether the status of the command is looked at, so that a failure is no reason to exit. -/
  tested : Bool := false

abbrev Script := ExceptT Interrupt (StateM State)

namespace Script

/-- Runs a script and gives how it ended. -/
def attempt {α : Type} (s : Script α) : Script (Except Interrupt α) := fun st =>
  match s st with
  | (result, st) => (.ok result, st)

/-- Runs a script up to whatever ends it, then a second one, and then ends as the first did. -/
def andFinally {α : Type} (s : Script α) (after : Script Unit) : Script α := do
  let result ← s.attempt
  after
  match result with
  | .ok a => return a
  | .error e => throw e

end Script

/-- When nothing keeps a stream of the shell open any more. -/
def State.released (s : State) : Nat :=
  s.jobs.foldl (fun n j => if j.holds then max n j.ends else n) s.lingering

/-- Lets time pass. -/
def pass (milliseconds : Nat) : Script Unit := do
  let s ← get
  let elapsed := s.elapsed + milliseconds
  set { s with elapsed }
  if s.limit.any (· ≤ elapsed) then throw .overdue

/-- Counts one command. -/
def spend : Script Unit := do
  let s ← get
  match s.budget with
  | 0 => throw .overdue
  | budget + 1 => set { s with budget }

def succeed : Script Unit := modify fun s => { s with status := 0 }

def setStatus (n : Nat) : Script Unit := modify fun s => { s with status := n }

/-! ## Variables -/

def value? (s : State) (name : Text) : Option Text := s.bindings.lookup name

def assign (name value : Text) : Script Unit := modify fun s =>
  { s with
    bindings := (name, value) :: s.bindings.filter (·.1 ≠ name)
    exported := if s.options.contains 'a' && !s.exported.contains name then name :: s.exported
      else s.exported }

/-- The variables that programs are given. -/
def environment (s : State) : List (Text × Text) :=
  s.bindings.filter fun v => s.exported.contains v.1

/-- The characters that separate fields. -/
def separators (s : State) : Text := (value? s "IFS".toList).getD [' ', '\t', '\n']

/-! ## Writing -/

def nullDevice : List Text := ["dev".toList, "null".toList]

/-- The place from which zeros are read without end. -/
def zeroDevice : List Text := ["dev".toList, "zero".toList]

/-- The devices among the files of a system. -/
def devices : List (List Text) := [nullDevice, zeroDevice]

/-- How many characters a reader asks for at most of something that does not end. -/
def maxDemand : Nat := 1048576

/-- What a stream holds: its texts in the order of their times. -/
def Chunk.joined (chunks : List Chunk) : Text :=
  (chunks.reverse.mergeSort fun a b => Nat.ble a.time b.time).flatMap Chunk.text

/-- Adds to what a sink holds. A file that is gone takes nothing. -/
def State.pour (s : State) (t : Text) : Sink → State
  | .stream n => { s with streams := s.streams.modify n (⟨s.elapsed, s.writer, t⟩ :: ·) }
  | .file place =>
    match s.files.node? place with
    | some (.file content executable) =>
      { s with files := s.files.put place (.file (content ++ toBytes t) executable) }
    | _ => s
  | .nowhere => s

def write (descriptor : Nat) (t : Text) : Script Unit := modify fun s =>
  match s.sinks.lookup descriptor with
  | some sink => s.pour t sink
  | none => s

def say (t : Text) : Script Unit := write 1 t

/-- A message of the shell on the error stream. -/
def complain (message : Text) : Script Unit := do
  let s ← get
  write 2 (s.name ++ ": ".toList ++ Text.ofNat s.line ++ ": ".toList ++ message ++ ['\n'])

/-- Ends the shell because of an error that is told about. -/
def fail {α : Type} (message : Text) : Script α := do
  complain message
  throw (.exits 2)

/-- Assigns to a variable unless it keeps its value, which ends the shell. `lead` precedes what is
said about that. -/
def assignOrFail (lead name value : Text) : Script Unit := do
  if (← get).constants.contains name then fail (lead ++ name ++ ": is read only".toList)
  else assign name value

/-- A line of a program on the error stream, which begins with the program as it was called. -/
def protestLine (t : Text) : Script Unit := do
  write 2 ((← get).calledFrom ++ t ++ ['\n'])

/-- A message of a program on the error stream. -/
def protest (program message : Text) : Script Unit :=
  protestLine (program ++ ": ".toList ++ message)

/-- Runs a script with its output kept instead of written, and gives the output. -/
def capture (s : Script Unit) : Script Text := do
  let before ← get
  let n := before.streams.length
  set { before with
    lingering := 0
    streams := before.streams ++ [[]]
    sinks := (1, .stream n) :: before.sinks.filter (·.1 ≠ 1) }
  let result ← s.attempt
  let after ← get
  set { after with
    lingering := before.lingering
    streams := after.streams.take n
    sinks := before.sinks }
  pass (after.lingering - after.elapsed)
  match result with
  | .ok _ => return Chunk.joined (after.streams.getD n [])
  | .error e => throw e

/-! ## Reading -/

/-- What a descriptor reads from. -/
def State.source (s : State) (descriptor : Nat) : Source :=
  ((s.inputs.lookup descriptor).bind fun i => s.sources[i]?).getD {}

/-- What is left on the standard input. -/
def State.input (s : State) : Text := (s.source 0).text

/-- Leaves a text on the standard input. -/
def State.setInput (s : State) (t : Text) : State :=
  match s.inputs.lookup 0 with
  | some i => { s with sources := s.sources.modify i ({ · with text := t }) }
  | none => s

/-- Lets a descriptor read from something that is opened for it. -/
def State.openSource (s : State) (descriptor : Nat) (source : Source) : State :=
  { s with
    sources := s.sources ++ [source]
    inputs := (descriptor, s.sources.length) :: s.inputs.filter (·.1 ≠ descriptor) }

/-- Gives the descriptors other sources and forgets what is not read any more. -/
def State.withInputs (s : State) (inputs : List (Nat × Nat)) : State :=
  { s with inputs, sources := s.sources.take (inputs.foldl (fun n i => max n (i.2 + 1)) 0) }

/-- Runs a script with a text as its standard input. -/
def feed {α : Type} (t : Text) (s : Script α) : Script α := do
  let before ← get
  set (before.openSource 0 { text := t })
  s.andFinally (modify fun s => s.withInputs before.inputs)

/-- Takes all that is left on the standard input. -/
def takeInput : Script Text := do
  let s ← get
  set (s.setInput [])
  return s.input

/-! ## Files -/

def State.place? (s : State) (p : Text) : Except FileError (List Text) :=
  s.files.find? s.cwd (toPath p)

def State.node? (s : State) (p : Text) : Option FileNode := s.files.nodeAt? s.cwd (toPath p)

def State.read? (s : State) (p : Text) : Except FileError Text :=
  if (s.place? p).toOption = some zeroDevice then .ok (List.replicate maxDemand '\x00')
  else (s.files.read? s.cwd (toPath p)).map ofBytes

/-- A change of the files that may fail. -/
def changeFiles (f : FileTree → Except FileError FileTree) : Script (Except FileError Unit) := do
  let s ← get
  match f s.files with
  | .ok files =>
    set { s with files }
    return .ok ()
  | .error e => return .error e

end LiveLine.Shell
