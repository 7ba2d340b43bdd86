import LiveLine.Shell.Lines

/-!
# Editing a stream of lines

A script of commands is applied to each line in turn. Between the lines only the held text and the
ranges that have begun are kept.
-/

namespace LiveLine.Shell

namespace StreamEdit

/-- A line that is meant by a command. -/
inductive Address where
  | line (n : Nat)
  | last
  | found (x : Regex)
  /-- A line, and all that are some number of lines further on. -/
  | every (first step : Nat)
  deriving Repr

/-- The last line of a range. -/
inductive Bound where
  | address (a : Address)
  /-- Some lines after the first one. -/
  | after (n : Nat)
  deriving Repr

/-- The lines that a command works on. -/
structure Scope where
  first : Option Address := none
  last : Option Bound := none
  negated : Bool := false
  deriving Repr

/-- How letters are changed in a replacement, for good or for one character. -/
inductive Casing where
  | upper
  | lower
  | asIs
  | upperOnce
  | lowerOnce
  deriving DecidableEq, Repr

/-- A part of a replacement. -/
inductive Part where
  | literal (c : Char)
  /-- What a group matched, or the whole match under number zero. -/
  | group (n : Nat)
  | casing (c : Casing)
  deriving DecidableEq, Repr

/-- When a jump is taken. -/
inductive Condition where
  | always
  | replaced
  | notReplaced
  deriving DecidableEq, Repr

inductive Action where
  | print
  | printFirst
  | delete
  | deleteFirst
  | next
  | join
  | hold
  | holdMore
  | recall
  | recallMore
  | exchange
  | clear
  | number
  | quit (silent : Bool) (status : Nat)
  | append (t : Text)
  | insert (t : Text)
  | change (t : Text)
  | translate (pairs : List (Char × Char))
  /-- Replaces the matches from one with a number on, that one only or all of them. -/
  | replace (x : Regex) (parts : List Part) (start : Nat) (all print : Bool)
  | enter
  | leave
  | label (name : Text)
  | jump (c : Condition) (name : Text)
  deriving Repr

structure Edit where
  scope : Scope := {}
  action : Action
  deriving Repr

/-! ## Replacements -/

/-- A character with the casing for good and the casing of the next character. -/
def cased (always once : Casing) (c : Char) : Char :=
  match once, always with
  | .upperOnce, _ => c.toUpper
  | .lowerOnce, _ => c.toLower
  | _, .upper => c.toUpper
  | _, .lower => c.toLower
  | _, _ => c

/-- The text that replaces a match. -/
def replacement (m : Regex.Match) (parts : List Part) : Text :=
  let (out, _, _) := parts.foldl (fun (out, always, once) part =>
    let add (t : Text) : Text × Casing × Casing := match t with
      | [] => (out, always, once)
      | c :: r =>
        (out ++ cased always once c :: r.map (cased always .asIs), always, Casing.asIs)
    match part with
    | .literal c => add [c]
    | .group 0 => add m.text
    | .group n => add ((m.stop.groups.lookup n).getD [])
    | .casing .upperOnce => (out, always, Casing.upperOnce)
    | .casing .lowerOnce => (out, always, Casing.lowerOnce)
    | .casing c => (out, c, Casing.asIs)) (([] : Text), Casing.asIs, Casing.asIs)
  out

/-- The text with matches replaced, and whether there are any. -/
def replaced (x : Regex) (parts : List Part) (start : Nat) (all : Bool) (t : Text) :
    Text × Bool :=
  let found := (x.matchesIn (fun _ _ => true) t).drop (start - 1)
  let found := if all then found else found.take 1
  let (out, place) := found.foldl (fun (out, place) m =>
    (replacement m parts :: place.upTo m.start :: out, m.stop)) (([] : List Text), { rest := t })
  (out.reverse.flatten ++ place.rest, !found.isEmpty)

/-! ## Running -/

/-- What a script works with. -/
structure Machine where
  /-- The lines that have not been read. -/
  ahead : List Text
  /-- The number of the line that is worked on. -/
  count : Nat := 0
  line : Text := []
  held : Text := []
  /-- What is written after the line, the newest first. -/
  queued : List Text := []
  replaced : Bool := false
  /-- The commands whose ranges have begun, with the number of the last line if that is known. -/
  ranges : List (Nat × Option Nat) := []
  /-- The lines that were written, the newest first, and whether each is ended for certain. -/
  out : List (Text × Bool) := []

namespace Machine

def isLast (m : Machine) : Bool := m.ahead.isEmpty

def write (m : Machine) (t : Text) : Machine := { m with out := (t, true) :: m.out }

/-- Writes the line; the last one is ended only if it is in the input. -/
def writeLine (m : Machine) (t : Text) : Machine := { m with out := (t, !m.isLast) :: m.out }

/-- Ends the work on a line. -/
def finish (printing : Bool) (m : Machine) : Machine :=
  let m := if printing then m.writeLine m.line else m
  { m with out := m.queued.map (·, true) ++ m.out, queued := [] }

/-- Reads the next line, which `combine` puts to the one that is there. -/
def read? (combine : Text → Text → Text) (m : Machine) : Option Machine :=
  match m.ahead with
  | [] => none
  | t :: rest => some { m with
      ahead := rest
      count := m.count + 1
      line := combine m.line t }

def isAt (m : Machine) : Address → Bool
  | .line n => m.count = n
  | .last => m.isLast
  | .found x => (x.search? m.line).isSome
  | .every first step =>
    if step = 0 then m.count = first else first ≤ m.count && (m.count - first) % step = 0

/-- Whether a range takes in the line, which may begin or end it. -/
def inRange (m : Machine) (index : Nat) (first : Address) (last : Bound) : Bool × Machine :=
  let others := m.ranges.filter (·.1 ≠ index)
  match m.ranges.lookup index with
  | some (some n) =>
    (m.count ≤ n, if n ≤ m.count then { m with ranges := others } else m)
  | some none => match last with
    | .address a => (true, if m.isAt a then { m with ranges := others } else m)
    | .after _ => (true, m)
  | none =>
    if !m.isAt first then (false, m)
    else
      let stop : Option Nat := match last with
        | .address (.line n) => some n
        | .after n => some (m.count + n)
        | .address _ => none
      (true, if stop.any (· ≤ m.count) then m else { m with ranges := (index, stop) :: others })

/-- Whether a command works on the line. -/
def isMeant (m : Machine) (index : Nat) (s : Scope) : Bool × Machine :=
  let (holds, m) := match s.first, s.last with
    | none, _ => (true, m)
    | some a, none => (m.isAt a, m)
    | some a, some b => m.inRange index a b
  (holds != s.negated, m)

end Machine

/-- How the script goes on after a command. -/
inductive Flow where
  | on
  | goTo (index : Nat)
  /-- Ends the work on the line. With `again` what is left of it is worked on once more. -/
  | ends (printing again : Bool)
  | stops (printing : Bool) (status : Nat)

/-- How many commands lie before the end of a block, from inside it. -/
def blockLength : Nat → List Edit → Nat
  | _, [] => 0
  | depth, e :: es => match e.action with
    | .leave => if depth = 0 then 1 else 1 + blockLength (depth - 1) es
    | .enter => 1 + blockLength (depth + 1) es
    | _ => 1 + blockLength depth es

/-- Where a jump leads; without a name, to the end. -/
def target (edits : List Edit) (name : Text) : Nat :=
  if name.isEmpty then edits.length
  else edits.findIdx fun e => match e.action with
    | .label n => n = name
    | _ => false

/-- Performs a command. `inRange` tells whether its range goes on after the line. -/
def perform (quiet inRange : Bool) (edits : List Edit) (m : Machine) : Action → Machine × Flow
  | .print => (m.writeLine m.line, .on)
  | .printFirst => (m.write (m.line.takeWhile (· ≠ '\n')), .on)
  | .delete => (m, .ends false false)
  | .deleteFirst =>
    if m.line.contains '\n' then
      ({ m with line := (m.line.dropWhile (· ≠ '\n')).drop 1 }, .ends false true)
    else (m, .ends false false)
  | .next => match m.ahead with
    | [] => (m, .stops true 0)
    | _ :: _ => (((m.finish !quiet).read? fun _ t => t).getD m, .on)
  | .join => match m.read? fun old t => old ++ '\n' :: t with
    | some m => (m, .on)
    | none => (m, .stops true 0)
  | .hold => ({ m with held := m.line }, .on)
  | .holdMore => ({ m with held := m.held ++ '\n' :: m.line }, .on)
  | .recall => ({ m with line := m.held }, .on)
  | .recallMore => ({ m with line := m.line ++ '\n' :: m.held }, .on)
  | .exchange => ({ m with line := m.held, held := m.line }, .on)
  | .clear => ({ m with line := [] }, .on)
  | .number => (m.write (Text.ofNat m.count), .on)
  | .quit silent status => (m, .stops (!silent) status)
  | .append t => ({ m with queued := t :: m.queued }, .on)
  | .insert t => (m.write t, .on)
  | .change t => (if inRange then m else m.write t, .ends false false)
  | .translate pairs => ({ m with line := m.line.map fun c => (pairs.lookup c).getD c }, .on)
  | .replace x parts start all print =>
    let (t, any) := replaced x parts start all m.line
    if any then
      let m := { m with line := t, replaced := true }
      (if print then m.writeLine t else m, .on)
    else (m, .on)
  | .enter | .leave | .label _ => (m, .on)
  | .jump c name =>
    let taken : Bool := match c with
      | .always => true
      | .replaced => m.replaced
      | .notReplaced => !m.replaced
    let m := if c = .always then m else { m with replaced := false }
    (m, if taken then .goTo (target edits name) else .on)

/-- Works on the lines from a command on, and gives the status at the end. -/
def work (quiet : Bool) (edits : List Edit) : Nat → (index : Nat) → Machine → Machine × Nat
  | 0, _, m => (m, 0)
  | limit + 1, index, m =>
    /- The work on the next line, or on what is left of this one. -/
    let finish (printing again : Bool) (m : Machine) : Machine × Nat :=
      let m := m.finish printing
      if again then work quiet edits limit 0 m
      else match m.read? fun _ t => t with
        | some m => work quiet edits limit 0 { m with replaced := false }
        | none => (m, 0)
    match edits[index]? with
    | none => finish (!quiet) false m
    | some e =>
      let (holds, m) := m.isMeant index e.scope
      if !holds then
        let skipped := if e.action matches .enter then blockLength 0 (edits.drop (index + 1)) else 0
        work quiet edits limit (index + 1 + skipped) m
      else
        let inRange : Bool := (m.ranges.lookup index).isSome && !e.scope.negated
        match perform quiet inRange edits m e.action with
        | (m, .on) => work quiet edits limit (index + 1) m
        | (m, .goTo i) => work quiet edits limit i m
        | (m, .ends printing again) => finish printing again m
        | (m, .stops printing status) => (m.finish (printing && !quiet), status)

/-- How many commands are performed for a line at most, on average. -/
def maxCommands : Nat := 10000

/-- Edits a text by a script and gives the status of that. -/
def run (quiet : Bool) (edits : List Edit) (t : Text) : Text × Nat :=
  match lines t with
  | [] => ([], 0)
  | first :: rest =>
    let begun := (edits.zipIdx.filter fun e => match e.1.scope.first with
      | some (.line 0) => true
      | _ => false).map fun e => (e.2, none)
    let start : Machine := { ahead := rest, count := 1, line := first, ranges := begun }
    let (m, status) := work quiet edits (maxCommands * (rest.length + 1)) 0 start
    let closed : Bool := t.getLast? = some '\n'
    let written := match m.out with
      | (last, isSure) :: others =>
        let tail := if isSure || closed then last ++ ['\n'] else last
        (others.reverse.flatMap fun l => l.1 ++ ['\n']) ++ tail
      | [] => []
    (written, status)

end StreamEdit

end LiveLine.Shell
