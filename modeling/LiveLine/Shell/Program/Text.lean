import LiveLine.Shell.Lines
import LiveLine.Shell.Program.Operands

/-!
# Programs on text

Each program takes its arguments, works on the state and gives its status.
-/

namespace LiveLine.Shell

namespace Program

def cat (args : List Text) : Script Nat := do
  let (opts, files) := optionsOf "" args
  let has (letters : String) : Bool := opts.any fun o => letters.toList.contains o.1
  filter (plainComplaint "cat") files fun t =>
    let ls := if has "s" then Lines.withoutBlankRuns (endedLines t) else endedLines t
    let shown (l : Text) : Text :=
      let l := if has "vAet" then l.flatMap (Lines.visible (has "TAt"))
        else if has "T" then l.flatMap fun c => if c = '\t' then ['^', 'I'] else [c]
        else l
      match l.reverse with
      | '\n' :: r =>
        if !has "EAe" then l
        else match r with
          | '\r' :: r => r.reverse ++ "^M$\n".toList
          | r => r.reverse ++ ['$', '\n']
      | _ => l
    if has "b" then Lines.numbered 1 (ls.map fun l => (shown l, l ≠ ['\n']))
    else if has "n" then Lines.numbered 1 (ls.map (shown ·, true))
    else (ls.map shown).flatten

def tac (args : List Text) : Script Nat :=
  filterEach (fun p e => "tac: ".toList ++ (if e = .isADirectory then
      p ++ ": read error: ".toList else "failed to open ".toList ++ quoted p ++
      " for reading: ".toList) ++ e.description) (optionsOf "s" args).2 Lines.reversed

def rev (args : List Text) : Script Nat :=
  filterEach (fun p e => "rev: cannot open ".toList ++ p ++ ": ".toList ++ e.description) args
    fun t => (endedLines t).flatMap fun l =>
      if l.getLast? = some '\n' then l.dropLast.reverse ++ ['\n'] else l.reverse

def nl (args : List Text) : Script Nat :=
  let (opts, files) := optionsOf "bdfhilnsvw" args
  let width := ((opts.lookup 'w').bind Text.numeral?).getD 6
  let start := ((opts.lookup 'v').bind Text.numeral?).getD 1
  let separator := (opts.lookup 's').getD ['\t']
  filter (plainComplaint "nl") files fun t =>
    Lines.numberedIndented (opts.lookup 'b' = some ['a']) width separator start (lines t)

def sort (args : List Text) : Script Nat := do
  let (opts, files) := optionsOf "ktoS" args
  let has (c : Char) : Bool := opts.any (·.1 = c)
  let plain : Lines.Key :=
    { numeric := has 'n', reversed := has 'r', folded := has 'f', skipsBlanks := has 'b' }
  let keys := (opts.filter (·.1 = 'k')).filterMap fun o => Lines.Key.read? plain o.2
  let order : Lines.Order := {
    keys := if keys.isEmpty then [plain] else keys
    separator := (opts.lookup 't').bind List.head?
    last := if has 'u' || has 's' then none else some (has 'r') }
  let (found, failed) ← operands (fun p e => "sort: ".toList ++ (if e = .isADirectory then
    "read failed: ".toList else "cannot read: ".toList) ++ p ++ ": ".toList ++ e.description) files
  if failed then return 2
  let out := Lines.sorted order (has 'u') (unlines (found.flatMap fun x => lines x.2))
  match opts.lookup 'o' with
  | none =>
    say out
    return 0
  | some p =>
    let s ← get
    match ← changeFiles (·.write? s.cwd (toPath p) (toBytes out)) with
    | .ok _ => return 0
    | .error e =>
      protest "sort".toList ("open failed: ".toList ++ p ++ ": ".toList ++ e.description)
      return 2

def uniq (args : List Text) : Script Nat := do
  let (opts, files) := optionsOf "fsw" args
  let has (c : Char) : Bool := opts.any (·.1 = c)
  let number? (c : Char) : Option Nat := (opts.lookup c).bind Text.numeral?
  let key (l : Text) : Text :=
    let l := ((Lines.fieldsOf none l).drop ((number? 'f').getD 0)).flatten.drop
      ((number? 's').getD 0)
    let l := match number? 'w' with
      | some n => l.take n
      | none => l
    if has 'i' then l.map Char.toLower else l
  filter (plainComplaint "uniq") (files.take 1)
    (Lines.distinct key (has 'c') (has 'd') (has 'u'))

/-- The arguments of `head` and `tail`, where a number after a first dash counts lines. -/
def extentArgs : List Text → List Text
  | ('-' :: c :: r) :: rest => (if c.isDigit then "-n".toList ++ c :: r else '-' :: c :: r) :: rest
  | args => args

/-- Writes a part of each operand, under its name if there are several. -/
def excerpts (program : String) (standard : Lines.Extent) (read : Text → Lines.Extent)
    (args : List Text) : Script Nat := do
  let (opts, files) := optionsOf "nc" (extentArgs args)
  let byBytes := opts.any (·.1 = 'c')
  let given := (opts.filter fun o => o.1 = 'n' || o.1 = 'c').getLast?.map Prod.snd
  let signless (t : Text) : Text := match t with
    | '-' :: r | '+' :: r => r
    | r => r
  match given.filter fun t => (Text.numeral? (signless t)).isNone with
  | some bad =>
    protest program.toList ("invalid number of ".toList ++
      (if byBytes then "bytes: " else "lines: ").toList ++ quoted bad)
    return 1
  | none => pure ()
  let extent := (given.map read).getD standard
  let part (t : Text) : Text :=
    if byBytes then extent.take t else (extent.take (endedLines t)).flatten
  let s ← get
  let (found, failed) ← operands (openingComplaint program) files
  /- Of a file that is the standard input no more is taken than what is written. -/
  if (s.source 0).fromFile && extent matches .first _ then
    if files.isEmpty || files.contains ['-'] then
      set ((← get).setInput (s.input.drop (part s.input).length))
  let pieces := found.map fun (name, t) =>
    let body := part t
    if 1 < files.length then
      "==> ".toList ++ (if name = ['-'] then "standard input".toList else name) ++
        " <==\n".toList ++ body
    else body
  say (Text.joinWith '\n' pieces)
  return statusOf failed

def head (args : List Text) : Script Nat :=
  excerpts "head" (.first 10) (fun value => match value with
    | '-' :: r => .butLast ((Text.numeral? r).getD 0)
    | r => .first ((Text.numeral? r).getD 10)) args

def tail (args : List Text) : Script Nat :=
  excerpts "tail" (.last 10) (fun value => match value with
    | '+' :: r => .starting ((Text.numeral? r).getD 1)
    | '-' :: r => .last ((Text.numeral? r).getD 10)
    | r => .last ((Text.numeral? r).getD 10)) args

/-- A row of counts, each brought to a width. -/
def countRow (width : Nat) (shown : List Nat) (name : Text) : Text :=
  Text.joinWith ' ' (shown.map fun n => padLeft width (Text.ofNat n)) ++
    (if name.isEmpty then [] else ' ' :: name) ++ ['\n']

def wc (args : List Text) : Script Nat := do
  let (opts, files) := optionsOf "" args
  let has (c : Char) : Bool := opts.any (·.1 = c)
  let select (x : Lines.Counts) : List Nat :=
    if opts.isEmpty then [x.lines, x.words, x.bytes]
    else (if has 'l' then [x.lines] else []) ++ (if has 'w' then [x.words] else []) ++
      (if has 'c' || has 'm' then [x.bytes] else []) ++ (if has 'L' then [x.width] else [])
  let s ← get
  let (found, failed) ← operands (plainComplaint "wc") files
  let total := found.foldl (fun n x => n + x.2.length) 0
  let width :=
    if files.length ≤ 1 && (select {}).length = 1 then 1
    else
      let regular := !files.isEmpty && !files.any fun p =>
        p = ['-'] || (s.node? p).any FileNode.isDirectory
      let digits := (Text.ofNat total).length
      if regular || (s.source 0).fromFile then digits else max 7 digits
  say (found.flatMap fun (name, t) =>
    countRow width (select (.ofText t)) (if files.isEmpty then [] else name))
  if 1 < files.length then
    let all : Lines.Counts := found.foldl (fun n x => n.add (.ofText x.2)) {}
    say (countRow width (select all) "total".toList)
  return statusOf failed

def tr (args : List Text) : Script Nat := do
  let (opts, sets) := optionsOf "" args
  let has (c : Char) : Bool := opts.any (·.1 = c)
  let set (i : Nat) : List Char := match sets[i]? with
    | some t => Lines.charSet (t.length + 1) t
    | none => []
  if sets.isEmpty then
    misuse "tr" "missing operand".toList
  else if sets.length = 1 && !has 'd' && !has 's' then
    misuse "tr" ("missing operand after ".toList ++ quoted (sets.headD []) ++
      "\nTwo strings must be given when translating.".toList)
  else
    let complement := has 'c' || has 'C'
    let inFirst (c : Char) : Bool := (set 0).contains c != complement
    let t ← takeInput
    if has 'd' then
      let t := t.filter fun c => !inFirst c
      say (if has 's' then Lines.squeezed (set 1).contains t else t)
    else if sets.length = 1 then say (Lines.squeezed inFirst t)
    else
      let t := if complement then t.map fun c => if inFirst c then (set 1).getLastD c else c
        else Lines.translated (set 0) (set 1) t
      say (if has 's' then Lines.squeezed (set 1).contains t else t)
    return 0

def cut (args : List Text) : Script Nat := do
  let (opts, files) := optionsOf "dfcb" args
  let separator := ((opts.lookup 'd').bind List.head?).getD '\t'
  let line (l : Text) : Option Text := match opts.lookup 'f' with
    | some list => Lines.fields separator (Lines.rangesOf list) (opts.any (·.1 = 's')) l
    | none =>
      let list := ((opts.lookup 'c').or (opts.lookup 'b')).getD []
      some (Lines.chosen (Lines.rangesOf list) l)
  if opts.all fun o => o.1 ≠ 'f' && o.1 ≠ 'c' && o.1 ≠ 'b' then
    return ← misuse "cut" "you must specify a list of bytes, characters, or fields".toList
  filter (plainComplaint "cut") files fun t => unlines ((lines t).filterMap line)

/-- Writes what its standard input cannot show in base sixty-four. -/
def base64 (args : List Text) : Script Nat :=
  filter (plainComplaint "base64") (optionsOf "w" args).2 fun t =>
    if t.isEmpty then [] else Lines.wrapped 76 (t.length + 1) (Lines.base64 t) ++ ['\n']

/-- Reads a decimal: its digits as one integer, and how many of them are behind the point. -/
def decimal? (t : Text) : Option (Int × Nat) := do
  let (negative, t) := match t with
    | '-' :: r => (true, r)
    | '+' :: r => (false, r)
    | r => (false, r)
  let whole := t.takeWhile Char.isDigit
  let part ← match t.drop whole.length with
    | [] => some []
    | '.' :: r => if r.all Char.isDigit then some r else none
    | _ => none
  let n ← Text.numeral? (whole ++ part)
  return (if negative then -Int.ofNat n else Int.ofNat n, part.length)

/-- An integer as a decimal with some digits behind the point. -/
def decimalText (places : Nat) (n : Int) : Text :=
  let digits := Text.ofNat n.natAbs
  let digits := List.replicate (places + 1 - digits.length) '0' ++ digits
  let whole := digits.take (digits.length - places)
  (if n < 0 then ['-'] else []) ++ whole ++
    if places = 0 then [] else '.' :: digits.drop (digits.length - places)

/-- A decimal with zeros up to a width. -/
def zeroFilled (width : Nat) (t : Text) : Text :=
  let zeros := List.replicate (width - t.length) '0'
  match t with
  | '-' :: r => '-' :: zeros ++ r
  | t => zeros ++ t

/-- The options of `seq`: the separator, and whether all numbers have the same width. -/
def seqOptions (separator : Text) (wide : Bool) : Nat → List Text → Text × Bool × List Text
  | limit + 1, ['-', 's'] :: t :: rest => seqOptions t wide limit rest
  | limit + 1, ('-' :: 's' :: t) :: rest => seqOptions t wide limit rest
  | limit + 1, ['-', 'w'] :: rest => seqOptions separator true limit rest
  | _, ['-', '-'] :: rest => (separator, wide, rest)
  | _, args => (separator, wide, args)

/-- Writes the numbers from one to another. -/
def seq (args : List Text) : Script Nat := do
  let (separator, wide, args) := seqOptions ['\n'] false args.length args
  match args with
  | [] => return ← misuse "seq" "missing operand".toList
  | _ :: _ :: _ :: extra :: _ =>
    return ← misuse "seq" ("extra operand ".toList ++ quoted extra)
  | _ => pure ()
  match args.find? fun t => (decimal? t).isNone with
  | some bad =>
    return ← misuse "seq" ("invalid floating point argument: ".toList ++ quoted bad)
  | none => pure ()
  let numbers := args.filterMap decimal?
  let (first, step, last) : (Int × Nat) × (Int × Nat) × (Int × Nat) := match numbers with
    | [b] => ((1, 0), (1, 0), b)
    | [a, b] => (a, (1, 0), b)
    | a :: d :: b :: _ => (a, d, b)
    | [] => ((1, 0), (1, 0), (0, 0))
  if step.1 = 0 then
    return ← misuse "seq" ("invalid Zero increment value: ".toList ++
      quoted (args.getD 1 []))
  let places := max first.2 step.2
  let common := max places last.2
  let scaled (n : Int × Nat) : Int := n.1 * Int.ofNat (Nat.pow 10 (common - n.2))
  let count := min maxDemand ((scaled last - scaled first) / scaled step + 1).toNat
  let texts := (List.range count).map fun i =>
    decimalText places ((scaled first + scaled step * Int.ofNat i) /
      Int.ofNat (Nat.pow 10 (common - places)))
  let bound (n : Int × Nat) : Nat := (decimalText places (scaled n /
    Int.ofNat (Nat.pow 10 (common - places)))).length
  let width := max (bound first) (bound last)
  let texts := if wide then texts.map (zeroFilled width) else texts
  unless texts.isEmpty do say ((texts.intersperse separator).flatten ++ ['\n'])
  return 0

end Program

end LiveLine.Shell
