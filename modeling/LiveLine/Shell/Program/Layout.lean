import LiveLine.Shell.Digest
import LiveLine.Shell.Layout
import LiveLine.Shell.Program.Operands

/-!
# Programs on columns, bytes and pairs of texts
-/

namespace LiveLine.Shell

namespace Program

/-- The number that an option gives, or else a standard one; what is no number is told. -/
def measure (program what : String) (given : Option Text) (standard : Nat) :
    Script (Option Nat) := do
  match given with
  | none => return some standard
  | some t =>
    match (Text.numeral? t).filter (0 < ·) with
    | some n => return some n
    | none =>
      protest program.toList (what.toList ++ ": ".toList ++ quoted t)
      return none

def fold (args : List Text) : Script Nat := do
  let (opts, files) := optionsOf "w" (args.map fun a => match a with
    | '-' :: c :: r => if c.isDigit then "-w".toList ++ c :: r else a
    | a => a)
  let has (c : Char) : Bool := opts.any (·.1 = c)
  match ← measure "fold" "invalid number of columns" (opts.lookup 'w') 80 with
  | none => return 1
  | some width =>
    let f : Layout.Fold := { width, bySpaces := has 's', byBytes := has 'b' }
    filterEach (plainComplaint "fold") files f.apply

def expand (args : List Text) : Script Nat := do
  let (opts, files) := optionsOf "t" args
  match ← measure "expand" "tab size contains invalid character(s)" (opts.lookup 't') 8 with
  | none => return 1
  | some width =>
    filter (plainComplaint "expand") files
      (Layout.expanded width (opts.any (·.1 = 'i')) 0 false)

def unexpand (args : List Text) : Script Nat := do
  let (opts, files) := optionsOf "t" args
  match ← measure "unexpand" "tab size contains invalid character(s)" (opts.lookup 't') 8 with
  | none => return 1
  | some width =>
    let all : Bool := opts.any fun o => o.1 = 'a' || o.1 = 't'
    filter (plainComplaint "unexpand") files (Layout.unexpanded width all 0 [] 0 false)

def paste (args : List Text) : Script Nat := do
  let (opts, files) := optionsOf "d" args
  let separators := match opts.lookup 'd' with
    | some t => if t.isEmpty then ['\x00'] else Lines.charSet (t.length + 1) t
    | none => ['\t']
  let (found, failed) ← operands (plainComplaint "paste") files
  let texts := found.map fun x => lines x.2
  if opts.any (·.1 = 's') then say (unlines (texts.map (Layout.joined separators 0)))
  else say (unlines (Layout.pasted separators texts))
  return statusOf failed

def od (args : List Text) : Script Nat := do
  let (opts, files) := optionsOf "AtNjw" args
  let has (c : Char) : Bool := opts.any (·.1 = c)
  let asked : Option Layout.Dump := match opts.lookup 't' with
    | some t => Layout.Dump.ofType? t
    | none =>
      let shorthand : List (Char × Char × Nat) :=
        [('c', 'c', 1), ('b', 'o', 1), ('x', 'x', 2), ('d', 'u', 2), ('o', 'o', 2), ('i', 'd', 4),
          ('s', 'd', 2), ('l', 'd', 8)]
      ((shorthand.find? fun x => has x.1).map Prod.snd |>.getD ('o', 2)) |> fun (c, n) =>
        Layout.Dump.of? c n
  match asked with
  | none =>
    protest "od".toList ("invalid type string ".toList ++ quoted ((opts.lookup 't').getD []))
    return 1
  | some dump =>
    let address (n : Nat) : Text := match opts.lookup 'A' with
      | some ['n'] => []
      | some ['x'] => Layout.numeral 16 6 n
      | some ['d'] => Layout.numeral 10 7 n
      | _ => Layout.numeral 8 7 n
    let skipped := ((opts.lookup 'j').bind Text.numeral?).getD 0
    let width := ((opts.lookup 'w').bind Text.numeral?).getD 16
    let (found, failed) ← operands (plainComplaint "od") files
    let t := (found.flatMap Prod.snd).drop skipped
    let t := match (opts.lookup 'N').bind Text.numeral? with
      | some n => t.take n
      | none => t
    say (dump.rows (has 'v') address (max 1 width) (t.length + 1) skipped none false t)
    return statusOf failed

/-! ## Checksums -/

/-- A program that writes a digest of each of its operands. -/
def digest (program : String) (f : Bytes → Bytes) (args : List Text) : Script Nat := do
  let (_, files) := optionsOf "" args
  let (found, failed) ← operands (plainComplaint program) files
  say (unlines (found.map fun (name, t) =>
    Digest.hex (f (toBytes t)) ++ "  ".toList ++ name))
  return statusOf failed

/-- The name of an operand in a row, nothing for the standard input without operands. -/
def rowEnd (files : List Text) (name : Text) : Text :=
  if files.isEmpty then [] else ' ' :: name

def cksum (args : List Text) : Script Nat := do
  let (found, failed) ← operands (plainComplaint "cksum") args
  say (unlines (found.map fun (name, t) => Text.ofNat (Digest.crc (toBytes t)) ++
    ' ' :: Text.ofNat t.length ++ rowEnd args name))
  return statusOf failed

def sum (args : List Text) : Script Nat := do
  let (_, files) := optionsOf "" args
  let (found, failed) ← operands (plainComplaint "sum") files
  say (unlines (found.map fun (name, t) =>
    Layout.numeral 10 5 (Digest.rotatedSum (toBytes t)) ++
      ' ' :: padLeft 5 (Text.ofNat ((t.length + 1023) / 1024)) ++ rowEnd files name))
  return statusOf failed

/-- The letters that stand for five bits. -/
def fiveBitLetters : List Char := "ABCDEFGHIJKLMNOPQRSTUVWXYZ234567".toList

/-- Bytes in base thirty-two, five at a time. -/
def inBase32 (t : Text) : Text :=
  let groups := (List.range ((t.length + 4) / 5)).map fun i => (t.drop (5 * i)).take 5
  groups.flatMap fun g =>
    let n := (List.range 5).foldl (fun n i => n * 256 + ((g[i]?).map Char.toNat).getD 0) 0
    let used := (8 * g.length + 4) / 5
    ((List.range 8).reverse.map fun i =>
      fiveBitLetters.getD (n / Nat.pow 32 i % 32) 'A').take used ++ List.replicate (8 - used) '='

def base32 (args : List Text) : Script Nat :=
  filter (plainComplaint "base32") (optionsOf "w" args).2 fun t =>
    if t.isEmpty then [] else Lines.wrapped 76 (2 * t.length + 8) (inBase32 t) ++ ['\n']

/-! ## Pairs of texts -/

/-- The operands of a program that compares two texts; a missing second one is told. -/
def pair (program : String) (files : List Text) : Script (Option (Text × Text)) := do
  match files with
  | [a, b] =>
    let (found, _) ← operands (plainComplaint program) [a, b]
    match found with
    | [x, y] => return some (x.2, y.2)
    | _ => return none
  | [a] =>
    let _ ← misuse program ("missing operand after ".toList ++ quoted a)
    return none
  | [] =>
    let _ ← misuse program "missing operand".toList
    return none
  | _ :: _ :: c :: _ =>
    let _ ← misuse program ("extra operand ".toList ++ quoted c)
    return none

/-- The lines of two sorted texts in three columns: those of the first, of the second, of both. -/
def merged : Nat → List Text → List Text → List (Nat × Text)
  | 0, _, _ => []
  | _, [], b => b.map (2, ·)
  | _, a, [] => a.map (1, ·)
  | limit + 1, a :: as, b :: bs =>
    if a = b then (3, a) :: merged limit as bs
    else if Text.notAfter a b then (1, a) :: merged limit as (b :: bs)
    else (2, b) :: merged limit (a :: as) bs

def comm (args : List Text) : Script Nat := do
  let (opts, files) := optionsOf "" args
  let hides (n : Nat) : Bool := opts.any fun o => o.1 = Nat.digitChar n
  match ← pair "comm" files with
  | none => return 1
  | some (a, b) =>
    let rows := merged (a.length + b.length + 1) (lines a) (lines b)
    let lead (n : Nat) : Text :=
      ((List.range n).drop 1).flatMap fun i => if hides i then [] else ['\t']
    say (unlines ((rows.filter fun r => !hides r.1).map fun r => lead r.1 ++ r.2))
    return 0

def cmp (args : List Text) : Script Nat := do
  let (opts, files) := optionsOf "" args
  let names := match files with
    | [a] => [a, ['-']]
    | files => files
  let silent : Bool := opts.any (·.1 = 's')
  match names with
  | a :: b :: _ =>
    let (found, _) ← operands (plainComplaint "cmp") [a, b]
    match found with
    | [x, y] =>
      let same := ((x.2.zip y.2).takeWhile fun p => p.1 = p.2).map Prod.fst
      let line := Text.ofNat (same.count '\n' + 1)
      if x.2 = y.2 then return 0
      else
        unless silent do
          if same.length < min x.2.length y.2.length then
            say (a ++ ' ' :: b ++ " differ: char ".toList ++ Text.ofNat (same.length + 1) ++
              ", line ".toList ++ line ++ ['\n'])
          else
            let short := if x.2.length < y.2.length then a else b
            let ended : Bool := same.getLast? = some '\n'
            protestLine ("cmp: EOF on ".toList ++ short ++
              if same.isEmpty then " which is empty".toList
              else " after byte ".toList ++ Text.ofNat same.length ++
                (if ended then ", line ".toList ++ Text.ofNat (same.count '\n')
                  else ", in line ".toList ++ line))
        return 1
    | _ => return 2
  | _ =>
    protest "cmp".toList "missing operand after 'cmp'".toList
    protest "cmp".toList "Try 'cmp --help' for more information.".toList
    return 2

/-- The length of a longest list that both of two lists contain in order, for each pair of ends. -/
def commonLengths (a b : List Text) : List (List Nat) :=
  a.foldr (fun x rows =>
    let below := rows.headD []
    let row := (List.range b.length).reverse.foldl (fun row j =>
      let right := row.headD 0
      let down := below.getD j 0
      (if b[j]? = some x then below.getD (j + 1) 0 + 1 else max right down) :: row) [0]
    row :: rows) [List.replicate (b.length + 1) 0]

/-- A place where two texts differ: what stands there in each, after how many lines. -/
structure Change where
  oldStart : Nat
  old : List Text
  newStart : Nat
  new : List Text

/-- The changes that lead from one list to another. `now` is the one being read. -/
def changesFrom : Nat → (i j : Nat) → (now : Change) → List Text → List Text → List Change
  | 0, _, _, _, _, _ => []
  | limit + 1, i, j, now, as, bs =>
    let closed : List Change := if now.old.isEmpty && now.new.isEmpty then [] else [now]
    match as, bs with
    | [], [] => closed
    | a :: as, [] => changesFrom limit (i + 1) j { now with old := now.old ++ [a] } as []
    | [], b :: bs => changesFrom limit i (j + 1) { now with new := now.new ++ [b] } [] bs
    | a :: as, b :: bs =>
      let common (x y : List Text) : Nat := ((commonLengths x y).headD []).headD 0
      if a = b then
        closed ++ changesFrom limit (i + 1) (j + 1) ⟨i + 1, [], j + 1, []⟩ as bs
      else if common as (b :: bs) < common (a :: as) bs then
        changesFrom limit i (j + 1) { now with new := now.new ++ [b] } (a :: as) bs
      else changesFrom limit (i + 1) j { now with old := now.old ++ [a] } as (b :: bs)

/-- A change as it is written, with the numbers of its lines. -/
def Change.text (c : Change) : Text :=
  let range (start : Nat) (ls : List Text) : Text :=
    match ls.length with
    | 0 => Text.ofNat start
    | 1 => Text.ofNat (start + 1)
    | n => Text.ofNat (start + 1) ++ ',' :: Text.ofNat (start + n)
  let kind := if c.old.isEmpty then 'a' else if c.new.isEmpty then 'd' else 'c'
  let shown (sign : Char) (ls : List Text) : Text := ls.flatMap fun l =>
    sign :: ' ' :: l ++ if l.getLast? = some '\n' then []
      else "\n\\ No newline at end of file\n".toList
  range c.oldStart c.old ++ kind :: range c.newStart c.new ++ '\n' :: shown '<' c.old ++
    (if kind = 'c' then "---\n".toList else []) ++ shown '>' c.new

def diff (args : List Text) : Script Nat := do
  let (opts, files) := optionsOf "" args
  match files with
  | [a, b] =>
    let (found, _) ← operands (plainComplaint "diff") [a, b]
    match found with
    | [x, y] =>
      if x.2 = y.2 then return 0
      else if opts.any (·.1 = 'q') then
        say ("Files ".toList ++ a ++ " and ".toList ++ b ++ " differ\n".toList)
      else
        let (old, new) := (endedLines x.2, endedLines y.2)
        let changes := changesFrom (old.length + new.length + 1) 0 0 ⟨0, [], 0, []⟩ old new
        say (changes.flatMap Change.text)
      return 1
    | _ => return 2
  | _ =>
    protest "diff".toList (match files with
      | [] => "missing operand after 'diff'".toList
      | _ :: _ :: c :: _ => "extra operand ".toList ++ quoted c
      | a :: _ => "missing operand after ".toList ++ quoted a)
    protest "diff".toList "Try 'diff --help' for more information.".toList
    return 2

end Program

end LiveLine.Shell
