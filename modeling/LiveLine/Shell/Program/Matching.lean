import LiveLine.Shell.Calculation
import LiveLine.Shell.Program.Operands
import LiveLine.Shell.StreamEdit.Reader

/-!
# Programs that match texts

Searching in lines, editing them, and calculations.
-/

namespace LiveLine.Shell

namespace Program

/-- What is searched for: one of some expressions or texts. -/
def searchFor (has : Char → Bool) (patterns : List Text) : Except Regex.Fault Search := do
  let xs ← patterns.mapM fun p =>
    if has 'F' then pure (Regex.ofLiteral p) else (Regex.read (has 'E') p).map Prod.fst
  let x := match xs with
    | [] => Regex.nothing
    | x :: rest => rest.foldl Regex.either x
  return {
    regex := if has 'i' then x.ignoringCase else x
    reach := if has 'x' then .whole else if has 'w' then .word else .some
    inverted := has 'v' }

/-- Writes the lines in which something is found. -/
def grep (args : List Text) : Script Nat := do
  let (opts, rest) := optionsOf "emABC" args
  let has (c : Char) : Bool := opts.any (·.1 = c)
  let given := opts.filterMap fun o => if o.1 = 'e' then some o.2 else none
  let (patterns, files) := if given.isEmpty then (rest.take 1, rest.drop 1) else (given, rest)
  if patterns.isEmpty then
    write 2 "Usage: grep [OPTION]... PATTERNS [FILE]...\n".toList
    write 2 "Try 'grep --help' for more information.\n".toList
    return 2
  match searchFor has (patterns.flatMap (Text.splitOn '\n')) with
  | .error f =>
    protest "grep".toList f.description
    return 2
  | .ok search =>
    let s ← get
    let readable := files.filter fun p => !has 's' || p = ['-'] || (s.read? p).toOption.isSome
    let (found, failed) ← if readable.isEmpty && !files.isEmpty then pure ([], true)
      else operands (plainComplaint "grep") readable
    let failed : Bool := failed || readable.length < files.length
    let most := (opts.lookup 'm').bind Text.numeral?
    let hits := found.map fun (name, t) =>
      let ls := ((lines t).zipIdx 1).filter fun (l : Text × Nat) => search.finds l.1
      (if name = ['-'] then "(standard input)".toList else name,
        (most.map fun n => ls.take n).getD ls)
    let any := hits.any fun h => !h.2.isEmpty
    unless has 'q' do
      for (name, ls) in hits do
        let named : Bool := (1 < files.length || has 'H') && !has 'h'
        let label : Text := if named then name ++ [':'] else []
        if has 'l' then (unless ls.isEmpty do say (name ++ ['\n']))
        else if has 'L' then (unless !ls.isEmpty do say (name ++ ['\n']))
        else if has 'c' then say (label ++ Text.ofNat ls.length ++ ['\n'])
        else
          let parts (l : Text) : List Text :=
            if !has 'o' then [l] else if search.inverted then [] else search.found l
          say (ls.flatMap fun (l, n) =>
            let lead := label ++ if has 'n' then Text.ofNat n ++ [':'] else []
            unlines ((parts l).map (lead ++ ·)))
    return if failed && !(any && has 'q') then 2 else if any then 0 else 1

/-- Edits texts by a script, each of them in its place or all of them as one. -/
def sed (args : List Text) : Script Nat := do
  let inPlace : Bool := args.any ("-i".toList.isPrefixOf ·)
  let (opts, rest) := optionsOf "e" (args.filter fun a => !"-i".toList.isPrefixOf a)
  let has (c : Char) : Bool := opts.any (·.1 = c)
  let given := opts.filterMap fun o => if o.1 = 'e' then some o.2 else none
  let (script, files) := match given, rest with
    | [], t :: files => (t, files)
    | given, files => (Text.joinWith '\n' given, files)
  match StreamEdit.read (has 'E' || has 'r') script with
  | .error (message, status) =>
    protest "sed".toList message
    return status
  | .ok edits =>
    let complaint (p : Text) (e : FileError) : Text :=
      if e = .isADirectory then
        if inPlace then "sed: couldn't edit ".toList ++ p ++ ": not a regular file".toList
        else "sed: read error on ".toList ++ p ++ ": ".toList ++ e.description
      else "sed: can't read ".toList ++ p ++ ": ".toList ++ e.description
    let s ← get
    let (found, failed) ← operands complaint files
    let hitsDirectory : Bool := files.any fun p => (s.node? p).any FileNode.isDirectory
    let failure := if hitsDirectory then 4 else if failed then 2 else 0
    if inPlace then
      for (p, t) in found do
        let (out, _) := StreamEdit.run (has 'n') edits t
        let _ ← changeFiles (·.write? s.cwd (toPath p) (toBytes out))
      return failure
    else
      let texts := if has 's' then found.map Prod.snd else [found.flatMap Prod.snd]
      let mut status := failure
      for t in texts do
        let (out, n) := StreamEdit.run (has 'n') edits t
        say out
        if n ≠ 0 then status := n
      return status

/-- Writes the value of an expression. -/
def expr (args : List Text) : Script Nat := do
  let words := if args.head? = some "--".toList then args.drop 1 else args
  if words.isEmpty then
    let _ ← misuse "expr" "missing operand".toList
    return 2
  match Calculation.valueOf words with
  | .ok t =>
    say (t ++ ['\n'])
    return statusOf (Calculation.isNull t)
  | .error message =>
    protest "expr".toList message
    return 2

end Program

end LiveLine.Shell
