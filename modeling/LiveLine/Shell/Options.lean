import LiveLine.Shell.Lines
import LiveLine.Shell.State

/-!
# Options of a shell

The settings that a shell is called with or that `set` changes: each has a letter or a name or both.
-/

namespace LiveLine.Shell

/-- The options by their names. -/
def optionNames : List (String × Option Char) :=
  [("errexit", 'e'), ("noglob", 'f'), ("ignoreeof", 'I'), ("interactive", 'i'), ("monitor", 'm'),
    ("noexec", 'n'), ("stdin", 's'), ("xtrace", 'x'), ("verbose", 'v'), ("vi", 'V'), ("emacs", 'E'),
    ("noclobber", 'C'), ("allexport", 'a'), ("notify", 'b'), ("nounset", 'u'), ("privileged", 'p'),
    ("nolog", none), ("debug", none)]

/-- The letters that a shell takes only when it is called. -/
def callLetters : List Char := ['c', 'l']

/-- What some arguments ask for: options to set or to clear, and a list of all options, either for
reading or as commands. -/
inductive OptionChange where
  | turn (on : Bool) (letters : List Char)
  | list (asCommands : Bool)
  deriving DecidableEq, Repr

namespace OptionChange

/-- The change that a name after `-o` or `+o` stands for. -/
def named? (on : Bool) (name : Text) : Except Text OptionChange :=
  match optionNames.lookup (String.ofList name) with
  | some letter => .ok (.turn on letter.toList)
  | none => .error ("Illegal option -o ".toList ++ name)

/-- Reads the letters of one argument. An `o` takes a name from the arguments that follow. -/
def ofLetters (called on : Bool) : Text → List Text → Except Text (List OptionChange × List Text)
  | [], rest => .ok ([], rest)
  | 'o' :: letters, rest => do
    let first ← match rest with
      | [] => pure (.list (!on))
      | name :: _ => named? on name
    let (changes, rest) ← ofLetters called on letters (rest.drop 1)
    return (first :: changes, rest)
  | c :: letters, rest => do
    if !(optionNames.any (·.2 = some c) || called && callLetters.contains c) then
      throw ("Illegal option -".toList ++ [c])
    let (changes, rest) ← ofLetters called on letters rest
    return (.turn on [c] :: changes, rest)

/-- Reads the options among arguments, and what follows them if anything does. -/
def read (called : Bool) : Nat → List Text →
    Except Text (List OptionChange × Option (List Text))
  | _, [] => .ok ([], none)
  | 0, args => .ok ([], some args)
  | limit + 1, arg :: rest =>
    match arg with
    | ['-', '-'] => .ok ([], some rest)
    | ['-'] => .ok (if called then [] else [.turn false ['x', 'v']],
        if rest.isEmpty then none else some rest)
    | sign :: letters =>
      if sign = '-' || sign = '+' then do
        let (changes, rest) ← ofLetters called (sign = '-') letters rest
        let (more, operands) ← read called limit rest
        return (changes ++ more, operands)
      else .ok ([], some (arg :: rest))
    | [] => .ok ([], some (arg :: rest))

/-- The list of all options. -/
def listing (asCommands : Bool) (on : List Char) : Text :=
  let isOn (letter : Option Char) : Bool := letter.any on.contains
  if asCommands then
    unlines (optionNames.map fun o =>
      (if isOn o.2 then "set -o ".toList else "set +o ".toList) ++ o.1.toList)
  else
    unlines ("Current option settings".toList :: optionNames.map fun o =>
      o.1.toList ++ List.replicate (16 - o.1.length) ' ' ++
        (if isOn o.2 then "on".toList else "off".toList))

/-- The letters of the options that are on, in the order in which the shell tells them. -/
def letters (on : List Char) : List Char :=
  (optionNames.filterMap fun o => o.2.filter on.contains).reverse

/-- Makes a change. -/
def make : OptionChange → Script Unit
  | turn on letters => modify fun s =>
    let rest := s.options.filter fun c => !letters.contains c
    { s with options := if on then rest ++ letters else rest }
  | list asCommands => do say (listing asCommands (← get).options)

end OptionChange

end LiveLine.Shell
