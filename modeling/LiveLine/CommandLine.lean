import LiveLine.Files.Path

/-!
# The command line

A script and four options. Arguments are taken in order, and the first thing that is wrong or that
ends the program decides.
-/

namespace LiveLine

/-- What the program is called with. -/
structure Arguments where
  script : Path
  /-- The line that the cursor is pinned to. -/
  line : Option Nat := none
  /-- The configuration file to take instead of the one that is discovered. -/
  config : Option Path := none
  /-- Whether every save of the script is evaluated. -/
  watch : Bool := false
  deriving DecidableEq, Repr

namespace Arguments

/-- What arguments ask for. -/
inductive Request where
  | evaluate (a : Arguments)
  | version
  | help
  /-- The arguments do not fit. -/
  | misuse
  deriving DecidableEq, Repr

/-- The version of the program. -/
def version : Text := "oxlive 0.0.1".toList

/-- How the program is called. -/
def usage : Text := "Usage: oxlive [OPTIONS] <SCRIPT>".toList

/-- What the program is for, and what its arguments are. -/
def description : List Text :=
  ["Inline results for the line you are on".toList, [], usage, [],
    "Arguments:".toList,
    "  <SCRIPT>  Script to evaluate".toList, [],
    "Options:".toList,
    "      --line <LINE>      Cursor line (0-based). Defaults to the last non-blank line".toList,
    ("      --config <CONFIG>  Optional configuration file path (overrides discovery of " ++
      "\x60oxlive.toml\x60)").toList,
    "      --watch            Keep running and re-evaluate on every save".toList,
    "  -h, --help             Print help".toList,
    "  -V, --version          Print version".toList]

/-- Arguments so far; the script may still be missing. -/
structure Partial where
  script : Option Path := none
  line : Option Nat := none
  config : Option Path := none
  watch : Bool := false

/-- The options that take a value. -/
inductive Valued where
  | line
  | config

/-- Takes the value of an option, which may be given only once. -/
def Partial.take? (p : Partial) (o : Valued) (value : Text) : Option Partial :=
  match o with
  | .line =>
    if p.line.isSome then none else (Text.count? value).map fun n => { p with line := some n }
  | .config =>
    if p.config.isSome || value.isEmpty then none else some { p with config := some value }

/-- Takes the script, of which there is one. -/
def Partial.takeScript? (p : Partial) (script : Text) : Option Partial :=
  if p.script.isSome || script.isEmpty then none else some { p with script := some script }

/-- All arguments are taken: there has to be a script. -/
def Partial.finish (p : Partial) : Request :=
  match p.script with
  | some script => .evaluate { script, line := p.line, config := p.config, watch := p.watch }
  | none => .misuse

/-- Takes arguments that are no options. -/
def takeScripts : Partial → List Text → Request
  | p, [] => p.finish
  | p, t :: ts => match p.takeScript? t with
    | some p => takeScripts p ts
    | none => .misuse

/-- The option that takes a value, and the value after an equals sign if there is one. -/
def valued? (t : Text) : Option (Valued × Option Text) :=
  let name := t.takeWhile (· ≠ '=')
  let value := match t.drop name.length with
    | '=' :: v => some v
    | _ => none
  if name = "--line".toList then some (.line, value)
  else if name = "--config".toList then some (.config, value)
  else none

/-- Whether an argument stands for itself, and does not begin another option. -/
def isValue : Text → Bool
  | '-' :: _ :: _ => false
  | _ => true

/-- Takes arguments in order. -/
def takeAll : Nat → Partial → List Text → Request
  | 0, _, _ => .misuse
  | _, p, [] => p.finish
  | limit + 1, p, t :: ts =>
    let goOn (p : Option Partial) (ts : List Text) : Request := match p with
      | some p => takeAll limit p ts
      | none => .misuse
    if t = "--".toList then takeScripts p ts
    else if isValue t then goOn (p.takeScript? t) ts
    else match valued? t with
      | some (o, some value) => goOn (p.take? o value) ts
      | some (o, none) => match ts with
        | value :: rest => if isValue value then goOn (p.take? o value) rest else .misuse
        | [] => .misuse
      | none =>
        if t = "--watch".toList then
          if p.watch then .misuse else takeAll limit { p with watch := true } ts
        else if t = "--version".toList || "-V".toList.isPrefixOf t then .version
        else if t = "--help".toList || "-h".toList.isPrefixOf t then .help
        else .misuse

/-- What the arguments of the program ask for. -/
def read (ts : List Text) : Request := takeAll (ts.length + 1) {} ts

end Arguments

end LiveLine
