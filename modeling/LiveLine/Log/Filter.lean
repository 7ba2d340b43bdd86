import LiveLine.Log
import LiveLine.Text.Alphanumeric
import LiveLine.Text.Blank
import LiveLine.Text.Utf8

/-!
# Filters of the log

A filter is a list of directives between commas, such as `live=debug` or `config[{path}]=info`.
The most specific directive that applies to a record decides how severe the record has to be.
-/

namespace LiveLine

namespace Log

/-- What decides about some records. -/
structure Directive where
  /-- What the targets begin with. -/
  target : Option Text := none
  /-- The span that the records are in. No record is in a span. -/
  span : Option Text := none
  /-- The field that the records have, and the value that it has in their span. -/
  field : Option (Text × Option Text) := none
  /-- The least severe level that is written, or nothing at all. -/
  limit : Option Level := some .trace
  deriving DecidableEq, Repr

namespace Directive

/-- How a directive is ill formed. -/
inductive Fault where
  | form
  | limit
  deriving DecidableEq, Repr

def Fault.message : Fault → Text
  | form => "invalid filter directive".toList
  | limit => ("error parsing level filter: expected one of \"off\", \"error\", \"warn\", " ++
      "\"info\", \"debug\", \"trace\", or a number 0-5").toList

/-- The limit with a number from zero, which lets nothing pass. -/
def limitOfRank? : Nat → Option (Option Level)
  | 0 => some none
  | n + 1 => (Level.all.find? (·.rank = n)).map some

/-- The limit that a text names or numbers. -/
def limit? (t : Text) : Option (Option Level) :=
  match (Text.count? t).bind limitOfRank? with
  | some limit => some limit
  | none =>
    if t.map Char.toUpper = "OFF".toList then some none else (Level.ofName? t).map some

/-- The limit after the sign of equality, where nothing stands for all levels. -/
def limitAfter (t : Text) : Except Fault (Option Level) :=
  if t.isEmpty then .ok (some .trace)
  else match limit? t with
    | some limit => .ok limit
    | none => .error .limit

/-- A directive without a sign of equality: a limit or else a target. -/
def ofWord (t : Text) : Directive :=
  match limit? t with
  | some limit => { limit }
  | none => { target := some t }

/-- Reads a field in braces, with its value if it has one. -/
def fieldOf (t : Text) : Text × Option Text :=
  match Text.splitOn '=' t with
  | name :: value :: _ => (name, some value)
  | _ => (t, none)

/-- How far a directive is read, with the position where the part that is being read begins. -/
inductive Stage where
  | start
  | name (first : Nat)
  | span (first : Nat)
  | field (first : Nat)
  | braced
  | bracketed
  | limit (first : Nat)
  deriving DecidableEq, Repr

/-- Takes the character at a position. `part` gives what stands between two positions. -/
def advance (part : Nat → Nat → Text) :
    Stage × Directive → Char × Nat → Except Fault (Stage × Directive)
  | (.start, d), (c, i) =>
    if c = '[' then .ok (.span (i + 1), d)
    else if isAlphanumeric c || c = '-' || c = ':' || c = '_' then .ok (.name i, d)
    else .error .form
  | (.name first, d), (c, i) =>
    if c = '=' then .ok (.limit (i + 1), { d with target := some (part first i) })
    else if c = '[' then .ok (.span (i + 1), { d with target := some (part first i) })
    else .ok (.name first, d)
  | (.span first, d), (c, i) =>
    if c = ']' then .ok (.bracketed, { d with span := some (part first i) })
    else if c = '\x7b' then
      .ok (.field (i + 1), { d with span := if i = first then none else some (part first i) })
    else .ok (.span first, d)
  | (.field first, d), (c, i) =>
    if c ≠ '\x7d' then .ok (.field first, d)
    else if i = first then .error .form
    else .ok (.braced, { d with field := some (fieldOf (part first i)) })
  | (.braced, d), (c, _) => if c = ']' then .ok (.bracketed, d) else .error .form
  | (.bracketed, d), (c, i) => if c = '=' then .ok (.limit (i + 1), d) else .error .form
  | (.limit first, d), _ => .ok (.limit first, d)

/-- Reads a directive. Where its parts begin and end is counted in the text without the blanks
around it, but they are taken from the text as it is. -/
def read (t : Text) : Except Fault Directive := do
  let part (first stop : Nat) : Text := (t.drop first).take (stop - first)
  match ← t.trim.zipIdx.foldlM (advance part) (.start, {}) with
  | (.name first, _) => return ofWord (t.drop first)
  | (.limit first, d) => return { d with limit := ← limitAfter (t.drop first) }
  | (.bracketed, d) => return d
  | _ => throw .form

/-- Whether a directive can decide about records outside of all spans. -/
def isStatic (d : Directive) : Bool := d.span.isNone && !d.field.any fun f => f.2.isSome

/-- Whether a directive applies to a record. -/
def applies (d : Directive) (r : Record) : Bool :=
  d.isStatic && (d.target.all fun t => t.isPrefixOf r.target) && d.field.all fun f =>
    r.hasField f.1

/-- How specific a directive is: the length of its target, and then whether it asks for a field. -/
def weight (d : Directive) : Nat :=
  2 * (match d.target with
    | some t => t.byteLength + 1
    | none => 0) + (if d.field.isSome then 1 else 0)

/-- Whether a directive gives way to another one that applies to the same record and stands after
it. Of two that are equally specific, the one with the later field decides. -/
def yields (d later : Directive) : Bool :=
  d.weight < later.weight || (d.weight = later.weight &&
    Text.notAfter ((d.field.map Prod.fst).getD []) ((later.field.map Prod.fst).getD []))

end Directive

/-- A filter: the directives in the order in which they are given. -/
abbrev Filter := List Directive

namespace Filter

/-- What stands between the commas. -/
def parts (t : Text) : List Text := (Text.splitOn ',' t).filter fun part => !part.isEmpty

/-- Reads a filter from the directives that are well formed. Without any of them, errors pass. -/
def read (t : Text) : Filter :=
  let directives := (parts t).filterMap fun part => (Directive.read part).toOption
  if directives.isEmpty then [{ limit := some .error }] else directives

/-- What is said about the directives that are ill formed, a line for each. -/
def complaints (t : Text) : Text :=
  (parts t).flatMap fun part => match Directive.read part with
    | .ok _ => []
    | .error e => "ignoring \x60".toList ++ part ++ "\x60: ".toList ++ e.message ++ ['\n']

/-- The directive that decides about a record. -/
def deciding? (f : Filter) (r : Record) : Option Directive :=
  (f.filter (·.applies r)).foldl (fun best d => match best with
    | some b => if b.yields d then some d else some b
    | none => some d) none

/-- Whether a record is written. -/
def passes (f : Filter) (r : Record) : Bool :=
  ((f.deciding? r).bind Directive.limit).any fun limit => r.level.rank ≤ limit.rank

end Filter

end Log

end LiveLine
