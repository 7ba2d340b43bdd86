import LiveLine.Shell.Arithmetic
import LiveLine.Shell.Options
import LiveLine.Shell.Pattern
import LiveLine.Shell.State

/-!
# Expanding words

A word becomes a row of glyphs: its parameters, substitutions and arithmetic are replaced, and each
character remembers whether it is quoted. Glyphs are split into fields, and fields with patterns
are matched against files. Substitutions are run by the shell that is passed in.
-/

namespace LiveLine.Shell

inductive Glyph where
  /-- With `splits` a separator ends the field. -/
  | char (c : Char) (quoted splits : Bool)
  /-- Something quoted stands here, possibly empty. -/
  | solid
  /-- One field ends and the next begins. -/
  | gap
  deriving DecidableEq, Repr

/-- A field: each character and whether it is quoted. -/
abbrev Field := List (Char × Bool)

namespace Glyph

def ofText (quoted splits : Bool) (t : Text) : List Glyph := t.map fun c => char c quoted splits

/-- The text of glyphs that are not split. -/
def text (gs : List Glyph) : Text := gs.filterMap fun g => match g with
  | char c .. => some c
  | gap => some ' '
  | solid => none

/-- The glyphs as a pattern. -/
def pattern (gs : List Glyph) : Field := gs.filterMap fun g => match g with
  | char c quoted _ => some (c, quoted)
  | gap => some (' ', true)
  | solid => none

/-- Splits glyphs into fields. `current` is the field so far, backwards, and `present` tells
whether it counts even if it is empty. -/
def fieldsFrom (separators : Text) : (current : Field) → (present : Bool) → List Glyph → List Field
  | current, present, [] => if present || !current.isEmpty then [current.reverse] else []
  | current, _, solid :: gs => fieldsFrom separators current true gs
  | current, present, gap :: gs =>
    (if present || !current.isEmpty then [current.reverse] else []) ++
      fieldsFrom separators [] false gs
  | current, present, char c quoted splits :: gs =>
    if splits && separators.contains c then
      if isBlank c then
        (if present || !current.isEmpty then [current.reverse] else []) ++
          fieldsFrom separators [] false gs
      else current.reverse :: fieldsFrom separators [] false gs
    else fieldsFrom separators ((c, quoted) :: current) present gs
where
  isBlank (c : Char) : Bool := c = ' ' || c = '\t' || c = '\n'

end Glyph

namespace Field

def text (f : Field) : Text := f.map Prod.fst

/-- Whether a field has characters that make it a pattern. -/
def isPattern (f : Field) : Bool := f.any fun c => !c.2 && (c.1 = '*' || c.1 = '?' || c.1 = '[')

def globs (f : Field) : List Glob := Glob.ofChars (f.length + 1) f

/-- The parts of a field between slashes. -/
def parts : Field → List Field
  | [] => [[]]
  | (c, quoted) :: r =>
    if c = '/' then [] :: parts r
    else match parts r with
      | p :: ps => ((c, quoted) :: p) :: ps
      | [] => [[(c, quoted)]]

/-- The paths that the parts of a pattern lead to from a path. -/
def pathsFrom (s : State) : (before : Text) → List Field → List Text
  | before, [] => [before]
  | before, part :: rest =>
    let next (name : Text) : List Text :=
      pathsFrom s (before ++ name ++ (if rest.isEmpty then [] else ['/'])) rest
    if part.isPattern then
      let here := (s.place? (if before.isEmpty then ['.'] else before)).toOption
      let names := ((here.map s.files.names).getD []).map Shell.ofText
      let hidden : Bool := part.head?.any (·.1 = '.')
      let names := if hidden && here.isSome then ['.'] :: "..".toList :: names else names
      ((names.mergeSort Text.notAfter).filter fun n =>
        (hidden || n.head? ≠ some '.') && Glob.fits part.globs n).flatMap next
    else next part.text

/-- The paths that a field matches, or the field itself if there is none. -/
def paths (s : State) (f : Field) : List Text :=
  if f.isPattern && !s.options.contains 'f' then
    let found := (pathsFrom s [] f.parts).filter fun p => (s.node? p).isSome
    if found.isEmpty then [f.text] else found
  else [f.text]

end Field

/-- The value of a parameter other than the list of all positional ones. -/
def parameter? (s : State) (name : Text) : Option Text :=
  match name with
  | ['?'] => some (Text.ofNat s.status)
  | ['#'] => some (Text.ofNat s.positional.length)
  | ['$'] => some (Text.ofNat s.pid)
  | ['!'] => s.newest.map Text.ofNat
  | ['-'] => some (OptionChange.letters s.options)
  | ['0'] => some s.name
  | ['@'] | ['*'] =>
    if s.positional.isEmpty then none
    else some (Text.joinWith ((separators s).headD ' ') s.positional)
  | name =>
    match Text.numeral? name with
    | some n => s.positional[n - 1]?
    | none => value? s name

/-- The glyphs of a parameter as it is. -/
def plainGlyphs (s : State) (quoted : Bool) (name : Text) : List Glyph :=
  let each (separator : List Glyph) : List Glyph :=
    ((s.positional.map fun p => (if quoted then [.solid] else []) ++
      Glyph.ofText quoted (!quoted) p).intersperse separator).flatten
  if name = ['@'] then each [.gap]
  else if name = ['*'] && !quoted then each [.gap]
  else Glyph.ofText quoted (!quoted) ((parameter? s name).getD [])

/-- The text without what a pattern matches at its start. -/
def cutStart (longest : Bool) (p : List Glob) (t : Text) : Text :=
  let ends := (List.range (t.length + 1)).filter fun i => Glob.fits p (t.take i)
  match if longest then ends.getLast? else ends.head? with
  | some i => t.drop i
  | none => t

/-- The text without what a pattern matches at its end. -/
def cutEnd (longest : Bool) (p : List Glob) (t : Text) : Text :=
  let starts := (List.range (t.length + 1)).filter fun i => Glob.fits p (t.drop i)
  match if longest then starts.head? else starts.getLast? with
  | some i => t.take i
  | none => t

/-- Evaluates an expression and assigns what it assigns. -/
def compute (t : Text) : Script Int := do
  let s ← get
  match Arithmetic.evaluate (fun x => Arithmetic.ofVariable ((parameter? s x).getD [])) t with
  | .ok (n, assigned) =>
    for (x, m) in assigned.reverse do
      assignOrFail [] x (Arithmetic.numeral m.toInt)
    return n.toInt
  | .error .trap => throw (.killed 8)
  | .error (.illegal value) => fail ("Illegal number: ".toList ++ value)
  | .error .divisionByZero => failIn "division by zero"
  | .error (.expects what) => failIn ("expecting " ++ what)
where
  failIn (what : String) : Script Int :=
    fail ("arithmetic expression: ".toList ++ what.toList ++ ": \"".toList ++ t ++ ['"'])

/-- The glyphs of a word in place of a parameter: without quotes they are split. -/
def loosen (quoted : Bool) (gs : List Glyph) : List Glyph :=
  if quoted then gs
  else gs.map fun g => match g with
    | .char c false _ => .char c false true
    | g => g

mutual

/-- Expands the pieces of a word. -/
def expandAll (run : Text → Script Unit) : List Piece → Script (List Glyph)
  | [] => return []
  | p :: ps => do
    let gs ← expand run p
    return gs ++ (← expandAll run ps)

/-- Expands a piece of a word. -/
def expand (run : Text → Script Unit) : Piece → Script (List Glyph)
  | .literal quoted t =>
    return if quoted && t.isEmpty then [.solid] else Glyph.ofText quoted false t ++
      (if quoted then [.solid] else [])
  | .substitution quoted script => do
    let out ← capture (run script)
    return Glyph.ofText quoted (!quoted) (Text.dropTailWhile (· = '\n') out)
  | .arithmetic quoted expression => do
    let n ← compute (Glyph.text (← expandAll run expression))
    return Glyph.ofText quoted (!quoted) (Arithmetic.numeral n)
  | .parameter quoted name form => expandForm run quoted name form

/-- Expands what is taken of a parameter. -/
def expandForm (run : Text → Script Unit) (quoted : Bool) (name : Text) :
    Form → Script (List Glyph)
  | .plain => do
    let s ← get
    if (parameter? s name).isNone && s.options.contains 'u' && name ≠ ['@'] && name ≠ ['*'] then
      fail (name ++ ": parameter not set".toList)
    else return plainGlyphs s quoted name
  | .length => do
    return Glyph.ofText quoted (!quoted)
      (Text.ofNat ((parameter? (← get) name).getD []).length)
  | .orElse unset word => do
    let s ← get
    if (parameter? s name).any fun t => unset || !t.isEmpty then return plainGlyphs s quoted name
    else return loosen quoted (← expandAll run word)
  | .alternative unset word => do
    let s ← get
    if (parameter? s name).any fun t => unset || !t.isEmpty then
      return loosen quoted (← expandAll run word)
    else return []
  | .orAssign unset word => do
    let s ← get
    if (parameter? s name).any fun t => unset || !t.isEmpty then return plainGlyphs s quoted name
    else
      let t := Glyph.text (← expandAll run word)
      assignOrFail [] name t
      return Glyph.ofText quoted (!quoted) t
  | .orFail unset word => do
    let s ← get
    if (parameter? s name).any fun t => unset || !t.isEmpty then return plainGlyphs s quoted name
    else
      let t := Glyph.text (← expandAll run word)
      fail (name ++ ": ".toList ++ if !t.isEmpty then t
        else if unset then "parameter not set".toList else "parameter not set or null".toList)
  | .cutStart longest pattern => do
    let p := Field.globs (Glyph.pattern (← expandAll run pattern))
    return Glyph.ofText quoted (!quoted)
      (Shell.cutStart longest p ((parameter? (← get) name).getD []))
  | .cutEnd longest pattern => do
    let p := Field.globs (Glyph.pattern (← expandAll run pattern))
    return Glyph.ofText quoted (!quoted)
      (Shell.cutEnd longest p ((parameter? (← get) name).getD []))

end

end LiveLine.Shell
