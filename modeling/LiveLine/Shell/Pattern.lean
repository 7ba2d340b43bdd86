import LiveLine.Text.Basic

/-!
# Patterns

What matches one character, and file patterns, which match a whole text.
-/

namespace LiveLine.Shell

/-- A set of characters, as it stands between brackets. -/
structure Bracket where
  negated : Bool
  ranges : List (Char × Char)
  deriving Repr

def Bracket.holds (b : Bracket) (c : Char) : Bool :=
  b.ranges.any (fun r => r.1 ≤ c && c ≤ r.2) != b.negated

/-- The characters of a class, as ranges in order. -/
def classRanges? (name : Text) : Option (List (Char × Char)) :=
  match String.ofList name with
  | "upper" => some [('A', 'Z')]
  | "lower" => some [('a', 'z')]
  | "digit" => some [('0', '9')]
  | "alpha" => some [('A', 'Z'), ('a', 'z')]
  | "alnum" => some [('0', '9'), ('A', 'Z'), ('a', 'z')]
  | "xdigit" => some [('0', '9'), ('A', 'F'), ('a', 'f')]
  | "space" => some [('\t', '\r'), (' ', ' ')]
  | "blank" => some [('\t', '\t'), (' ', ' ')]
  | "punct" => some [('!', '/'), (':', '@'), ('[', '\x60'), ('\x7b', '~')]
  | "print" => some [(' ', '~')]
  | "graph" => some [('!', '~')]
  | "cntrl" => some [('\x00', '\x1f'), ('\x7f', '\x7f')]
  | _ => none

/-- Reads a class such as `[:alpha:]` after its opening. -/
def class? (t : Text) : Option (List (Char × Char) × Text) := do
  let name := t.takeWhile (· ≠ ':')
  let rest ← Text.dropLead? [':', ']'] (t.drop name.length)
  return (← classRanges? name, rest)

/-- Reads the ranges of a bracket up to its end. A bracket at the very start is a character. -/
def ranges? : (limit : Nat) → (atStart : Bool) → Text → Option (List (Char × Char) × Text)
  | 0, _, _ | _, _, [] => none
  | limit + 1, _, '[' :: ':' :: r => do
    let (ranges, r) ← class? r
    let (others, r) ← ranges? limit false r
    return (ranges ++ others, r)
  | limit + 1, atStart, a :: '-' :: b :: r =>
    if a = ']' && !atStart then some ([], '-' :: b :: r)
    else if b = ']' then some ([(a, a), ('-', '-')], r)
    else (ranges? limit false r).map fun (rs, r) => ((a, b) :: rs, r)
  | limit + 1, atStart, a :: r =>
    if a = ']' && !atStart then some ([], r)
    else (ranges? limit false r).map fun (rs, r) => ((a, a) :: rs, r)

/-- Reads what follows an opening bracket. -/
def bracket? (negation : Char) : Text → Option (Bracket × Text)
  | [] => none
  | c :: r =>
    let negated : Bool := c = negation || c = '^'
    let t := if negated then r else c :: r
    (ranges? (t.length + 1) true t).map fun (rs, r) => (⟨negated, rs⟩, r)

/-- What matches one character. -/
inductive Single where
  | only (c : Char)
  | any
  | bracket (b : Bracket)
  deriving Repr

def Single.holds : Single → Char → Bool
  | only c, d => c = d
  | any, _ => true
  | bracket b, d => b.holds d

/-- A part of a file pattern: one character, or any number of them. -/
inductive Glob where
  | single (s : Single)
  | many
  deriving Repr

namespace Glob

/-- Reads a file pattern. The flag of a character tells whether it is quoted. -/
def ofChars : Nat → List (Char × Bool) → List Glob
  | 0, _ => []
  | _, [] => []
  | limit + 1, (c, quoted) :: r =>
    if quoted then single (.only c) :: ofChars limit r
    else if c = '*' then many :: ofChars limit r
    else if c = '?' then single .any :: ofChars limit r
    else if c = '[' then
      match bracket? '!' (r.map Prod.fst) with
      | some (b, rest) => single (.bracket b) :: ofChars limit (r.drop (r.length - rest.length))
      | none => single (.only c) :: ofChars limit r
    else single (.only c) :: ofChars limit r

/-- Whether a pattern matches a whole text. -/
def fits : List Glob → Text → Bool
  | [], t => t.isEmpty
  | many :: gs, t => (List.range (t.length + 1)).any fun i => fits gs (t.drop i)
  | single s :: gs, c :: t => s.holds c && fits gs t
  | single _ :: _, [] => false

end Glob

end LiveLine.Shell
