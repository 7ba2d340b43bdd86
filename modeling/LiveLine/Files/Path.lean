import LiveLine.Text.Basic

/-!
# Paths

A path is a text whose parts stand between slashes. Empty parts and single dots say nothing.
-/

namespace LiveLine

/-- A path as it is written. -/
abbrev Path := Text

namespace Path

def isAbsolute (p : Path) : Bool := p.head? = some '/'

/-- What stands between the slashes. -/
def pieces (p : Path) : List Text := Text.splitOn '/' p

/-- The parts that lead somewhere. -/
def parts (p : Path) : List Text := p.pieces.filter fun t => !t.isEmpty && t ≠ ['.']

/-- The path of `p` as it is seen from a directory; an absolute path stands for itself. -/
def under (p directory : Path) : Path :=
  if p.isAbsolute || directory.isEmpty then p
  else if directory.getLast? = some '/' then directory ++ p
  else directory ++ '/' :: p

/-- The name that a path ends in, unless it ends by going up. -/
def fileName? (p : Path) : Option Text := p.parts.getLast?.filter (· ≠ "..".toList)

/-- The path without the slashes at its end, if it ends in a name then. -/
def entry? (p : Path) : Option Path :=
  let p : Path := Text.dropTailWhile (· = '/') p
  if [[], ['.'], "..".toList].contains (p.pieces.getLastD []) then none else some p

/-- A path read from its end, without the slashes and dots there that say nothing. -/
def dropIdle : Text → Text
  | ['/'] => ['/']
  | '/' :: r => dropIdle r
  | '.' :: '/' :: r => dropIdle ('/' :: r)
  | r => r
termination_by r => r.length

/-- The directory that a path names its last part in, as far as the path tells. -/
def parent? (p : Path) : Option Path :=
  let r := dropIdle p.reverse
  if r = [] || r = ['/'] then none else some (dropIdle (r.dropWhile (· ≠ '/'))).reverse

/-- The directory of a path, a single dot where the path does not tell. -/
def directory (p : Path) : Path :=
  match p.parent? with
  | none | some [] => ['.']
  | some d => d

/-- The absolute path with the given parts. -/
def ofParts : List Text → Path
  | [] => ['/']
  | parts => (parts.map ('/' :: ·)).flatten

end Path

end LiveLine
