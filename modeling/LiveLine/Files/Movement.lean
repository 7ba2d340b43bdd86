import LiveLine.Files.Tree

/-!
# Renaming

What can be renamed to what in a tree of files, and what becomes of the tree.
-/

namespace LiveLine

namespace FileTree

/-- Whether what is at a place can be renamed, and how: a directory takes the place of an empty
one, and a file that of a file. -/
def canMove (t : FileTree) (source target : List Text) : Bool :=
  !source.isPrefixOf target && match t.node? source, t.node? target with
    | some _, none => true
    | some .directory, some .directory => (t.names target).isEmpty
    | some (.file ..), some (.file ..) => true
    | _, _ => false

/-- Moves what is at a place, and all below it. -/
def move (t : FileTree) (source target : List Text) : FileTree :=
  let moved := t.nodes.filterMap fun n =>
    if source.isPrefixOf n.1 then some (target ++ n.1.drop source.length, n.2) else none
  ⟨moved ++ ((t.erase source).erase target).nodes⟩

/-- The places between which a renaming moves something, if it is possible. A slash at the end of a
path asks for a directory. -/
def movement? (t : FileTree) (cwd : List Text) (source target : Path) :
    Option (List Text × List Text) := do
  let a ← (t.find? cwd (← source.entry?)).toOption
  let b ← (t.target? cwd (← target.entry?)).toOption
  let slashed : Bool := [source, target].any fun p => p.getLast? = some '/'
  if t.canMove a b && (!slashed || (t.node? a).any FileNode.isDirectory) then return (a, b)
  else none

end FileTree

end LiveLine
