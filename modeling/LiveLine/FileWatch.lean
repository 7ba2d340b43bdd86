import LiveLine.Event
import LiveLine.Files.Movement

/-!
# Watching a file

A watch is set on the directory of a file, so that saving by renaming is noticed too. Of what
happens there, what concerns the one name counts, except that it is read or removed. The watch
stays with the directory when that is renamed. What stands in the place of the directory may also
be a file; then what is done to that file itself counts, if it has the name.
-/

namespace LiveLine

structure FileWatch where
  /-- Where the watched directory is now, unless it is gone. -/
  directory : Option (List Text)
  name : Text
  /-- Whether the path of the directory itself ended in the name. -/
  isOwnName : Bool := false
  editor : EditorId
  deriving DecidableEq, Repr

/-- Something that is done to files. -/
inductive FileStep where
  | write (path : Path) (content : Bytes)
  | rename (source target : Path)
  | remove (path : Path)
  | chmod (path : Path)
  | read (path : Path)
  | mkdir (path : Path)
  deriving DecidableEq, Repr

namespace FileWatch

/-- The name of the source in messages. -/
def sourceName : Text := "file_watch".toList

/-- Sets a watch for the file at a path, if the path has a name and its directory is there. -/
def start? (t : FileTree) (cwd : List Text) (path : Path) (editor : EditorId) : Option FileWatch :=
  match path.fileName?, (t.find? cwd path.directory).toOption with
  | some name, some directory =>
    some {
      directory := some directory
      name
      isOwnName := path.directory.fileName? = some name
      editor }
  | _, _ => none

/-- Whether a place is that of the file. -/
def concerns (w : FileWatch) (place : List Text) : Bool :=
  w.directory.any fun d => place = d ++ [w.name]

/-- Whether a place is that of the directory, where that is reported under the name of the file. -/
def isItself (w : FileWatch) (place : List Text) : Bool := w.isOwnName && w.directory = some place

/-- Whether what is watched is a file with the name, and goes when a place is removed. -/
def losesItself (w : FileWatch) (t : FileTree) (place : List Text) : Bool :=
  w.isOwnName && w.directory.any fun d =>
    place.isPrefixOf d && !(t.node? d).any FileNode.isDirectory

/-- How many reports of a watch concern its file when a step is taken. What is written to a file
that is there is one report, however it changes; a new file is reported once more when it is
filled. -/
def reports (w : FileWatch) (t : FileTree) (cwd : List Text) : FileStep → Nat
  | .write path content =>
    match (t.target? cwd path).toOption with
    | some place =>
      match t.node? place with
      | some .directory => 0
      | some (.file ..) => if w.concerns place || w.isItself place then 1 else 0
      | none => if w.concerns place then (if content.isEmpty then 1 else 2) else 0
    | none => 0
  | .rename source target =>
    match t.movement? cwd source target with
    | some (a, b) =>
      let inside : Bool := w.directory = some a.dropLast && w.directory = some b.dropLast
      (if w.concerns a || w.concerns b then (if inside then 2 else 1) else 0) +
        (if w.isItself a || w.isItself b then 1 else 0)
    | none => 0
  | .chmod path =>
    match (t.find? cwd path).toOption with
    | some place => if w.concerns place || w.isItself place then 1 else 0
    | none => 0
  | .mkdir path =>
    match path.entry?.bind fun p => (t.target? cwd p).toOption with
    | some place => if w.concerns place && (t.node? place).isNone then 1 else 0
    | none => 0
  | .remove path =>
    match (t.find? cwd path).toOption with
    | some place => if w.losesItself t place then 1 else 0
    | none => 0
  | .read _ => 0

/-- A file that is written is reported once at least, if it is the file that is watched. -/
theorem reports_write_pos {w : FileWatch} {t : FileTree} {cwd place : List Text}
    {path : Path} (hPlace : (t.target? cwd path).toOption = some place)
    (hConcerns : w.concerns place = true) (hFile : t.node? place ≠ some .directory)
    (content : Bytes) : 0 < w.reports t cwd (.write path content) := by
  simp only [reports, hPlace, hConcerns]
  cases hNode : t.node? place with
  | none =>
    simp only [if_true]
    split <;> decide
  | some node => cases node <;> simp_all

/-- The watch after a step, which may have moved or removed what is watched. -/
def follow (w : FileWatch) (t : FileTree) (cwd : List Text) : FileStep → FileWatch
  | .rename source target =>
    match t.movement? cwd source target with
    | some (a, b) =>
      let moved (d : List Text) : Option (List Text) :=
        if a.isPrefixOf d then some (b ++ d.drop a.length)
        else if b.isPrefixOf d then none
        else some d
      { w with directory := w.directory.bind moved }
    | none => w
  | .remove path =>
    match (t.find? cwd path).toOption with
    | some place => { w with directory := w.directory.filter fun d => !place.isPrefixOf d }
    | none => w
  | .write .. | .chmod _ | .mkdir _ | .read _ => w

/-- The event that a report becomes. -/
def event (w : FileWatch) : Event := .editor ⟨.textChanged, w.editor⟩

end FileWatch

namespace FileStep

/-- The files after a step; one that is not possible changes nothing. -/
def perform (t : FileTree) (cwd : List Text) : FileStep → FileTree
  | write path content => (t.write? cwd path content).toOption.getD t
  | rename source target =>
    match t.movement? cwd source target with
    | some (a, b) => t.move a b
    | none => t
  | remove path =>
    match (t.find? cwd path).toOption with
    | some place => t.erase place
    | none => t
  | mkdir path =>
    match path.entry?.bind fun p => (t.target? cwd p).toOption with
    | some place => if (t.node? place).isSome then t else t.put place .directory
    | none => t
  | chmod _ | read _ => t

end FileStep

end LiveLine
