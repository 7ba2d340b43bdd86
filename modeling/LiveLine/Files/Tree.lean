import LiveLine.Files.Path
import LiveLine.Text.Utf8

/-!
# A tree of files

Files and directories by the parts of their absolute paths, the ways in which reaching them fails,
and the operations that programs need.
-/

namespace LiveLine

/-- How an operation on a file or a process fails. -/
inductive FileError where
  | notFound
  | execFormat
  /-- There is no process to wait for. -/
  | noChild
  | permissionDenied
  | alreadyExists
  | notADirectory
  | isADirectory
  | nameTooLong
  | notEmpty
  /-- Files refer to one another too many times. -/
  | tooManyLinks
  /-- The path holds a character that no path can hold. -/
  | zeroByte
  /-- The name of a command or an argument holds such a character. -/
  | zeroByteInCommand
  deriving DecidableEq, Repr

namespace FileError

/-- The number of the error in the operating system. -/
def code? : FileError → Option Nat
  | notFound => some 2
  | execFormat => some 8
  | noChild => some 10
  | permissionDenied => some 13
  | alreadyExists => some 17
  | notADirectory => some 20
  | isADirectory => some 21
  | nameTooLong => some 36
  | notEmpty => some 39
  | tooManyLinks => some 40
  | zeroByte | zeroByteInCommand => none

def description : FileError → Text
  | notFound => "No such file or directory".toList
  | execFormat => "Exec format error".toList
  | noChild => "No child processes".toList
  | permissionDenied => "Permission denied".toList
  | alreadyExists => "File exists".toList
  | notADirectory => "Not a directory".toList
  | isADirectory => "Is a directory".toList
  | nameTooLong => "File name too long".toList
  | notEmpty => "Directory not empty".toList
  | tooManyLinks => "Too many levels of symbolic links".toList
  | zeroByte => "file name contained an unexpected NUL byte".toList
  | zeroByteInCommand => "nul byte found in provided data".toList

/-- The error as it is shown in a message. -/
def message (e : FileError) : Text :=
  match e.code? with
  | some code => e.description ++ " (os error ".toList ++ Text.ofNat code ++ [')']
  | none => e.description

end FileError

inductive FileNode where
  | file (content : Bytes) (executable : Bool)
  | directory
  deriving DecidableEq, Repr

namespace FileNode

def isDirectory : FileNode → Bool
  | file .. => false
  | directory => true

def isExecutable : FileNode → Bool
  | file _ executable => executable
  | directory => false

end FileNode

/-- The files and directories below the root, by the parts of their absolute paths. -/
structure FileTree where
  nodes : List (List Text × FileNode) := []
  deriving Repr

namespace FileTree

/-- The node at an absolute place; the root is always there. -/
def node? (t : FileTree) (place : List Text) : Option FileNode :=
  if place = [] then some .directory else t.nodes.lookup place

/-- Puts a node at a place, instead of the one that is there. -/
def put (t : FileTree) (place : List Text) (n : FileNode) : FileTree :=
  ⟨(place, n) :: t.nodes.filter (·.1 ≠ place)⟩

/-- Takes away a place and all below it. -/
def erase (t : FileTree) (place : List Text) : FileTree :=
  ⟨t.nodes.filter fun n => !place.isPrefixOf n.1⟩

/-- The names in a directory. -/
def names (t : FileTree) (place : List Text) : List Text :=
  t.nodes.filterMap fun n => if n.1.dropLast = place then n.1.getLast? else none

/-- Makes a directory and those that it lies in. -/
def makeDirectories (t : FileTree) (place : List Text) : FileTree :=
  (List.range place.length).foldl (fun t i =>
    let outer := place.take (i + 1)
    if (t.node? outer).isSome then t else t.put outer .directory) t

/-- Puts a file at a place, in directories that are made where they are missing. -/
def plant (t : FileTree) (place : List Text) (n : FileNode) : FileTree :=
  (t.makeDirectories place.dropLast).put place n

/-- Walks on from a place. A part can be taken only in a directory. -/
def walk? (t : FileTree) : List Text → List Text → Except FileError (List Text)
  | place, [] => .ok place
  | place, part :: rest =>
    match t.node? place with
    | some .directory =>
      if part.isEmpty || part = ['.'] then t.walk? place rest
      else if part = "..".toList then t.walk? place.dropLast rest
      else if 255 < part.byteLength then .error .nameTooLong
      else match t.node? (place ++ [part]) with
        | some _ => t.walk? (place ++ [part]) rest
        | none => .error .notFound
    | _ => .error .notADirectory

/-- The place that a path leads to from a working directory. -/
def find? (t : FileTree) (cwd : List Text) (p : Path) : Except FileError (List Text) :=
  if p.contains '\x00' then .error .zeroByte
  else if p.isEmpty then .error .notFound
  else t.walk? (if p.isAbsolute then [] else cwd) p.pieces

/-- Whether a path leads to something. -/
def hasPath (t : FileTree) (cwd : List Text) (p : Path) : Bool := (t.find? cwd p).toOption.isSome

/-- What a path leads to. -/
def nodeAt? (t : FileTree) (cwd : List Text) (p : Path) : Option FileNode :=
  (t.find? cwd p).toOption.bind t.node?

/-- The content of the file that a path leads to. -/
def read? (t : FileTree) (cwd : List Text) (p : Path) : Except FileError Bytes := do
  match t.node? (← t.find? cwd p) with
  | some (.file content _) => return content
  | some .directory => throw .isADirectory
  | none => throw .notFound

/-- The place that a path would lead to if its last part existed. -/
def target? (t : FileTree) (cwd : List Text) (p : Path) : Except FileError (List Text) :=
  match t.find? cwd p with
  | .ok place => .ok place
  | .error .notFound => do
    let pieces := p.pieces
    match pieces.getLast? with
    | none => throw .notFound
    | some name =>
      if p.isEmpty || name = ['.'] || name = "..".toList then throw .notFound
      else if name.isEmpty then throw .isADirectory
      else
        let outer ← t.walk? (if p.isAbsolute then [] else cwd) pieces.dropLast
        if (t.node? outer).any FileNode.isDirectory then return outer ++ [name]
        else throw .notADirectory
  | .error e => .error e

/-- Writes a file; an existing one keeps whether it can be executed. -/
def write? (t : FileTree) (cwd : List Text) (p : Path) (content : Bytes) :
    Except FileError FileTree := do
  let place ← t.target? cwd p
  match t.node? place with
  | some .directory => throw .isADirectory
  | some (.file _ executable) => return t.put place (.file content executable)
  | none => return t.put place (.file content false)

/-- Removes a file. -/
def remove? (t : FileTree) (cwd : List Text) (p : Path) : Except FileError FileTree := do
  let place ← t.find? cwd p
  if (t.node? place).any FileNode.isDirectory then throw .isADirectory
  else return t.erase place

end FileTree

end LiveLine
