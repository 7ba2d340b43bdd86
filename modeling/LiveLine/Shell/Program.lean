import LiveLine.Shell.Program.Files
import LiveLine.Shell.Program.Layout
import LiveLine.Shell.Program.Matching
import LiveLine.Shell.Program.Text

/-!
# Programs by name

The programs that scripts can call, and where they are found.
-/

namespace LiveLine.Shell

namespace Program

/-- A program and the letters that it knows as options. Without letters it takes all its arguments
as they are. -/
structure Entry where
  letters : String := ""
  run : List Text → Script Nat

/-- A program that tells one thing and takes no operands. -/
def teller (name : String) (reply : Text) (status : Nat) : String × Entry :=
  (name, ⟨"", fun args => match args.find? fun a => a.head? ≠ some '-' with
    | none => do
      say (reply ++ ['\n'])
      return status
    | some a => do
      let _ ← misuse name ("extra operand ".toList ++ quoted a)
      return max 1 (2 * status)⟩)

/-- A program that can do nothing with one operand but say so. -/
def refuser (name : String) (status : Nat) (hinted : Bool) (message : Text → Text) :
    String × Entry :=
  (name, ⟨"", fun args => do
    match args with
    | [] => protest name.toList "missing operand".toList
    | a :: _ => protest name.toList (message (quoted a))
    if hinted || args.isEmpty then hint name
    return status⟩)

/-- The programs that tell one thing, and those that need other operands than a file. -/
def small : List (String × Entry) :=
  [teller "uname" "Linux".toList 0, teller "whoami" "root".toList 0,
    teller "arch" "x86_64".toList 0, teller "nproc" ['1'] 0, teller "tty" "not a tty".toList 1,
    teller "logname" "root".toList 0,
    refuser "chgrp" 1 true ("missing operand after ".toList ++ ·),
    refuser "chown" 1 true ("missing operand after ".toList ++ ·),
    refuser "csplit" 1 true ("missing operand after ".toList ++ ·),
    refuser "join" 1 true ("missing operand after ".toList ++ ·),
    refuser "link" 1 true ("missing operand after ".toList ++ ·),
    refuser "install" 1 true ("missing destination file operand after ".toList ++ ·),
    refuser "basenc" 1 true (fun _ => "missing encoding type".toList),
    refuser "truncate" 1 true
      (fun _ => "you must specify either '--size' or '--reference'".toList),
    refuser "stdbuf" 125 true (fun _ => "you must specify a buffering mode option".toList),
    refuser "date" 1 false ("invalid date ".toList ++ ·),
    refuser "factor" 1 false (· ++ " is not a valid positive integer".toList),
    refuser "groups" 1 false (· ++ ": no such user".toList),
    refuser "id" 1 false (· ++ ": no such user".toList),
    refuser "mkfifo" 1 false fun p => "cannot create fifo ".toList ++ p ++ ": File exists".toList,
    refuser "mktemp" 1 false ("too few X's in template ".toList ++ ·),
    refuser "numfmt" 2 false ("invalid number: ".toList ++ ·),
    ("users", ⟨"", fun _ => return 0⟩), ("who", ⟨"", fun _ => return 0⟩),
    ("pathchk", ⟨"", fun _ => return 0⟩), ("shred", ⟨"", fun _ => return 0⟩),
    ("readlink", ⟨"", fun _ => return 1⟩)]

/-- The programs by their names. -/
def all : List (String × Entry) := small ++
  [("cat", ⟨"nbEeAsTtuv", cat⟩), ("tac", ⟨"sbr", tac⟩), ("rev", ⟨"", rev⟩),
    ("nl", ⟨"bdfhilnpsvw", nl⟩),
    ("sort", ⟨"nruktfbdghiMoszCcmSV", sort⟩), ("uniq", ⟨"cduifsw", uniq⟩),
    ("head", ⟨"ncqvz0123456789", head⟩), ("tail", ⟨"ncqvfFz0123456789", tail⟩),
    ("wc", ⟨"lwcmL", wc⟩), ("tr", ⟨"", tr⟩), ("cut", ⟨"dfcbsnz", cut⟩), ("grep", ⟨"", grep⟩),
    ("seq", ⟨"", seq⟩), ("sed", ⟨"", sed⟩), ("base64", ⟨"wdi", base64⟩),
    ("basename", ⟨"", basename⟩), ("dirname", ⟨"", dirname⟩), ("rm", ⟨"rRfivd", rm⟩),
    ("rmdir", ⟨"pv", rmdir⟩), ("mkdir", ⟨"pmv", mkdir⟩), ("touch", ⟨"", touch⟩),
    ("cp", ⟨"", transfer "cp" true⟩), ("mv", ⟨"", transfer "mv" false⟩), ("chmod", ⟨"", chmod⟩),
    ("ls", ⟨"", ls⟩), ("tee", ⟨"aip", tee⟩), ("sleep", ⟨"", sleep⟩),
    ("printenv", ⟨"", printEnvironment⟩), ("expr", ⟨"", expr⟩), ("true", ⟨"", fun _ => return 0⟩),
    ("false", ⟨"", fun _ => return 1⟩), ("yes", ⟨"", yes⟩), ("sync", ⟨"", fun _ => return 0⟩),
    ("egrep", ⟨"", fun args => grep ("-E".toList :: args)⟩),
    ("fgrep", ⟨"", fun args => grep ("-F".toList :: args)⟩), ("fold", ⟨"", fold⟩),
    ("expand", ⟨"it", expand⟩), ("unexpand", ⟨"at", unexpand⟩), ("paste", ⟨"dsz", paste⟩),
    ("od", ⟨"", od⟩), ("comm", ⟨"123", comm⟩), ("cmp", ⟨"sl", cmp⟩), ("diff", ⟨"", diff⟩),
    ("cksum", ⟨"", cksum⟩), ("sum", ⟨"rs", sum⟩), ("base32", ⟨"wdi", base32⟩),
    ("md5sum", ⟨"bt", digest "md5sum" Digest.md5⟩),
    ("sha1sum", ⟨"bt", digest "sha1sum" Digest.sha1⟩),
    ("sha224sum", ⟨"bt", digest "sha224sum" Digest.sha224⟩),
    ("sha256sum", ⟨"bt", digest "sha256sum" Digest.sha256⟩),
    ("sha384sum", ⟨"bt", digest "sha384sum" Digest.sha384⟩),
    ("sha512sum", ⟨"bt", digest "sha512sum" Digest.sha512⟩),
    ("ln", ⟨"fs", link⟩), ("unlink", ⟨"", unlink⟩), ("find", ⟨"", find⟩), ("dd", ⟨"", dd⟩),
    ("split", ⟨"abCdelntux", split⟩)]

/-- The first letter among the options that is not known. -/
def unknownLetter? (letters : String) : List Text → Option Char
  | [] => none
  | ['-', '-'] :: _ => none
  | ('-' :: c :: _) :: rest =>
    if c = '-' || letters.toList.contains c then unknownLetter? letters rest else some c
  | _ :: rest => unknownLetter? letters rest

/-- Runs a program, unless an option is not known to it. -/
def Entry.start (e : Entry) (name : String) (args : List Text) : Script Nat := do
  match if e.letters = "" then none else unknownLetter? e.letters args with
  | none => e.run args
  | some c =>
    let status ← misuse name ("invalid option -- '".toList ++ [c] ++ ['\''])
    return if name = "sort" then 2 else status

/-- The shells, which run scripts. -/
def shells : List String := ["sh", "dash", "bash"]

/-- The programs that run other programs or share their work with the shell. -/
def others : List String :=
  ["env", "echo", "printf", "test", "[", "pwd", "kill", "which", "nice", "nohup", "setsid",
    "timeout", "xargs"]

/-- Whether a name is that of a program. -/
def isKnown (name : Text) : Bool :=
  let name := String.ofList name
  (all.lookup name).isSome || shells.contains name || others.contains name

/-- The place that an absolute path spells, if nothing on the way leads elsewhere. -/
def spelledPlace (p : Path) : List Text :=
  p.parts.foldl
    (fun place part => if part = "..".toList then place.dropLast else place ++ [part]) []

/-- The name of the program at an absolute path. -/
def named? (p : Path) : Option Text :=
  let name? : Option Text := match (spelledPlace p).map String.ofList with
    | ["bin", n] | ["usr", "bin", n] => some n.toList
    | _ => none
  name?.filter fun n => p.isAbsolute && isKnown n

end Program

end LiveLine.Shell
