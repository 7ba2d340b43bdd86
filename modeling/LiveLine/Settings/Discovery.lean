import LiveLine.Files.Tree
import LiveLine.Settings.Reader

/-!
# Where settings are looked for

The configuration file in the working directory comes first, then the one of the user. The
interpreter of a virtual environment beside the script comes before any configured one.
-/

namespace LiveLine

/-- The files, the working directory among them, the directories that the user has, and what the
system does with processes. -/
structure Surroundings where
  files : FileTree
  cwd : List Text
  home : Option Path := none
  /-- Where the user keeps configurations. Only an absolute path counts. -/
  configHome : Option Path := none
  /-- The directory for temporary files. -/
  temporary : Path := "/tmp".toList
  /-- Further variables of the environment. -/
  inherited : List (Text × Text) := []
  /-- Whether a process that a signal ends may leave a core. -/
  keepsCores : Bool := false
  /-- Whether the ends of processes are forgotten, so that nobody can wait for them. -/
  forgetsEnds : Bool := false
  deriving Repr

namespace Surroundings

def hasPath (s : Surroundings) (p : Path) : Bool := s.files.hasPath s.cwd p

def read? (s : Surroundings) (p : Path) : Except FileError Bytes := s.files.read? s.cwd p

/-- The directory of the user's configurations. -/
def configDirectory? (s : Surroundings) : Option Path :=
  (s.configHome.filter Path.isAbsolute).or
    ((s.home.filter fun p => !p.isEmpty).map (Path.under ".config".toList))

end Surroundings

namespace Configuration

def fileName : Path := "oxlive.toml".toList

/-- The path of the configuration file when none is given. -/
def discover (s : Surroundings) : Path :=
  if s.hasPath fileName then fileName
  else match s.configDirectory? with
    | some directory => fileName.under (Path.under "oxlive".toList directory)
    | none => fileName

/-- The configuration in the file at `path`, or else in the one that is discovered. -/
def load (s : Surroundings) (path : Option Path) : Configuration :=
  ofFile (s.read? (path.getD (discover s))).toOption

/-- Whether a file holds text that is not taken as a configuration. -/
def isIllFormed (content : Option Bytes) : Bool :=
  (content.bind Utf8.decode?).any fun t => (ofText? t).isNone

end Configuration

namespace Settings

/-- The command that runs snippets when nothing else is known. -/
def defaultInterpreter : Path := "python3".toList

/-- The interpreter of the virtual environment in a directory. -/
def virtualInterpreter (root : Path) : Path :=
  Path.under "python".toList (Path.under "bin".toList (Path.under ".venv".toList root))

/-- The configured interpreter; a blank one counts as none. -/
def configuredInterpreter (s : Settings) : Path :=
  (s.interpreterPath.filter fun t => !t.trim.isEmpty).getD defaultInterpreter

/-- The command that runs snippets of scripts in `root`. -/
def interpreter (s : Settings) (around : Surroundings) (root : Option Path) : Path :=
  ((root.map virtualInterpreter).filter around.hasPath).getD s.configuredInterpreter

/-- The file that every snippet is written to. -/
def scratchPath (s : Settings) (around : Surroundings) : Path :=
  Path.under s.scratchFile around.temporary

end Settings

end LiveLine
