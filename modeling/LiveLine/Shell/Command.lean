import LiveLine.Text.Basic

/-!
# Shell commands

The forms that a shell script is read into. Scripts and streams are sequences of bytes, which are
held as texts of one character below U+0100 for each byte.
-/

namespace LiveLine.Shell

mutual

/-- A part of a word. What is quoted is neither split into fields nor matched against files. -/
inductive Piece where
  | literal (quoted : Bool) (t : Text)
  | parameter (quoted : Bool) (name : Text) (form : Form)
  /-- The output of a script. -/
  | substitution (quoted : Bool) (script : Text)
  | arithmetic (quoted : Bool) (expression : List Piece)

/-- What is taken of a parameter. With `unset` only an unset parameter is replaced, otherwise an
empty one too. -/
inductive Form where
  | plain
  | length
  | orElse (unset : Bool) (word : List Piece)
  | orAssign (unset : Bool) (word : List Piece)
  | orFail (unset : Bool) (word : List Piece)
  | alternative (unset : Bool) (word : List Piece)
  | cutStart (longest : Bool) (pattern : List Piece)
  | cutEnd (longest : Bool) (pattern : List Piece)

end

abbrev Word := List Piece

inductive RedirectKind where
  | input
  | output
  /-- Writes over what is there, also where that is not usual. -/
  | overwrite
  | append
  /-- Takes the target of another descriptor. -/
  | duplicate
  /-- The target is itself what is read. -/
  | document
  deriving DecidableEq, Repr

structure Redirect where
  descriptor : Nat
  kind : RedirectKind
  target : Word

inductive Command where
  | simple (line : Nat) (assignments : List (Text × Word)) (words : List Word)
      (redirects : List Redirect)
  | pipeline (negated : Bool) (stages : List Command)
  /-- The second runs if the first succeeds. -/
  | both (first second : Command)
  /-- The second runs if the first fails. -/
  | either (first second : Command)
  | sequence (first second : Command)
  /-- Nothing waits for the command to end. -/
  | background (body : Command)
  | conditional (condition success : Command) (failure : Option Command)
  | loop (untilSuccess : Bool) (condition body : Command)
  | forEach (name : Text) (words : Option (List Word)) (body : Command)
  | choose (subject : Word) (branches : List (List Word × Command))
  | redirected (body : Command) (redirects : List Redirect)
  | subshell (body : Command)
  | function (name : Text) (body : Command)
  /-- A command that starts on a line. -/
  | located (line : Nat) (body : Command)
  | nothing

/-! ## Names -/

def isNameStart (c : Char) : Bool := c.isAlpha || c = '_'

def isNameChar (c : Char) : Bool := c.isAlphanum || c = '_'

/-- Whether a text is the name of a variable. -/
def isName : Text → Bool
  | [] => false
  | c :: r => isNameStart c && r.all isNameChar

/-- Commands of the shell that end it if they fail, and whose assignments stay. -/
def specialNames : List Text :=
  [":", ".", "break", "continue", "eval", "exec", "exit", "export", "readonly", "return", "set",
    "shift", "times", "trap", "unset"].map String.toList

def isSpecial (name : Text) : Bool := specialNames.contains name

end LiveLine.Shell
