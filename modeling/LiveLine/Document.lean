import LiveLine.Text.Blank

/-!
# Documents and their lines

A document is cut into lines at its breaks; the text after the last break is a line too. A shown
line keeps the break that ends it, except for a line feed, a carriage return, or the two together.
-/

namespace LiveLine

/-- The ways in which a line of a document ends. -/
inductive Break where
  | lineFeed
  | carriageReturnLineFeed
  | carriageReturn
  | verticalTab
  | formFeed
  | nextLine
  | lineSeparator
  | paragraphSeparator
  deriving DecidableEq, Repr

namespace Break

/-- The characters of a break. -/
def text : Break → Text
  | lineFeed => ['\n']
  | carriageReturnLineFeed => ['\r', '\n']
  | carriageReturn => ['\r']
  | verticalTab => ['\x0B']
  | formFeed => ['\x0C']
  | nextLine => ['\u0085']
  | lineSeparator => ['\u2028']
  | paragraphSeparator => ['\u2029']

/-- The break that a single character makes. -/
def ofChar? (c : Char) : Option Break :=
  if c = '\n' then some lineFeed
  else if c = '\r' then some carriageReturn
  else if c = '\x0B' then some verticalTab
  else if c = '\x0C' then some formFeed
  else if c = '\u0085' then some nextLine
  else if c = '\u2028' then some lineSeparator
  else if c = '\u2029' then some paragraphSeparator
  else none

/-- What is left of a break when its line is shown. -/
def shown : Break → Text
  | lineFeed | carriageReturnLineFeed | carriageReturn => []
  | b => b.text

end Break

/-- A line: the characters before its break, and the break, which the last line lacks. -/
structure Line where
  body : Text
  ending : Option Break
  deriving DecidableEq, Repr

namespace Line

/-- All characters of the line, its break included. -/
def full (l : Line) : Text := l.body ++ (l.ending.map Break.text).getD []

/-- The line as it is read by a person or a classifier. -/
def text (l : Line) : Text := l.body ++ (l.ending.map Break.shown).getD []

/-- The line with one more character in front. -/
def cons (c : Char) (l : Line) : Line := { l with body := c :: l.body }

end Line

/-- The lines of a text, in order. -/
def Text.lines : Text → List Line
  | [] => [⟨[], none⟩]
  | '\r' :: '\n' :: r => ⟨[], some .carriageReturnLineFeed⟩ :: Text.lines r
  | c :: r =>
    match Break.ofChar? c with
    | some b => ⟨[], some b⟩ :: Text.lines r
    | none => match Text.lines r with
      | [] => [⟨[c], none⟩]
      | l :: ls => l.cons c :: ls

/-- The text of an editor at one moment. -/
structure Document where
  text : Text
  deriving DecidableEq, Repr

namespace Document

/-- The document without any text, which has one empty line. -/
def empty : Document := ⟨[]⟩

/-- The lines as they are shown, in order. -/
def lines (d : Document) : List Text := (Text.lines d.text).map Line.text

/-- The lines with their breaks, one after another. -/
def content (d : Document) : Text := (Text.lines d.text).flatMap Line.full

def lineCount (d : Document) : Nat := d.lines.length

/-- The line at index `i`, counted from zero. -/
def line? (d : Document) (i : Nat) : Option Text := d.lines[i]?

/-- Whether there is a line at index `i`. -/
def hasLine (d : Document) (i : Nat) : Bool := i < d.lineCount

/-- The number of characters in a line; zero where there is none. -/
def lineLength (d : Document) (i : Nat) : Nat := ((d.line? i).map List.length).getD 0

/-- The index of the last line that is not all blank. -/
def lastNonBlank? (d : Document) : Option Nat :=
  (d.lines.zipIdx.reverse.find? fun l => !l.1.isAllBlank).map Prod.snd

end Document

/-- What an editor shows at one moment: its document and the line that the cursor is on. -/
structure Snapshot where
  document : Document
  cursor : Nat
  deriving DecidableEq, Repr

/-- The text of the cursor line, empty when the cursor is past the end. -/
def Snapshot.cursorText (s : Snapshot) : Text := (s.document.line? s.cursor).getD []

end LiveLine
