import LiveLine.Text.Basic

/-!
# Blanks, comments, strings and keys of a configuration file

Each reader takes the text that is left and gives what it read together with what follows, or
nothing where the text is ill formed.
-/

namespace LiveLine.Toml

/-- Whether a character separates words on a line. -/
def isSpace (c : Char) : Bool := c = ' ' || c = '\t'

/-- Whether a character may stand in a comment or a string. -/
def isPlain (c : Char) : Bool := c = '\t' || (0x20 ≤ c.toNat && c.toNat ≠ 0x7F)

/-- Whether a character may stand in a bare key. -/
def isBareKey (c : Char) : Bool :=
  ('a' ≤ c && c ≤ 'z') || ('A' ≤ c && c ≤ 'Z') || ('0' ≤ c && c ≤ '9') || c = '_' || c = '-'

def skipSpaces (s : Text) : Text := s.dropWhile isSpace

/-- Reads a line feed, with or without a carriage return. -/
def newline? : Text → Option Text
  | '\n' :: r => some r
  | '\r' :: '\n' :: r => some r
  | _ => none

/-- The line end at the start of a text, or nothing if there is none. -/
def lineEnd : Text → Text
  | '\n' :: _ => ['\n']
  | '\r' :: '\n' :: _ => ['\r', '\n']
  | _ => []

/-- Skips a comment up to the end of its line. -/
def skipComment : Text → Text
  | '#' :: r => r.dropWhile isPlain
  | s => s

/-- Skips the rest of a line that holds nothing but a comment. -/
def endLine? (s : Text) : Option Text :=
  match skipComment (skipSpaces s) with
  | [] => some []
  | r => newline? r

/-- Skips blanks, comments and line ends. -/
def skipLines : Nat → Text → Text
  | 0, s => s
  | limit + 1, s =>
    match newline? (skipComment (skipSpaces s)) with
    | some r => skipLines limit r
    | none => skipSpaces s

def hexValue? (c : Char) : Option Nat :=
  if '0' ≤ c ∧ c ≤ '9' then some (c.toNat - '0'.toNat)
  else if 'a' ≤ c ∧ c ≤ 'f' then some (c.toNat - 'a'.toNat + 10)
  else if 'A' ≤ c ∧ c ≤ 'F' then some (c.toNat - 'A'.toNat + 10)
  else none

/-- Reads a number of `count` hexadecimal digits. -/
def hexNumber? : Nat → Nat → Text → Option (Nat × Text)
  | 0, acc, s => some (acc, s)
  | count + 1, acc, c :: r => (hexValue? c).bind fun d => hexNumber? count (acc * 16 + d) r
  | _ + 1, _, [] => none

/-- Reads the code point of an escape with `count` digits. -/
def codePoint? (count : Nat) (s : Text) : Option (Char × Text) :=
  (hexNumber? count 0 s).bind fun (n, r) =>
    if n.isValidChar then some (Char.ofNat n, r) else none

/-- Reads what follows the backslash of an escape. -/
def escape? : Text → Option (Char × Text)
  | 'b' :: r => some ('\x08', r)
  | 't' :: r => some ('\t', r)
  | 'n' :: r => some ('\n', r)
  | 'f' :: r => some ('\x0C', r)
  | 'r' :: r => some ('\r', r)
  | 'e' :: r => some ('\x1B', r)
  | '"' :: r => some ('"', r)
  | '\\' :: r => some ('\\', r)
  | 'x' :: r => codePoint? 2 r
  | 'u' :: r => codePoint? 4 r
  | 'U' :: r => codePoint? 8 r
  | _ => none

/-- Reads the rest of a string in double quotes on one line. -/
def basicString? : Nat → Text → Option (Text × Text)
  | 0, _ => none
  | limit + 1, s =>
    match s with
    | '"' :: r => some ([], r)
    | '\\' :: r => do
      let (c, r) ← escape? r
      let (t, r) ← basicString? limit r
      return (c :: t, r)
    | c :: r => if isPlain c then (basicString? limit r).map fun (t, r) => (c :: t, r) else none
    | [] => none

/-- Reads the rest of a string in single quotes on one line, which has no escapes. -/
def literalString? (s : Text) : Option (Text × Text) :=
  let body := s.takeWhile fun c => isPlain c && c ≠ '\''
  match s.drop body.length with
  | '\'' :: r => some (body, r)
  | _ => none

/-- How many times a character stands at the start. -/
def runLength (c : Char) (s : Text) : Nat := (s.takeWhile (· = c)).length

/-- Skips all blanks and line ends after a backslash at the end of a line. -/
def skipFold : Nat → Text → Text
  | 0, s => s
  | limit + 1, s =>
    match newline? (skipSpaces s) with
    | some r => skipFold limit r
    | none => skipSpaces s

/-- Reads the rest of a string over several lines, whose line ends are kept as they are written.
It ends at three quotes, and up to two more quotes before those belong to it. -/
def longString? (quote : Char) : Nat → Text → Option (Text × Text)
  | 0, _ => none
  | limit + 1, s =>
    let quotes := runLength quote s
    if 3 ≤ quotes then
      let kept := min (quotes - 3) 2
      some (List.replicate kept quote, s.drop (kept + 3))
    else match newline? s with
      | some rest => (longString? quote limit rest).map fun (t, r) => (lineEnd s ++ t, r)
      | none =>
        match s with
        | [] => none
        | c :: r =>
          if c = '\\' && quote = '"' then
            match newline? (skipSpaces r) with
            | some rest => longString? quote limit (skipFold limit rest)
            | none => do
              let (e, r) ← escape? r
              let (t, r) ← longString? quote limit r
              return (e :: t, r)
          else if isPlain c then (longString? quote limit r).map fun (t, r) => (c :: t, r)
          else none

/-- Reads a string value, if the text begins with a quote. -/
def string? (s : Text) : Option (Text × Text) :=
  let long (quote : Char) (r : Text) := longString? quote (r.length + 1) ((newline? r).getD r)
  match s with
  | '"' :: '"' :: '"' :: r => long '"' r
  | '\'' :: '\'' :: '\'' :: r => long '\'' r
  | '"' :: r => basicString? (r.length + 1) r
  | '\'' :: r => literalString? r
  | _ => none

/-- Reads one part of a key. -/
def keyPart? (s : Text) : Option (Text × Text) :=
  match s with
  | '"' :: r => basicString? (r.length + 1) r
  | '\'' :: r => literalString? r
  | _ =>
    let bare := s.takeWhile isBareKey
    if bare.isEmpty then none else some (bare, s.drop bare.length)

/-- Reads a key of at most `limit` parts: its leading parts, and its last part. -/
def keyOf? : Nat → Text → Option ((List Text × Text) × Text)
  | 0, _ => none
  | limit + 1, s => do
    let (part, r) ← keyPart? (skipSpaces s)
    match skipSpaces r with
    | '.' :: r =>
      let ((path, last), r) ← keyOf? limit r
      return ((part :: path, last), r)
    | r => return (([], part), r)

/-- How many parts a key may have, and how deep arrays and tables in braces may be nested. -/
def maxDepth : Nat := 80

/-- Reads a key with the blanks around its parts. -/
def key? (s : Text) : Option ((List Text × Text) × Text) := keyOf? maxDepth s

end LiveLine.Toml
