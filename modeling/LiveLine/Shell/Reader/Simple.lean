import LiveLine.Shell.Reader.Word

/-!
# Reading simple commands

A simple command is assignments, words and redirections up to an operator. What stands where
something else belongs is named in the error.
-/

namespace LiveLine.Shell

/-- The words that end a list of commands. -/
def closers : List Text :=
  ["then", "else", "elif", "fi", "do", "done", "esac", "\x7d"].map String.toList

/-- The operator or word at the start, as an error message names it. -/
def describe (s : Text) : Text :=
  let quote (t : Text) : Text := '"' :: t ++ "\" unexpected".toList
  match s with
  | [] => "end of file unexpected".toList
  | '\n' :: _ => "newline unexpected".toList
  | ';' :: ';' :: _ => quote ";;".toList
  | '&' :: '&' :: _ => quote "&&".toList
  | '|' :: '|' :: _ => quote "||".toList
  | c :: _ =>
    if c = '<' || c = '>' then "redirection unexpected".toList
    else if isOperator c then quote [c]
    else
      let w := plainWord s
      if closers.contains w then quote w else "word unexpected".toList

/-- The error that something else stands where `wanted` belongs. -/
def expected (wanted : Text) (s : Text) : ReadError :=
  ⟨describe s ++ (if wanted.isEmpty then [] else " (expecting \"".toList ++ wanted ++ "\")".toList),
    s, true⟩

/-- Splits a text at the line that is `stop`. With `strips` the tabs that begin a line say nothing.
At the end of the text the document ends too. -/
def documentIn (strips : Bool) (stop : Text) : List Text → Text × Text
  | [] => ([], [])
  | line :: rest =>
    let line := if strips then line.dropWhile (· = '\t') else line
    if line = stop then ([], Text.joinWith '\n' rest)
    else if rest.isEmpty then (line, [])
    else
      let (document, rest) := documentIn strips stop rest
      (line ++ '\n' :: document, rest)

/-- The text of a word that is not expanded. -/
def rawWord (w : Word) : Text := w.flatMap fun p => match p with
  | .literal _ t => t
  | _ => []

/-- Whether some part of a word is quoted. -/
def isQuotedWord (w : Word) : Bool := w.any fun p => match p with
  | .literal quoted _ => quoted
  | _ => false

/-- Reads the document that starts on the next line, after the word that ends it. What is left of
this line comes before what follows the document. -/
def document? (descriptor : Nat) (strips : Bool) (s : Text) : Reading (Redirect × Text) := do
  let (stop, r) ← word? (skipBlanks s)
  if stop.isEmpty then throw (expected [] r)
  let line := r.takeWhile (· ≠ '\n')
  let (text, rest) := documentIn strips (rawWord stop)
    (Text.splitOn '\n' ((r.drop line.length).drop 1))
  let word ← if isQuotedWord stop then pure [.literal true text]
    else (pieces? (2 * text.length + 2) (fun _ => false) true text).map Prod.fst
  return (⟨descriptor, .document, word⟩, line ++ '\n' :: rest)

/-- Reads a redirection, if there is one. -/
def redirect? (s : Text) : Option (Reading (Redirect × Text)) :=
  let number := s.takeWhile Char.isDigit
  let r := s.drop number.length
  let target (standard : Nat) (kind : RedirectKind) (r : Text) : Reading (Redirect × Text) :=
    match skipBlanks r with
    | [] => .error (expected [] [])
    | c :: r =>
      if isOperator c then .error (expected [] (c :: r))
      else (word? (c :: r)).map fun (w, r) =>
        (⟨((Text.numeral? number).getD standard), kind, w⟩, r)
  match r with
  | '>' :: '>' :: r => some (target 1 .append r)
  | '>' :: '&' :: r => some (target 1 .duplicate r)
  | '>' :: '|' :: r => some (target 1 .overwrite r)
  | '>' :: r => some (target 1 .output r)
  | '<' :: '&' :: r => some (target 0 .duplicate r)
  | '<' :: '<' :: '-' :: r => some (document? ((Text.numeral? number).getD 0) true r)
  | '<' :: '<' :: r => some (document? ((Text.numeral? number).getD 0) false r)
  | '<' :: r => some (target 0 .input r)
  | _ => none

/-- Reads the redirections after a command. -/
def redirects? : Nat → Text → Reading (List Redirect × Text)
  | 0, s => .ok ([], s)
  | limit + 1, s =>
    match redirect? (skipBlanks s) with
    | none => .ok ([], skipBlanks s)
    | some result => do
      let (x, r) ← result
      let (xs, r) ← redirects? limit r
      return (x :: xs, r)

/-- A word as an assignment to a variable, if it is one. -/
def assignment? (s : Text) : Option (Text × Text) :=
  let name := s.takeWhile isNameChar
  match s.drop name.length with
  | '=' :: r => if isName name then some (name, r) else none
  | _ => none

/-- Reads the words of a simple command that starts on a line. -/
def simple? (line : Nat) : Nat → List (Text × Word) → List Word → List Redirect → Text →
    Reading (Command × Text)
  | 0, _, _, _, s => .error (expected [] s)
  | limit + 1, assigned, words, redirects, s =>
    let s := skipBlanks s
    match redirect? s with
    | some result => do
      let (x, r) ← result
      simple? line limit assigned words (redirects ++ [x]) r
    | none =>
      match s with
      | [] => .ok (.simple line assigned words redirects, s)
      | c :: _ =>
        if isOperator c then .ok (.simple line assigned words redirects, s)
        else
          match if words.isEmpty then assignment? s else none with
          | some (name, r) => do
            let (w, r) ← word? r
            simple? line limit (assigned ++ [(name, w)]) words redirects r
          | none => do
            let (w, r) ← word? s
            simple? line limit assigned (words ++ [w]) redirects r

end LiveLine.Shell
