import LiveLine.Shell.Command

/-!
# Reading the words of shell scripts

A word is a row of pieces: literal text, parameters, and scripts or arithmetic in place of text.
Each reader takes the text that is left and a bound on its steps, which the length of the text
provides.
-/

namespace LiveLine.Shell

/-- What is wrong with a script, and how much of it was left then. -/
structure ReadError where
  message : Text
  rest : Text
  /-- Whether the commands cannot be told apart. -/
  isSyntactic : Bool := true

namespace ReadError

def description (e : ReadError) : Text :=
  if e.isSyntactic then "Syntax error: ".toList ++ e.message else e.message

end ReadError

/-- What a reader gives: what it read and the text that follows, or an error. -/
abbrev Reading := Except ReadError

/-- Whether a character ends a word. -/
def isOperator (c : Char) : Bool :=
  c = ' ' || c = '\t' || c = '\n' || c = ';' || c = '&' || c = '|' || c = '<' || c = '>' ||
    c = '(' || c = ')'

/-- Skips blanks, joined lines and a comment. -/
def skipBlanks : Text → Text
  | ' ' :: r | '\t' :: r => skipBlanks r
  | '\\' :: '\n' :: r => skipBlanks r
  | '#' :: r => r.dropWhile (· ≠ '\n')
  | s => s

/-- Skips blanks, comments and line ends. -/
def skipNewlines : Nat → Text → Text
  | 0, s => s
  | limit + 1, s =>
    match skipBlanks s with
    | '\n' :: r => skipNewlines limit r
    | r => r

/-- Something else stands in braces than a parameter, or the braces are not closed. -/
def badSubstitution (s : Text) : ReadError :=
  if s.contains '\x7d' then ⟨"Bad substitution".toList, s, false⟩
  else ⟨"Missing '\x7d'".toList, s, true⟩

def unterminated : ReadError := ⟨"Unterminated quoted string".toList, [], true⟩

/-- Splits at the character that ends a quotation. A backslash hides the next character. -/
def quotation? (stop : Char) (escapes : Bool) : Text → Option (Text × Text)
  | [] => none
  | '\\' :: c :: r =>
    if escapes then (quotation? stop escapes r).map fun (t, r) => ('\\' :: c :: t, r)
    else (quotation? stop escapes (c :: r)).map fun (t, r) => ('\\' :: t, r)
  | c :: r =>
    if c = stop then some ([], r)
    else (quotation? stop escapes r).map fun (t, r) => (c :: t, r)

/-- Splits at the parenthesis that closes `depth + 1` open ones. -/
def balanced? : Nat → Nat → Text → Option (Text × Text)
  | 0, _, _ => none
  | _, _, [] => none
  | limit + 1, depth, c :: r =>
    if c = '\\' then
      match r with
      | d :: r => (balanced? limit depth r).map fun (t, r) => (c :: d :: t, r)
      | [] => none
    else if c = '\'' || c = '"' then do
      let (inner, r) ← quotation? c (c = '"') r
      let (t, r) ← balanced? limit depth r
      return (c :: inner ++ c :: t, r)
    else if c = '(' then (balanced? limit (depth + 1) r).map fun (t, r) => (c :: t, r)
    else if c = ')' then
      match depth with
      | 0 => some ([], r)
      | depth + 1 => (balanced? limit depth r).map fun (t, r) => (c :: t, r)
    else (balanced? limit depth r).map fun (t, r) => (c :: t, r)

/-- A backquoted script with the backslashes removed that guard it. -/
def unguard : Text → Text
  | '\\' :: c :: r =>
    if c = '\\' || c = '\x60' || c = '$' then c :: unguard r else '\\' :: unguard (c :: r)
  | c :: r => c :: unguard r
  | [] => []

def isSpecialParameter (c : Char) : Bool :=
  c = '?' || c = '#' || c = '@' || c = '*' || c = '!' || c = '$' || c = '-'

/-- Splits off the name of a parameter. -/
def parameterName? : Text → Option (Text × Text)
  | [] => none
  | c :: r =>
    if isNameStart c then some (c :: r.takeWhile isNameChar, r.dropWhile isNameChar)
    else if c.isDigit || isSpecialParameter c then some ([c], r)
    else none

mutual

/-- Reads pieces up to, and not with, a character that satisfies `stop`. -/
def pieces? : Nat → (stop : Char → Bool) → (quoted : Bool) → Text → Reading (Word × Text)
  | 0, _, _, _ => .error unterminated
  | limit + 1, stop, quoted, s =>
    match s with
    | [] => .ok ([], [])
    | c :: r =>
      if stop c then .ok ([], s)
      else if c = '\\' then
        match r with
        | '\n' :: r => pieces? limit stop quoted r
        | d :: r => do
          let guarded := !quoted || d = '$' || d = '\x60' || d = '"' || d = '\\'
          let (ps, r) ← pieces? limit stop quoted r
          return (.literal true (if guarded then [d] else [c, d]) :: ps, r)
        | [] => .ok ([.literal true [c]], [])
      else if c = '\'' && !quoted then
        match quotation? '\'' false r with
        | none => .error unterminated
        | some (t, r) => do
          let (ps, r) ← pieces? limit stop quoted r
          return (.literal true t :: ps, r)
      else if c = '"' && quoted && stop '\x7d' then pieces? limit stop quoted r
      else if c = '"' && !quoted then do
        let (inner, r) ← pieces? limit (· = '"') true r
        match r with
        | '"' :: r =>
          let (ps, r) ← pieces? limit stop quoted r
          return (.literal true [] :: inner ++ ps, r)
        | _ => .error unterminated
      else if c = '\x60' then
        match quotation? '\x60' true r with
        | none => .error ⟨"EOF in backquote substitution".toList, [], true⟩
        | some (t, r) => do
          let (ps, r) ← pieces? limit stop quoted r
          return (.substitution quoted (unguard t) :: ps, r)
      else if c = '$' then do
        let (p, r) ← expansion? limit quoted r
        let (ps, r) ← pieces? limit stop quoted r
        return (p :: ps, r)
      else do
        let (ps, r) ← pieces? limit stop quoted r
        return (.literal quoted [c] :: ps, r)

/-- Reads what follows a dollar sign. -/
def expansion? : Nat → (quoted : Bool) → Text → Reading (Piece × Text)
  | 0, _, _ => .error unterminated
  | limit + 1, quoted, s =>
    match s with
    | '(' :: '(' :: r =>
      match balanced? (r.length + 1) 0 r with
      | some (inner, ')' :: r) => do
        let (ps, _) ← pieces? limit (fun _ => false) true inner
        return (.arithmetic quoted ps, r)
      | _ => .error ⟨"Missing '))'".toList, [], true⟩
    | '(' :: r =>
      match balanced? (r.length + 1) 0 r with
      | some (inner, r) => .ok (.substitution quoted inner, r)
      | none => .error ⟨"end of file unexpected (expecting \")\")".toList, [], true⟩
    | '\x7b' :: '#' :: r =>
      match parameterName? r with
      | some (name, '\x7d' :: r) => .ok (.parameter quoted name .length, r)
      | _ => match r with
        | '\x7d' :: r => .ok (.parameter quoted ['#'] .plain, r)
        | _ => .error (badSubstitution r)
    | '\x7b' :: r =>
      match parameterName? r with
      | none => .error (badSubstitution r)
      | some (name, r) => do
        let name := if name.all Char.isDigit then name ++ r.takeWhile Char.isDigit else name
        let r := if name.all Char.isDigit then r.dropWhile Char.isDigit else r
        let (form, r) ← form? limit quoted r
        match r with
        | '\x7d' :: r => return (.parameter quoted name form, r)
        | _ => .error (badSubstitution r)
    | _ =>
      match parameterName? s with
      | some (name, r) => .ok (.parameter quoted name .plain, r)
      | none => .ok (.literal quoted ['$'], s)

/-- Reads what follows the name of a parameter in braces. -/
def form? : Nat → (quoted : Bool) → Text → Reading (Form × Text)
  | 0, _, _ => .error unterminated
  | limit + 1, quoted, s =>
    let word (r : Text) := pieces? limit (· = '\x7d') quoted r
    match s with
    | ':' :: '-' :: r => (word r).map fun (w, r) => (.orElse false w, r)
    | ':' :: '=' :: r => (word r).map fun (w, r) => (.orAssign false w, r)
    | ':' :: '?' :: r => (word r).map fun (w, r) => (.orFail false w, r)
    | ':' :: '+' :: r => (word r).map fun (w, r) => (.alternative false w, r)
    | '-' :: r => (word r).map fun (w, r) => (.orElse true w, r)
    | '=' :: r => (word r).map fun (w, r) => (.orAssign true w, r)
    | '?' :: r => (word r).map fun (w, r) => (.orFail true w, r)
    | '+' :: r => (word r).map fun (w, r) => (.alternative true w, r)
    | '#' :: '#' :: r => (word r).map fun (w, r) => (.cutStart true w, r)
    | '#' :: r => (word r).map fun (w, r) => (.cutStart false w, r)
    | '%' :: '%' :: r => (word r).map fun (w, r) => (.cutEnd true w, r)
    | '%' :: r => (word r).map fun (w, r) => (.cutEnd false w, r)
    | r => .ok (.plain, r)

end

/-- Reads one word. -/
def word? (s : Text) : Reading (Word × Text) := pieces? (2 * s.length + 2) isOperator false s

/-- The unquoted text at the start, which may be a reserved word. -/
def plainWord (s : Text) : Text :=
  let t := s.takeWhile fun c => !isOperator c
  if t.any fun c => c = '\'' || c = '"' || c = '\\' || c = '$' || c = '\x60' then [] else t

end LiveLine.Shell
