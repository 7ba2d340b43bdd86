import LiveLine.Shell.Reader.Simple

/-!
# Reading shell scripts

Compound commands and what joins commands. Scripts are read one line of commands at a time, so that
what precedes an error still runs.
-/

namespace LiveLine.Shell

/-- Skips a reserved word that has to stand at the start. -/
def reserved? (name : String) (s : Text) : Except ReadError Text :=
  let s := skipNewlines (s.length + 1) s
  if plainWord s = name.toList then .ok (s.drop name.toList.length)
  else .error (expected name.toList s)

/-- The text, unless something stands there that cannot begin a list of commands. -/
def nonempty (s : Text) : Except ReadError Text :=
  let r := skipNewlines (s.length + 1) s
  match r with
  | ')' :: _ | ';' :: _ => .error (expected [] r)
  | r => if closers.contains (plainWord r) then .error (expected [] r) else .ok s

/-- Whether a list of commands can go on at the start of a text. -/
def listGoesOn (s : Text) : Bool :=
  match s with
  | [] | ')' :: _ => false
  | ';' :: ';' :: _ => false
  | _ => !closers.contains (plainWord s)

mutual

/-- Reads a list of commands up to what closes it. -/
def list? (total : Nat) : Nat → Text → Reading (Command × Text)
  | 0, s => .error (expected [] s)
  | limit + 1, s => do
    let s := skipNewlines (s.length + 1) s
    if !listGoesOn s then return (.nothing, s)
    else
      let (c, r) ← andOr? total limit s
      let next : Option (Command × Text) := match skipBlanks r with
        | ';' :: ';' :: _ => none
        | ';' :: r | '\n' :: r => some (c, r)
        | '&' :: r => some (.background c, r)
        | _ => none
      match next with
      | none => return (c, skipBlanks r)
      | some (c, r) =>
        let (d, r) ← list? total limit r
        return (.sequence c d, r)

/-- Reads pipelines that are joined by their success. -/
def andOr? (total : Nat) : Nat → Text → Reading (Command × Text)
  | 0, s => .error (expected [] s)
  | limit + 1, s => do
    let (c, r) ← pipeline? total limit s
    joined? total limit c r

/-- Reads on after a pipeline. -/
def joined? (total : Nat) : Nat → Command → Text → Reading (Command × Text)
  | 0, _, s => .error (expected [] s)
  | limit + 1, c, s =>
    match skipBlanks s with
    | '&' :: '&' :: r => do
      let (d, r) ← pipeline? total limit (skipNewlines (r.length + 1) r)
      joined? total limit (.both c d) r
    | '|' :: '|' :: r => do
      let (d, r) ← pipeline? total limit (skipNewlines (r.length + 1) r)
      joined? total limit (.either c d) r
    | r => .ok (c, r)

/-- Reads commands that pass on their output. -/
def pipeline? (total : Nat) : Nat → Text → Reading (Command × Text)
  | 0, s => .error (expected [] s)
  | limit + 1, s => do
    let s := skipBlanks s
    let negated : Bool := plainWord s = ['!']
    let (cs, r) ← stages? total limit (if negated then s.drop 1 else s)
    match cs with
    | [c] => return (if negated then .pipeline true [c] else c, r)
    | cs => return (.pipeline negated cs, r)

def stages? (total : Nat) : Nat → Text → Reading (List Command × Text)
  | 0, s => .error (expected [] s)
  | limit + 1, s => do
    let (c, r) ← command? total limit s
    match skipBlanks r with
    | '|' :: '|' :: _ => return ([c], skipBlanks r)
    | '|' :: r =>
      let (cs, r) ← stages? total limit (skipNewlines (r.length + 1) r)
      return (c :: cs, r)
    | r => return ([c], r)

/-- Reads one command. -/
def command? (total : Nat) : Nat → Text → Reading (Command × Text)
  | 0, s => .error (expected [] s)
  | limit + 1, s => do
    let s := skipBlanks s
    let line := total - s.count '\n' + 1
    let finish (c : Command) (r : Text) : Reading (Command × Text) := do
      let (xs, r) ← redirects? (r.length + 1) r
      return (.located line (if xs.isEmpty then c else .redirected c xs), r)
    match s with
    | [] => .error (expected [] s)
    | '(' :: r => do
      let (body, r) ← list? total limit (← nonempty r)
      match r with
      | ')' :: r => finish (.subshell body) r
      | _ => .error (expected [')'] r)
    | c :: _ =>
      let w := plainWord s
      if w = ['\x7b'] then do
        let (body, r) ← list? total limit (← nonempty (s.drop 1))
        finish body (← reserved? "\x7d" r)
      else if w = "if".toList then do
        let (c, r) ← branch? total limit (s.drop 2)
        finish c r
      else if w = "while".toList || w = "until".toList then do
        let (condition, r) ← list? total limit (← nonempty (s.drop 5))
        let r ← reserved? "do" r
        let (body, r) ← list? total limit (← nonempty r)
        finish (.loop (w = "until".toList) condition body) (← reserved? "done" r)
      else if w = "for".toList then do
        let r := skipBlanks (s.drop 3)
        let name := r.takeWhile isNameChar
        if !isName name then .error ⟨"Bad for loop variable".toList, r, true⟩
        else
          let r := skipNewlines (r.length + 1) (r.drop name.length)
          let (words, r) ← if plainWord r = "in".toList then do
              let (c, r) ← simple? 0 (r.length + 2) [] [[]] [] (r.drop 2)
              match c with
              | .simple _ _ ws _ =>
                match r with
                | ';' :: _ | '\n' :: _ => pure (some (ws.drop 1), r)
                | r => throw (expected [] r)
              | _ => pure (none, r)
            else pure (none, r)
          let r := match skipBlanks r with
            | ';' :: r => r
            | r => r
          let r ← reserved? "do" r
          let (body, r) ← list? total limit (← nonempty r)
          finish (.forEach name words body) (← reserved? "done" r)
      else if w = "case".toList then do
        let (subject, r) ← word? (skipBlanks (s.drop 4))
        if subject.isEmpty then throw ⟨describe r ++ " (expecting word)".toList, r, true⟩
        let r ← reserved? "in" r
        let (branches, r) ← branches? total limit r
        finish (.choose subject branches) r
      else if closers.contains w || (isOperator c && (redirect? s).isNone) then
        .error (expected [] s)
      else
        let plain := simple? line (s.length + 2) [] [] [] s
        match if (assignment? s).isSome || (redirect? s).isSome then none else some (word? s) with
        | some (.ok (_, r)) =>
          match skipBlanks r with
          | '(' :: r =>
            match skipBlanks r with
            | ')' :: r =>
              if isName w && !isSpecial w then do
                let (body, r) ← command? total limit (skipNewlines (r.length + 1) r)
                return (.function w body, r)
              else .error ⟨"Bad function name".toList, r, true⟩
            | r => .error (expected [')'] r)
          | _ => plain
        | _ => plain

/-- Reads what follows `if` or `elif`. -/
def branch? (total : Nat) : Nat → Text → Reading (Command × Text)
  | 0, s => .error (expected [] s)
  | limit + 1, s => do
    let (condition, r) ← list? total limit (← nonempty s)
    let r ← reserved? "then" r
    let (success, r) ← list? total limit (← nonempty r)
    let w := plainWord r
    if w = "elif".toList then
      let (failure, r) ← branch? total limit (r.drop 4)
      return (.conditional condition success (some failure), r)
    else if w = "else".toList then
      let (failure, r) ← list? total limit (← nonempty (r.drop 4))
      return (.conditional condition success (some failure), ← reserved? "fi" r)
    else return (.conditional condition success none, ← reserved? "fi" r)

/-- Reads the branches of a choice up to its end. -/
def branches? (total : Nat) : Nat → Text → Reading (List (List Word × Command) × Text)
  | 0, s => .error (expected [] s)
  | limit + 1, s => do
    let s := skipNewlines (s.length + 1) s
    if plainWord s = "esac".toList then return ([], s.drop 4)
    else
      let (patterns, r) ← patterns? limit (match s with
        | '(' :: r => r
        | s => s)
      let (body, r) ← list? total limit r
      match r with
      | ';' :: ';' :: r =>
        let (rest, r) ← branches? total limit r
        return ((patterns, body) :: rest, r)
      | r => return ([(patterns, body)], ← reserved? "esac" r)

/-- Reads the patterns of a branch up to its parenthesis. -/
def patterns? : Nat → Text → Reading (List Word × Text)
  | 0, s => .error (expected [] s)
  | limit + 1, s => do
    let (w, r) ← word? (skipBlanks s)
    match skipBlanks r with
    | '|' :: r =>
      let (ws, r) ← patterns? limit r
      return (w :: ws, r)
    | ')' :: r => return ([w], r)
    | r => .error (expected [')'] r)

end

/-- A bound on the steps that reading a text takes. -/
def readLimit (s : Text) : Nat := 12 * (s.length + 2)

/-- Reads commands up to the end of a line. -/
def rowOf? (total : Nat) : Nat → Text → Reading (Command × Text)
  | 0, s => .error (expected [] s)
  | limit + 1, s => do
    let (c, r) ← andOr? total (readLimit s) s
    let goOn (c : Command) (r : Text) : Reading (Command × Text) :=
      match skipBlanks r with
      | [] => .ok (c, [])
      | '\n' :: r => .ok (c, r)
      | r => do
        let (d, r) ← rowOf? total limit r
        return (.sequence c d, r)
    match skipBlanks r with
    | ';' :: ';' :: _ => .error (expected [] (skipBlanks r))
    | ';' :: r => goOn c r
    | '&' :: r => goOn (.background c) r
    | [] => return (c, [])
    | '\n' :: r => return (c, r)
    | r => .error (expected [] r)

/-- Reads the commands of the next line that holds any; nothing at the end of the script. -/
def row? (total : Nat) (s : Text) : Reading (Option (Command × Text)) := do
  let s := skipNewlines (s.length + 1) s
  if s.isEmpty then return none
  else return some (← rowOf? total (s.length + 1) s)

end LiveLine.Shell
