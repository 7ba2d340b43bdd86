import LiveLine.Toml.Scalar

/-!
# Reading a configuration file

A file is a sequence of lines, each with a key and its value, a header, or neither. The main
definition is `Toml.read?`, which gives the root table of a well-formed text.
-/

namespace LiveLine.Toml

mutual

/-- Reads a value that may hold `depth` further levels. -/
def value? : Nat → Nat → Text → Option (Value × Text)
  | 0, _, _ => none
  | limit + 1, depth, s =>
    match s with
    | '[' :: r => if depth = 0 then none else items? limit (depth - 1) [] r
    | '\x7b' :: r => if depth = 0 then none else fields? limit (depth - 1) ⟨.braces, []⟩ r
    | '"' :: _ | '\'' :: _ => (string? s).map fun (t, r) => (.text t, r)
    | _ =>
      let word := unquoted s
      (scalar? word).map fun v => (v, s.drop word.length)

/-- Reads the rest of an array after `done`. -/
def items? : Nat → Nat → List Value → Text → Option (Value × Text)
  | 0, _, _, _ => none
  | limit + 1, depth, done, s =>
    match skipLines s.length s with
    | ']' :: r => some (.array false done, r)
    | r => do
      let (v, r) ← value? limit depth r
      match skipLines r.length r with
      | ',' :: r => items? limit depth (done ++ [v]) r
      | ']' :: r => return (.array false (done ++ [v]), r)
      | _ => none

/-- Reads the rest of a table in braces, in which a line may end anywhere but inside a key. -/
def fields? : Nat → Nat → Table → Text → Option (Value × Text)
  | 0, _, _, _ => none
  | limit + 1, depth, t, s =>
    match skipLines s.length s with
    | '\x7d' :: r => some (t.toValue, r)
    | r => do
      let ((path, key), r) ← key? r
      match skipLines r.length r with
      | '=' :: r =>
        let (v, r) ← value? limit depth (skipLines r.length r)
        let t ← t.assign path key v
        match skipLines r.length r with
        | ',' :: r => fields? limit depth t r
        | '\x7d' :: r => return (t.toValue, r)
        | _ => none
      | _ => none

end

/-- The table that is being filled: the path of the last header, if there was one. -/
structure Filling where
  root : Table := ⟨.header, []⟩
  current : Option (List Text × Text) := none

/-- Adds a key and its value to the current table. -/
def Filling.assign (f : Filling) (path : List Text) (key : Text) (v : Value) : Option Filling :=
  let root := match f.current with
    | none => f.root.assign path key v
    | some (outer, name) => Table.modify false (outer ++ [name]) (·.assign path key v) f.root
  root.map fun root => { f with root }

/-- Reads what a line holds, up to its end. -/
def statement? (f : Filling) (s : Text) : Option (Filling × Text) :=
  match s with
  | '[' :: '[' :: r => do
    let ((path, key), r) ← key? r
    let r ← Text.dropLead? "]]".toList r
    let root ← f.root.openElement path key
    return (⟨root, some (path, key)⟩, r)
  | '[' :: r => do
    let ((path, key), r) ← key? r
    let r ← Text.dropLead? [']'] r
    let root ← f.root.openTable path key
    return (⟨root, some (path, key)⟩, r)
  | [] | '#' :: _ | '\n' :: _ | '\r' :: _ => some (f, s)
  | _ => do
    let ((path, key), r) ← key? s
    let r ← Text.dropLead? ['='] r
    let (v, r) ← value? (r.length + 1) maxDepth (skipSpaces r)
    let f ← f.assign path key v
    return (f, r)

/-- Reads the remaining lines of a file. -/
def lines? : Nat → Filling → Text → Option Filling
  | _, f, [] => some f
  | 0, _, _ => none
  | limit + 1, f, s => do
    let (f, r) ← statement? f (skipSpaces s)
    lines? limit f (← endLine? r)

/-- The entries of the root table, if the text is well formed. A byte order mark at the start is
not part of it. -/
def read? (s : Text) : Option Entries :=
  let s := match s with
    | '\uFEFF' :: r => r
    | s => s
  (lines? (s.length + 1) {} s).map fun f => f.root.entries

end LiveLine.Toml
