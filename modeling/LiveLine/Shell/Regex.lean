import LiveLine.Shell.Pattern

/-!
# Regular expressions

Basic and extended expressions are read into their parts. Of the matches in a text the leftmost
counts, and of those that begin there the longest.
-/

namespace LiveLine.Shell

/-- What an expression can ask of a place between characters. -/
inductive Edge where
  | start
  | finish
  | wordStart
  | wordEnd
  | wordEdge
  | noWordEdge
  deriving DecidableEq, Repr

inductive Regex where
  /-- The empty text. -/
  | nothing
  | single (s : Single)
  | edge (e : Edge)
  | both (first second : Regex)
  | either (first second : Regex)
  | repeated (x : Regex) (least : Nat) (most : Option Nat)
  | group (n : Nat) (x : Regex)
  /-- What a group matched before. -/
  | again (n : Nat)
  deriving Repr

/-- A place in a text, and what the groups matched on the way to it. -/
structure Place where
  position : Nat := 0
  /-- What precedes the place, the last character first. -/
  before : Text := []
  rest : Text
  groups : List (Nat × Text) := []
  deriving DecidableEq, Repr

namespace Place

/-- The place some characters further on. -/
def skip (n : Nat) (p : Place) : Place :=
  let t := p.rest.take n
  { p with
    position := p.position + t.length
    before := t.reverse ++ p.before
    rest := p.rest.drop n }

/-- The text up to a later place. -/
def upTo (p q : Place) : Text := p.rest.take (q.position - p.position)

end Place

def isWordChar (c : Char) : Bool := c.isAlphanum || c = '_'

def Edge.holds (p : Place) (e : Edge) : Bool :=
  let left := p.before.head?.any isWordChar
  let right := p.rest.head?.any isWordChar
  match e with
  | start => p.before.isEmpty
  | finish => p.rest.isEmpty
  | wordStart => !left && right
  | wordEnd => left && !right
  | wordEdge => left != right
  | noWordEdge => left = right

namespace Regex

/-! ## Matching -/

/-- Where a step that is taken further times leads to, more of them first, and at most `most` times.
Each step has to get on, so that there are no more of them than characters ahead. -/
def further (step : Place → List Place) :
    (ahead : Text) → (most : Option Nat) → List Place → List Place → List Place
  | [], _, ps, found => ps ++ found
  | _ :: ahead, most, ps, found =>
    if most = some 0 then ps ++ found
    else
      match (ps.flatMap fun p => (step p).filter fun q => p.position < q.position).eraseDups with
      | [] => ps ++ found
      | qs => further step ahead (most.map (· - 1)) qs (ps ++ found)

/-- Where the matches from a place on end. -/
def ends : Regex → Place → List Place
  | nothing, p => [p]
  | single s, p => match p.rest with
    | c :: _ => if s.holds c then [p.skip 1] else []
    | [] => []
  | edge e, p => if e.holds p then [p] else []
  | both x y, p => (ends x p).flatMap (ends y)
  | either x y, p => ends x p ++ ends y p
  | repeated x least most, p =>
    let first := Nat.repeat (fun ps => (ps.flatMap (ends x)).eraseDups) least [p]
    further (ends x) p.rest (most.map (· - least)) first []
  | group n x, p => (ends x p).map fun q =>
    { q with groups := (n, p.upTo q) :: q.groups.filter (·.1 ≠ n) }
  | again n, p => match p.groups.lookup n with
    | some t => if t.isPrefixOf p.rest then [p.skip t.length] else []
    | none => []

/-- The longest match from a place on, of those that are accepted. -/
def longest? (x : Regex) (accepts : Place → Place → Bool) (p : Place) : Option Place :=
  ((ends x p).filter (accepts p)).foldl (fun best q => match best with
    | some b => if b.position < q.position then some q else some b
    | none => some q) none

/-- A match: where it begins and where it ends. -/
structure Match where
  start : Place
  stop : Place
  deriving Repr

def Match.text (m : Match) : Text := m.start.upTo m.stop

/-- The first match in a text that begins at a position, after other characters. -/
def searchFrom? (x : Regex) (accepts : Place → Place → Bool) (before : Text) (position : Nat) :
    Text → Option Match
  | [] =>
    let p : Place := { position, before, rest := [] }
    (x.longest? accepts p).map (⟨p, ·⟩)
  | c :: r =>
    let p : Place := { position, before, rest := c :: r }
    match x.longest? accepts p with
    | some q => some ⟨p, q⟩
    | none => searchFrom? x accepts (c :: before) (position + 1) r

/-- The first match in a text. -/
def search? (x : Regex) (t : Text) : Option Match := x.searchFrom? (fun _ _ => true) [] 0 t

/-- The matches in a text one after another, where none is empty directly after another one, which
ended at `last`. -/
def matchesFrom (x : Regex) (accepts : Place → Place → Bool) :
    Nat → (last : Option Nat) → Place → List Match
  | 0, _, _ => []
  | limit + 1, last, p =>
    match x.searchFrom? accepts p.before p.position p.rest with
    | none => []
    | some m =>
      let q := m.stop
      if m.start.position < q.position then
        m :: matchesFrom x accepts limit (some q.position) q
      else
        let others := if q.rest.isEmpty then [] else matchesFrom x accepts limit last (q.skip 1)
        if last = some q.position then others else m :: others

/-- All matches in a text. -/
def matchesIn (x : Regex) (accepts : Place → Place → Bool) (t : Text) : List Match :=
  matchesFrom x accepts (t.length + 1) none { rest := t }

/-! ## Letters of either case -/

/-- The characters of either case where one of them is taken. -/
def eitherCase : Single → Single
  | .only c => .bracket ⟨false, [(c.toLower, c.toLower), (c.toUpper, c.toUpper)]⟩
  | .any => .any
  | .bracket b =>
    let taken (c : Char) : Bool := b.ranges.any fun r => r.1 ≤ c && c ≤ r.2
    let letters := (List.range 26).map fun i => (Char.ofNat (97 + i), Char.ofNat (65 + i))
    let further := (letters.filter fun l => taken l.1 || taken l.2).flatMap fun l =>
      [(l.1, l.1), (l.2, l.2)]
    .bracket { b with ranges := b.ranges ++ further }

/-- An expression without regard to the case of letters. -/
def ignoringCase : Regex → Regex
  | single s => single (eitherCase s)
  | both x y => both x.ignoringCase y.ignoringCase
  | either x y => either x.ignoringCase y.ignoringCase
  | repeated x least most => repeated x.ignoringCase least most
  | group n x => group n x.ignoringCase
  | x => x

/-! ## Reading -/

/-- The expression for a text as it is. -/
def ofLiteral (t : Text) : Regex := t.foldr (fun c x => both (single (.only c)) x) nothing

/-- Why a text is no expression. -/
inductive Fault where
  | opening
  | closing
  | bracket
  | bounds
  | reference
  | backslash
  deriving DecidableEq, Repr

def Fault.description : Fault → Text
  | opening => "Unmatched ( or \\(".toList
  | closing => "Unmatched ) or \\)".toList
  | bracket => "Unmatched [, [^, [:, [., or [=".toList
  | bounds => "Invalid content of \\\x7b\\\x7d".toList
  | reference => "Invalid back reference".toList
  | backslash => "Trailing backslash".toList

/-- What an expression is written with. -/
inductive Piece where
  | part (x : Regex)
  | times (least : Nat) (most : Option Nat)
  | opening
  | closing
  | bar
  deriving Repr

/-- Reads the bounds of a repeat and the brace after them. -/
def bounds? (extended : Bool) (t : Text) : Option (Nat × Option Nat × Text) := do
  let low := t.takeWhile Char.isDigit
  let r := t.drop low.length
  let (high, r) : Option Text × Text := match r with
    | ',' :: r =>
      let high := r.takeWhile Char.isDigit
      (some high, r.drop high.length)
    | r => (none, r)
  let rest ← Text.dropLead? (if extended then ['\x7d'] else ['\\', '\x7d']) r
  if low.isEmpty && high.isNone then none
  let least := (Text.numeral? low).getD 0
  let most := match high with
    | none => some least
    | some h => Text.numeral? h
  if most.any (· < least) then none
  return (least, most, rest)

/-- What a character means after a backslash that takes away no special meaning. -/
def escape (c : Char) : Regex :=
  let word : List (Char × Char) := [('a', 'z'), ('A', 'Z'), ('0', '9'), ('_', '_')]
  let blank : List (Char × Char) := [('\t', '\r'), (' ', ' ')]
  match c with
  | 'w' => single (.bracket ⟨false, word⟩)
  | 'W' => single (.bracket ⟨true, word⟩)
  | 's' => single (.bracket ⟨false, blank⟩)
  | 'S' => single (.bracket ⟨true, blank⟩)
  | 'b' => edge .wordEdge
  | 'B' => edge .noWordEdge
  | '<' => edge .wordStart
  | '>' => edge .wordEnd
  | '\x60' => edge .start
  | '\'' => edge .finish
  | c => if '1' ≤ c && c ≤ '9' then again (c.toNat - 48) else single (.only c)

/-- Reads the pieces of an expression. In a basic one, parentheses, braces and bars have a
backslash before them, and a star in front of which nothing stands is a character. -/
def pieces (extended : Bool) : Nat → (inFront : Bool) → Text → Except Fault (List Piece)
  | 0, _, _ | _, _, [] => .ok []
  | _, _, ['\\'] => .error .backslash
  | limit + 1, inFront, c :: r => do
    let goOn (p : Piece) (inFront : Bool) (r : Text) : Except Fault (List Piece) :=
      return p :: (← pieces extended limit inFront r)
    let (escaped, c, r) := match c, r with
      | '\\', d :: r => (true, d, r)
      | c, r => (false, c, r)
    let special : Bool := escaped != extended
    if special && c = '(' then goOn .opening true r
    else if special && c = ')' then goOn .closing false r
    else if special && c = '|' then goOn .bar true r
    else if special && c = '+' then goOn (.times 1 none) false r
    else if special && c = '?' then goOn (.times 0 (some 1)) false r
    else if special && c = '\x7b' then
      match bounds? extended r with
      | some (least, most, rest) => goOn (.times least most) false rest
      | none => if extended then goOn (.part (single (.only c))) false r else throw .bounds
    else if escaped then goOn (.part (escape c)) false r
    else if c = '*' && (extended || !inFront) then goOn (.times 0 none) false r
    else if c = '^' && (extended || inFront) then goOn (.part (edge .start)) true r
    else if c = '$' && (extended || r.isEmpty || "\\)".toList.isPrefixOf r ||
        "\\|".toList.isPrefixOf r) then goOn (.part (edge .finish)) false r
    else if c = '.' then goOn (.part (single .any)) false r
    else if c = '[' then
      match bracket? '^' r with
      | some (b, rest) => goOn (.part (single (.bracket b))) false rest
      | none => throw .bracket
    else goOn (.part (single (.only c))) false r

/-- A group that is being read: the alternatives that are complete, and the parts of the last one,
the newest first. -/
structure Pending where
  number : Nat := 0
  complete : Option Regex := none
  parts : List Regex := []

namespace Pending

def add (p : Pending) (x : Regex) : Pending := { p with parts := x :: p.parts }

def whole (p : Pending) : Regex :=
  let last := p.parts.foldl (fun after x => both x after) nothing
  match p.complete with
  | some x => either x last
  | none => last

end Pending

/-- The groups that are being read, and how many have been opened. -/
structure Assembly where
  current : Pending := {}
  outer : List Pending := []
  groups : Nat := 0

/-- Takes one more piece. A repeat of nothing is nothing. -/
def Assembly.take (a : Assembly) : Piece → Except Fault Assembly
  | .part (again n) =>
    if n ≤ a.groups then .ok { a with current := a.current.add (again n) } else .error .reference
  | .part x => .ok { a with current := a.current.add x }
  | .times least most => match a.current.parts with
    | x :: rest =>
      .ok { a with current := { a.current with parts := repeated x least most :: rest } }
    | [] => .ok a
  | .opening => .ok {
      current := { number := a.groups + 1 }
      outer := a.current :: a.outer
      groups := a.groups + 1 }
  | .closing => match a.outer with
    | o :: rest => .ok { a with
        current := o.add (group a.current.number a.current.whole)
        outer := rest }
    | [] => .error .closing
  | .bar =>
    .ok { a with current := { a.current with complete := some a.current.whole, parts := [] } }

/-- Reads an expression, and gives the number of its groups with it. -/
def read (extended : Bool) (t : Text) : Except Fault (Regex × Nat) := do
  let a ← (← pieces extended (t.length + 1) true t).foldlM Assembly.take {}
  if a.outer.isEmpty then return (a.current.whole, a.groups) else throw .opening

end Regex

end LiveLine.Shell
