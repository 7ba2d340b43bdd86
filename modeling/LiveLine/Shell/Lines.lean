import LiveLine.Shell.Regex

/-!
# Programs on lines

What the usual text programs make of their input, as functions on the text.
-/

namespace LiveLine.Shell

/-- The lines of a text without their ends. A last line that is not ended counts. -/
def lines (t : Text) : List Text :=
  match (Text.splitOn '\n' t).reverse with
  | [] :: rest => rest.reverse
  | all => all.reverse

/-- Lines with an end after each. -/
def unlines (ls : List Text) : Text := ls.flatMap (· ++ ['\n'])

/-- The pieces that a text consists of, each a line with its end. -/
def endedLines (t : Text) : List Text :=
  match t with
  | [] => []
  | c :: r =>
    if c = '\n' then [c] :: endedLines r
    else match endedLines r with
      | [] => [[c]]
      | l :: ls => (c :: l) :: ls

/-- A number as it stands at the start of a text, possibly after blanks and a minus sign. -/
def leadingNumber (t : Text) : Int :=
  match t.dropWhile (fun c => c = ' ' || c = '\t') with
  | '-' :: r => -Int.ofNat ((Text.numeral? (r.takeWhile Char.isDigit)).getD 0)
  | r => Int.ofNat ((Text.numeral? (r.takeWhile Char.isDigit)).getD 0)

def isSeparator (c : Char) : Bool :=
  c = ' ' || c = '\t' || c = '\n' || c = '\r' || c = '\x0B' || c = '\x0C'

/-- The words between blanks. -/
def words (t : Text) : List Text :=
  let (ws, w) := t.foldr (fun c (ws, w) =>
    if isSeparator c then (if w.isEmpty then ws else w :: ws, []) else (ws, c :: w)) ([], [])
  if w.isEmpty then ws else w :: ws

def padLeft (width : Nat) (t : Text) : Text := List.replicate (width - t.length) ' ' ++ t

namespace Lines

/-- The lines in reverse order. A last line without an end is not separated from the one after
it. -/
def reversed (t : Text) : Text := (endedLines t).reverse.flatten

/-! ## Order -/

/-- The number at the start of a text, times ten to the twentieth power. -/
def scaledNumber (t : Text) : Int :=
  let t := t.dropWhile fun c => c = ' ' || c = '\t'
  let (negative, t) := match t with
    | '-' :: r => (true, r)
    | r => (false, r)
  let whole := t.takeWhile Char.isDigit
  let part := match t.drop whole.length with
    | '.' :: r => r.takeWhile Char.isDigit
    | _ => []
  let places := (part ++ List.replicate 20 '0').take 20
  let n := Int.ofNat ((Text.numeral? (whole ++ places)).getD 0)
  if negative then -n else n

/-- What lines are compared by: a part of them, from a character of a field on up to another one,
and how. The end of a field is its character zero. -/
structure Key where
  first : Nat × Nat := (1, 1)
  last : Option (Nat × Nat) := none
  numeric : Bool := false
  reversed : Bool := false
  folded : Bool := false
  skipsBlanks : Bool := false
  deriving Repr

/-- The fields of a line. Without a separator each begins with the blanks before it. -/
def fieldsOf (separator : Option Char) (line : Text) : List Text :=
  match separator with
  | some c => Text.splitOn c line
  | none =>
    let isBlank (c : Char) : Bool := c = ' ' || c = '\t'
    line.foldr (fun c fields => match fields with
      | [] => [[c]]
      | (d :: f) :: rest =>
        if isBlank d && !isBlank c then [c] :: (d :: f) :: rest else (c :: d :: f) :: rest
      | [] :: rest => [c] :: rest) []

namespace Key

/-- The part of a line that is compared. -/
def part (k : Key) (separator : Option Char) (line : Text) : Text :=
  let fields := fieldsOf separator line
  let chosen := match k.last with
    | none => fields
    | some (n, 0) => fields.take n
    | some (n, c) => fields.take (n - 1) ++ ((fields.drop (n - 1)).take 1).map (List.take c)
  let chosen := chosen.drop (k.first.1 - 1)
  let text := match separator with
    | some c => Text.joinWith c chosen
    | none => chosen.flatten
  let text := if k.skipsBlanks then text.dropWhile fun c => c = ' ' || c = '\t' else text
  text.drop (k.first.2 - 1)

/-- Compares two lines. -/
def compare (k : Key) (separator : Option Char) (a b : Text) : Ordering :=
  let a := k.part separator a
  let b := k.part separator b
  let order :=
    if k.numeric then Ord.compare (scaledNumber a) (scaledNumber b)
    else
      let fold (t : Text) : Text := if k.folded then t.map Char.toUpper else t
      if fold a = fold b then .eq else if Text.notAfter (fold a) (fold b) then .lt else .gt
  if k.reversed then order.swap else order

/-- Reads a place such as `2.1` and the letters after it. -/
def place? (standard : Nat) (t : Text) : Option ((Nat × Nat) × Text) := do
  let field := t.takeWhile Char.isDigit
  let n ← Text.numeral? field
  match t.drop field.length with
  | '.' :: r =>
    let digits := r.takeWhile Char.isDigit
    return ((n, ← Text.numeral? digits), r.drop digits.length)
  | r => return ((n, standard), r)

/-- Reads a key such as `2,3n`; without letters of its own it compares like the one that is
given. -/
def read? (like : Key) (t : Text) : Option Key := do
  let (first, r) ← place? 1 t
  let letters := r.takeWhile (· ≠ ',')
  let (last, more) ← match r.drop letters.length with
    | ',' :: r => do
      let (last, more) ← place? 0 r
      pure (some last, more)
    | _ => pure (none, [])
  let letters := letters ++ more
  if letters.isEmpty then return { like with first, last }
  return {
    first
    last
    numeric := letters.contains 'n'
    reversed := letters.contains 'r'
    folded := letters.contains 'f'
    skipsBlanks := letters.contains 'b' }

end Key

/-- The order in which lines are sorted. -/
structure Order where
  keys : List Key
  separator : Option Char := none
  /-- Whether lines with equal keys are compared as a whole, and whether in reverse. -/
  last : Option Bool := some false

def Order.compare (o : Order) (a b : Text) : Ordering :=
  let byKeys := o.keys.foldl (fun order k => order.then (k.compare o.separator a b)) .eq
  match o.last with
  | none => byKeys
  | some reversed => byKeys.then (Key.compare { reversed } none a b)

/-- The lines without those that repeat the one before. -/
def squeeze (same : Text → Text → Bool) : List Text → List Text
  | [] => []
  | a :: rest => match squeeze same rest with
    | [] => [a]
    | b :: bs => if same a b then a :: bs else a :: b :: bs

def sorted (o : Order) (unique : Bool) (t : Text) : Text :=
  let ls := (lines t).mergeSort fun a b => o.compare a b ≠ .gt
  unlines (if unique then squeeze (fun a b => o.compare a b = .eq) ls else ls)

/-- Each line with the number of times that one like it follows at once. -/
def counted (key : Text → Text) : List Text → List (Text × Nat)
  | [] => []
  | a :: rest => match counted key rest with
    | (b, n) :: more =>
      if key a = key b then (a, n + 1) :: more else (a, 1) :: (b, n) :: more
    | [] => [(a, 1)]

/-- Repeated lines once, with a count if `count`, only the repeated ones or only the others. -/
def distinct (key : Text → Text) (count repeatedOnly singleOnly : Bool) (t : Text) : Text :=
  unlines (((counted key (lines t)).filter fun l =>
    (!repeatedOnly || 1 < l.2) && (!singleOnly || l.2 = 1)).map fun l =>
    if count then padLeft 7 (Text.ofNat l.2) ++ ' ' :: l.1 else l.1)

/-! ## Parts and counts -/

/-- How much of a text is taken. -/
inductive Extent where
  | first (n : Nat)
  /-- All but the last ones. -/
  | butLast (n : Nat)
  | last (n : Nat)
  /-- From the one with this number on. -/
  | starting (n : Nat)

def Extent.take {α : Type} (l : List α) : Extent → List α
  | first n => l.take n
  | butLast n => l.take (l.length - n)
  | last n => l.drop (l.length - n)
  | starting n => l.drop (n - 1)

/-- How wide a line is shown, where a tab leads to the next column that is a multiple of eight. -/
def shownWidth (line : Text) : Nat :=
  line.foldl (fun n c => if c = '\t' then (n / 8 + 1) * 8 else if ' ' ≤ c && c ≤ '~' then n + 1
    else n) 0

/-- What is counted of a text. -/
structure Counts where
  lines : Nat := 0
  /-- The words that have some character that can be printed. -/
  words : Nat := 0
  bytes : Nat := 0
  /-- The width of the widest line. -/
  width : Nat := 0

def Counts.ofText (t : Text) : Counts where
  lines := t.count '\n'
  words := (Shell.words t).countP fun w => w.any fun c => '!' ≤ c && c ≤ '~'
  bytes := t.length
  width := (Text.splitOn '\n' t).foldl (fun n l => max n (shownWidth l)) 0

def Counts.add (a b : Counts) : Counts where
  lines := a.lines + b.lines
  words := a.words + b.words
  bytes := a.bytes + b.bytes
  width := max a.width b.width

/-- The letters that stand for six bits. -/
def sixBitLetters : List Char :=
  "ABCDEFGHIJKLMNOPQRSTUVWXYZabcdefghijklmnopqrstuvwxyz0123456789+/".toList

/-- Bytes in base sixty-four, three at a time. -/
def base64 : Text → Text
  | a :: b :: c :: r =>
    let n := a.toNat * 65536 + b.toNat * 256 + c.toNat
    letter (n / 262144) :: letter (n / 4096) :: letter (n / 64) :: letter n :: base64 r
  | [a, b] =>
    let n := a.toNat * 65536 + b.toNat * 256
    [letter (n / 262144), letter (n / 4096), letter (n / 64), '=']
  | [a] =>
    let n := a.toNat * 65536
    [letter (n / 262144), letter (n / 4096), '=', '=']
  | [] => []
where
  letter (n : Nat) : Char := sixBitLetters.getD (n % 64) 'A'

/-- A text in lines of a length. -/
def wrapped (width : Nat) : Nat → Text → Text
  | 0, t => t
  | limit + 1, t =>
    if t.length ≤ width then t else t.take width ++ '\n' :: wrapped width limit (t.drop width)

/-- Rows numbered, except for those that are not to be counted. -/
def numbered : Nat → List (Text × Bool) → Text
  | _, [] => []
  | n, (l, true) :: ls => padLeft 6 (Text.ofNat n) ++ '\t' :: l ++ numbered (n + 1) ls
  | n, (l, false) :: ls => l ++ numbered n ls

/-- Numbered lines where an empty one is indented only, unless `all` are numbered. -/
def numberedIndented (all : Bool) (width : Nat) (separator : Text) : Nat → List Text → Text
  | _, [] => []
  | n, l :: ls =>
    if l.isEmpty && !all then
      List.replicate (width + separator.length) ' ' ++
        '\n' :: numberedIndented all width separator n ls
    else
      padLeft width (Text.ofNat n) ++ separator ++ l ++
        '\n' :: numberedIndented all width separator (n + 1) ls

/-- A byte as it is made visible. Line ends stay, and tabs unless `tabs`. -/
def visible (tabs : Bool) (c : Char) : Text :=
  let low (n : Nat) : Text :=
    if n < 32 then ['^', Char.ofNat (n + 64)] else if n = 127 then ['^', '?'] else [Char.ofNat n]
  if c = '\n' || (c = '\t' && !tabs) then [c]
  else if c.toNat < 128 then low c.toNat
  else 'M' :: '-' :: low (c.toNat - 128)

/-- Pieces that are no line ends, or at most one of those in a row. -/
def withoutBlankRuns (ls : List Text) : List Text :=
  squeeze (fun a b => a = ['\n'] && b = ['\n']) ls

/-! ## Sets of characters -/

/-- The characters between two, both included. -/
def charRange (a b : Char) : List Char :=
  (List.range (b.toNat + 1 - a.toNat)).map fun i => Char.ofNat (a.toNat + i)

/-- The characters of a class. -/
def classChars (name : Text) : List Char :=
  ((classRanges? name).getD []).flatMap fun r => charRange r.1 r.2

/-- The characters that a set names, in order. -/
def charSet : Nat → Text → List Char
  | 0, _ => []
  | _, [] => []
  | limit + 1, '[' :: ':' :: r =>
    let name := r.takeWhile (· ≠ ':')
    classChars name ++ charSet limit (r.drop (name.length + 2))
  | limit + 1, c :: r =>
    let (c, r) := if c = '\\' then
        match r with
        | 'n' :: r => ('\n', r)
        | 't' :: r => ('\t', r)
        | 'r' :: r => ('\r', r)
        | d :: r' =>
          let digits := (r.take 3).takeWhile fun c => '0' ≤ c && c ≤ '7'
          if digits.isEmpty then (d, r')
          else (Char.ofNat (digits.foldl (fun n c => n * 8 + (c.toNat - 48)) 0),
            r.drop digits.length)
        | [] => ('\\', [])
      else (c, r)
    match r with
    | '-' :: d :: r => charRange c d ++ charSet limit r
    | r => c :: charSet limit r

/-- A text with each character of one set replaced by its partner; a set that is too short is
continued by its last character. -/
def translated (source target : List Char) (t : Text) : Text :=
  t.map fun c => match source.idxOf? c with
    | some i => (target[i]?.or target.getLast?).getD c
    | none => c

/-- A text in which characters of a set are not repeated at once. -/
def squeezed (p : Char → Bool) : Text → Text
  | [] => []
  | c :: r => match squeezed p r with
    | [] => [c]
    | d :: ds => if c = d && p c then c :: ds else c :: d :: ds

/-! ## Fields -/

/-- Reads a list of ranges such as `1,3-5,7-`. -/
def rangesOf (t : Text) : List (Nat × Option Nat) :=
  (Text.splitOn ',' t).filterMap fun part =>
    match Text.splitOn '-' part with
    | [a] => (Text.numeral? a).map fun n => (n, some n)
    | [a, b] => some ((Text.numeral? a).getD 1, Text.numeral? b)
    | _ => none

def inRanges (ranges : List (Nat × Option Nat)) (n : Nat) : Bool :=
  ranges.any fun r => r.1 ≤ n && r.2.all (n ≤ ·)

/-- The items of a list whose numbers are in the ranges. -/
def chosen {α : Type} (ranges : List (Nat × Option Nat)) (l : List α) : List α :=
  (l.zipIdx 1).filterMap fun x => if inRanges ranges x.2 then some x.1 else none

/-- The chosen fields of a line; a line without the separator stays, unless `only`. -/
def fields (separator : Char) (ranges : List (Nat × Option Nat)) (only : Bool) (line : Text) :
    Option Text :=
  if line.contains separator then
    some (Text.joinWith separator (chosen ranges (Text.splitOn separator line)))
  else if only then none else some line

end Lines

/-! ## Searching -/

/-- How much of a line has to match. -/
inductive Reach where
  | some
  | word
  | whole
  deriving DecidableEq, Repr

/-- Whether a match between two places reaches as far as it has to. -/
def Reach.accepts (r : Reach) (p q : Place) : Bool :=
  match r with
  | some => true
  | word => !p.before.head?.any isWordChar && !q.rest.head?.any isWordChar
  | whole => p.before.isEmpty && q.rest.isEmpty

/-- What is searched for in lines. -/
structure Search where
  regex : Regex
  reach : Reach := .some
  inverted : Bool := false

namespace Search

/-- Whether a line is one of those that are searched for. -/
def finds (s : Search) (line : Text) : Bool :=
  (s.regex.searchFrom? s.reach.accepts [] 0 line).isSome != s.inverted

/-- The parts of a line that match. -/
def found (s : Search) (line : Text) : List Text :=
  ((s.regex.matchesIn s.reach.accepts line).map Regex.Match.text).filter (!·.isEmpty)

end Search

end LiveLine.Shell
