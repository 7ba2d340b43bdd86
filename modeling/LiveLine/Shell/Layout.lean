import LiveLine.Shell.Lines

/-!
# Texts in columns

What programs make of a text whose lines have columns: folded lines, tabs and blanks in place of one
another, texts side by side, and bytes written as numbers.
-/

namespace LiveLine.Shell

namespace Layout

/-- The column after a character. A tab leads to the next multiple of a width. -/
def columnAfter (width column : Nat) (c : Char) : Nat :=
  if c = '\t' then (column / width + 1) * width
  else if c = '\x08' then column - 1
  else column + 1

/-- How lines are folded. -/
structure Fold where
  width : Nat := 80
  /-- Whether lines are broken after blanks, where there are any. -/
  bySpaces : Bool := false
  /-- Whether each byte takes a column. -/
  byBytes : Bool := false

def Fold.after (f : Fold) (column : Nat) (c : Char) : Nat :=
  if f.byBytes then column + 1 else if c = '\r' then 0 else columnAfter 8 column c

/-- Folds a text. `line` is what stands on the line so far, backwards. -/
def Fold.from (f : Fold) : Nat → (line : Text) → (column : Nat) → Text → Text
  | 0, line, _, t => line.reverse ++ t
  | _, line, _, [] => line.reverse
  | limit + 1, line, column, c :: r =>
    let next := f.after column c
    if c = '\n' then line.reverse ++ '\n' :: f.from limit [] 0 r
    else if next ≤ f.width || line.isEmpty then f.from limit (c :: line) next r
    else
      let word := line.takeWhile fun d => d ≠ ' ' && d ≠ '\t'
      let whole := line.drop word.length
      if f.bySpaces && !whole.isEmpty then
        whole.reverse ++ '\n' :: f.from limit word (word.reverse.foldl f.after 0) (c :: r)
      else line.reverse ++ '\n' :: f.from limit [] 0 (c :: r)

def Fold.apply (f : Fold) (t : Text) : Text := f.from (3 * t.length + 3) [] 0 t

/-- A text with blanks in place of tabs; with `leading` only of those that lines begin with. -/
def expanded (width : Nat) (leading : Bool) : (column : Nat) → (started : Bool) → Text → Text
  | _, _, [] => []
  | column, started, c :: r =>
    let next := columnAfter width column c
    if c = '\n' then c :: expanded width leading 0 false r
    else if c = '\t' && !(leading && started) then
      List.replicate (next - column) ' ' ++ expanded width leading next started r
    else c :: expanded width leading next (started || c ≠ ' ') r

/-- Tabs and blanks that lead from one column to another. -/
def gap (width a b : Nat) : Text :=
  let tabs := b / width - a / width
  if tabs = 0 then List.replicate (b - a) ' '
  else List.replicate tabs '\t' ++ List.replicate (b % width) ' '

/-- A text with tabs in place of the blanks that lines begin with, or of all rows of blanks with
`all`. `blanks` is the row of blanks being read, and `start` its column. -/
def unexpanded (width : Nat) (all : Bool) :
    (start : Nat) → (blanks : Text) → (column : Nat) → (started : Bool) → Text → Text
  | start, blanks, column, _, [] => closed start blanks column
  | start, blanks, column, started, c :: r =>
    let next := columnAfter width column c
    if (c = ' ' || c = '\t') && (all || !started) then
      unexpanded width all start (blanks ++ [c]) next started r
    else
      let next := if c = '\n' then 0 else next
      closed start blanks column ++ c :: unexpanded width all next [] next (c ≠ '\n') r
where
  closed (start : Nat) (blanks : Text) (column : Nat) : Text :=
    if blanks = [' '] then blanks else gap width start column

/-- The separators of fields, taken in turn. -/
def separatorAt (separators : Text) (i : Nat) : Text :=
  ((separators[i % separators.length]?).filter (· ≠ '\x00')).toList

/-- Fields with the separators between them. -/
def joined (separators : Text) : Nat → List Text → Text
  | _, [] => []
  | _, [f] => f
  | i, f :: fs => f ++ separatorAt separators i ++ joined separators (i + 1) fs

/-- The lines of several texts side by side. -/
def pasted (separators : Text) (texts : List (List Text)) : List Text :=
  let rows := texts.foldl (fun n ls => max n ls.length) 0
  (List.range rows).map fun i => joined separators 0 (texts.map fun ls => ls.getD i [])

/-! ## Bytes as numbers -/

/-- How bytes are written: in units of a size, each with a width. -/
structure Dump where
  size : Nat
  width : Nat
  cell : Text → Text

/-- The number that bytes make up, the lowest first. -/
def unit (bytes : Text) : Nat := bytes.foldr (fun c n => n * 256 + c.toNat) 0

/-- A number of some digits in a base. -/
def numeral (base digits n : Nat) : Text :=
  let t := Nat.toDigits base n
  List.replicate (digits - t.length) '0' ++ t

/-- A number with sign, of some bytes. -/
def signed (size n : Nat) : Text :=
  let bound := Nat.pow 256 size
  if 2 * n < bound then Text.ofNat n else '-' :: Text.ofNat (bound - n)

/-- How a byte is shown as a character. -/
def shownByte (t : Text) : Text :=
  match t with
  | [c] =>
    match c with
    | '\x00' => "\\0".toList
    | '\x07' => "\\a".toList
    | '\x08' => "\\b".toList
    | '\t' => "\\t".toList
    | '\n' => "\\n".toList
    | '\x0B' => "\\v".toList
    | '\x0C' => "\\f".toList
    | '\r' => "\\r".toList
    | c => if ' ' ≤ c && c ≤ '~' then [c] else numeral 8 3 c.toNat
  | t => t

/-- The form with a letter for units of a size. -/
def Dump.of? (letter : Char) (size : Nat) : Option Dump :=
  let digits (table : List (Nat × Nat)) (cell : Nat → Nat → Text) : Option Dump :=
    (table.lookup size).map fun d => ⟨size, d, fun t => cell d (unit t)⟩
  match letter with
  | 'x' => digits [(1, 2), (2, 4), (4, 8), (8, 16)] (numeral 16)
  | 'o' => digits [(1, 3), (2, 6), (4, 11), (8, 22)] (numeral 8)
  | 'u' => digits [(1, 3), (2, 5), (4, 10), (8, 20)] fun _ n => Text.ofNat n
  | 'd' => digits [(1, 4), (2, 6), (4, 11), (8, 20)] fun _ n => signed size n
  | 'c' => some ⟨1, 3, shownByte⟩
  | _ => none

/-- The form that a type such as `x1` names. -/
def Dump.ofType? : Text → Option Dump
  | [] => none
  | letter :: size =>
    let n := match String.ofList size with
      | "" => if letter = 'c' then some 1 else some 4
      | "C" => some 1
      | "S" => some 2
      | "I" => some 4
      | "L" => some 8
      | s => Text.numeral? s.toList
    n.bind (of? letter)

/-- The units of a row of bytes. -/
def Dump.units (d : Dump) : Nat → Text → List Text
  | 0, _ => []
  | limit + 1, t => if t.isEmpty then [] else t.take d.size :: d.units limit (t.drop d.size)

def Dump.row (d : Dump) (t : Text) : Text :=
  (d.units t.length t).flatMap fun u => ' ' :: padLeft d.width (d.cell u)

/-- Bytes in rows, each under its address; rows like the one before are left out, which an asterisk
tells, unless `all`. -/
def Dump.rows (d : Dump) (all : Bool) (address : Nat → Text) (width : Nat) :
    Nat → (place : Nat) → (before : Option Text) → (starred : Bool) → Text → Text
  | 0, _, _, _, _ => []
  | limit + 1, place, before, starred, t =>
    if t.isEmpty then
      let last := address place
      if last.isEmpty then [] else last ++ ['\n']
    else
      let row := t.take width
      let rest := t.drop width
      if !all && before = some row && row.length = width then
        (if starred then [] else ['*', '\n']) ++
          d.rows all address width limit (place + width) before true rest
      else address place ++ d.row row ++ '\n' ::
        d.rows all address width limit (place + row.length) (some row) false rest

end Layout

end LiveLine.Shell
