import LiveLine.Shell.Floating

/-!
# Writing text from shell scripts

The escapes of `echo` and the formats of `printf`.
-/

namespace LiveLine.Shell

def isOctal (c : Char) : Bool := '0' ≤ c && c ≤ '7'

/-- The byte with an octal numeral. -/
def octalChar (digits : Text) : Char :=
  Char.ofNat (digits.foldl (fun n c => n * 8 + (c.toNat - 48)) 0 % 256)

/-- Reads what follows a backslash; a character that makes no escape stands for both. -/
def escaped (s : Text) : Text × Text :=
  match s with
  | [] => (['\\'], [])
  | 'a' :: r => (['\x07'], r)
  | 'b' :: r => (['\x08'], r)
  | 'e' :: r => (['\x1b'], r)
  | 'f' :: r => (['\x0C'], r)
  | 'n' :: r => (['\n'], r)
  | 'r' :: r => (['\r'], r)
  | 't' :: r => (['\t'], r)
  | 'v' :: r => (['\x0B'], r)
  | '\\' :: r => (['\\'], r)
  | c :: r =>
    let digits := ((c :: r).take 3).takeWhile isOctal
    if digits.isEmpty then (['\\', c], r) else ([octalChar digits], (c :: r).drop digits.length)

/-- The text of an argument of `echo`, and whether an escape ends the output there. -/
def echoed : Nat → Text → Text × Bool
  | 0, _ => ([], false)
  | _, [] => ([], false)
  | limit + 1, c :: r =>
    if c ≠ '\\' then
      let (t, stop) := echoed limit r
      (c :: t, stop)
    else
      match r with
      | 'c' :: _ => ([], true)
      | '0' :: r =>
        let digits := (r.take 3).takeWhile isOctal
        let (t, stop) := echoed limit (r.drop digits.length)
        (octalChar digits :: t, stop)
      | r =>
        let (e, r) := escaped r
        let (t, stop) := echoed limit r
        (e ++ t, stop)

/-- What `echo` writes for its arguments. -/
def echo (args : List Text) : Text :=
  let (newline, args) := match args with
    | ['-', 'n'] :: rest => (false, rest)
    | args => (true, args)
  let line := Text.joinWith ' ' args
  let (t, stop) := echoed (line.length + 1) line
  if newline && !stop then t ++ ['\n'] else t

/-- A directive of a format: flags, width, precision and conversion. -/
structure Directive where
  left : Bool := false
  zero : Bool := false
  plus : Bool := false
  space : Bool := false
  /-- Whether what is left out otherwise is written. -/
  alternate : Bool := false
  width : Nat := 0
  precision : Option Nat := none
  conversion : Char

/-- The greatest number of characters that a directive asks for; more are not written. -/
def maxMeasure : Nat := 4194304

/-- Takes a number from the front of a text, or from the arguments in place of a star. -/
def measure? (s : Text) (args : List Text) : Option Int × Text × List Text :=
  let bounded (n : Int) : Int := if n.natAbs ≤ maxMeasure then n else 0
  match s with
  | '*' :: r => (some (bounded (Arithmetic.signed (args.head?.getD [])).1), r, args.tail)
  | s =>
    let digits := s.takeWhile Char.isDigit
    ((Text.numeral? digits).map fun n => bounded (Int.ofNat n), s.drop digits.length, args)

/-- Reads what follows a percent sign; stars take arguments. -/
def directive? (s : Text) (args : List Text) : Option (Directive × Text × List Text) :=
  let flags := s.takeWhile fun c => c = '-' || c = '0' || c = '+' || c = ' ' || c = '#'
  let (width, s, args) := measure? (s.drop flags.length) args
  let (precision, s, args) := match s with
    | '.' :: r =>
      let (n, r, args) := measure? r args
      (if n.any (· < 0) then none else some (n.getD 0).toNat, r, args)
    | s => (none, s, args)
  match s with
  | c :: r =>
    let d : Directive := {
      left := flags.contains '-' || width.any (· < 0)
      zero := flags.contains '0'
      plus := flags.contains '+'
      space := flags.contains ' '
      alternate := flags.contains '#'
      width := (width.getD 0).natAbs
      precision
      conversion := c }
    some (d, r, args)
  | [] => none

/-- Brings a text to the width of a directive. Zeros stand after its lead, such as a sign. -/
def Directive.pad (d : Directive) (zeros : Bool) (lead t : Text) : Text :=
  let fill := d.width - (lead.length + t.length)
  if d.left then lead ++ t ++ List.replicate fill ' '
  else if d.zero && zeros then lead ++ List.replicate fill '0' ++ t
  else List.replicate fill ' ' ++ lead ++ t

/-- A number in a base up to sixteen, with at least as many digits as the precision says. -/
def Directive.digits (d : Directive) (base n : Nat) : Text :=
  let t := if n = 0 && d.precision = some 0 then [] else Nat.toDigits base n
  List.replicate (d.precision.getD 0 - t.length) '0' ++ t

/-- An integer as a word without sign: below zero it counts from the top, and what is too large is
the largest. -/
def machineWord (n : Int) : Nat :=
  if n.natAbs < Text.wordBound then (n % Int.ofNat Text.wordBound).toNat else Text.wordBound - 1

/-- The integer that an argument stands for: its numeral, or a character after a quote. -/
def integerOf : Text → Int
  | '\'' :: c :: _ | '"' :: c :: _ => Int.ofNat c.toNat
  | t => (Arithmetic.signed t).1

/-- Whether a conversion writes floating point numbers. -/
def isFloating (conversion : Char) : Bool := "fFeEgG".toList.contains conversion

/-- The number that an argument stands for: its numeral, or a character after a quote. -/
def floatingOf : Text → Floating
  | '\'' :: c :: _ | '"' :: c :: _ => { magnitude := .finite ⟨c.toNat, 1⟩ }
  | t => (Floating.read t).1

/-- The mark of a sign. -/
def Directive.sign (d : Directive) (negative : Bool) : Text :=
  if negative then ['-'] else if d.plus then ['+'] else if d.space then [' '] else []

/-- What a directive writes for a word without sign. -/
def Directive.word (d : Directive) (n : Nat) : Text :=
  let zeros := d.precision.isNone
  match d.conversion with
  | 'o' =>
    let t := d.digits 8 n
    d.pad zeros [] (if d.alternate && t.head? ≠ some '0' then '0' :: t else t)
  | 'x' => d.pad zeros (if d.alternate && n ≠ 0 then ['0', 'x'] else []) (d.digits 16 n)
  | 'X' => d.pad zeros (if d.alternate && n ≠ 0 then ['0', 'X'] else [])
      ((d.digits 16 n).map Char.toUpper)
  | _ => d.pad zeros [] (d.digits 10 n)

/-- What a directive writes for a floating point number. -/
def Directive.floating (d : Directive) (x : Floating) : Text :=
  let great : Bool := d.conversion.isUpper
  let cased (t : Text) : Text := if great then t.map Char.toUpper else t
  let precision := d.precision.getD 6
  match x.magnitude with
  | .infinite => d.pad false (d.sign x.negative) (cased "inf".toList)
  | .notANumber => d.pad false (d.sign x.negative) (cased "nan".toList)
  | .finite v => d.pad true (d.sign x.negative) (cased (match d.conversion.toLower with
    | 'e' => Floating.scientific precision d.alternate v
    | 'g' => Floating.general precision d.alternate v
    | _ => Floating.fixed precision d.alternate v))

/-- What a directive writes for an argument, and whether the output ends there; nothing if there
is no such directive. -/
def Directive.write? (d : Directive) (argument : Text) : Option (Text × Bool) :=
  let n := integerOf argument
  match d.conversion with
  | 's' => some (d.pad false [] (match d.precision with
      | some k => argument.take k
      | none => argument), false)
  | 'b' =>
    let (t, stop) := echoed (argument.length + 1) argument
    some (d.pad false [] t, stop)
  | 'c' => some (d.pad false [] [argument.headD '\x00'], false)
  | 'd' | 'i' =>
    let n := (Arithmetic.nearestWord n).toInt
    some (d.pad d.precision.isNone (d.sign (n < 0)) (d.digits 10 n.natAbs), false)
  | 'u' | 'o' | 'x' | 'X' => some (d.word (machineWord n), false)
  | c => if isFloating c then some (d.floating (floatingOf argument), false) else none

/-- What is wrong with an argument for a directive that wants a number, if anything is. -/
def Directive.fault? (d : Directive) (argument : Text) : Option String :=
  let isSigned : Bool := "di".toList.contains d.conversion
  if !isSigned && !isFloating d.conversion && !"uoxX".toList.contains d.conversion then none
  else
    match argument with
    | '\'' :: _ | '"' :: _ => none
    | t =>
      let (fits, rest) : Bool × Text :=
        if isFloating d.conversion then
          let (_, lost, rest) := Floating.read t
          (!lost, rest)
        else
          let (n, rest) := Arithmetic.signed t
          (if isSigned then Arithmetic.isWord n else n.natAbs < Text.wordBound, rest)
      if !rest.isEmpty then
        some (if rest = t then "expected numeric value" else "not completely converted")
      else if fits then none
      else some "Numerical result out of range"

/-- What a pass over a format gives: the text, the arguments left, whether any directive took one,
the arguments that were unfit with what is wrong with them, and whether the output ends there. -/
structure Written where
  text : Text := []
  args : List Text
  took : Bool := false
  unfit : List (Text × String) := []
  stop : Bool := false
  /-- A directive that there is not. -/
  unknown : Option Text := none

def formatOnce : Nat → Text → List Text → Written
  | 0, _, args => { args }
  | _, [], args => { args }
  | limit + 1, c :: r, args =>
    let andThen (t : Text) (r : Text) (args : List Text) (took : Bool)
        (unfit : List (Text × String)) :=
      let w := formatOnce limit r args
      { w with text := t ++ w.text, took := took || w.took, unfit := unfit ++ w.unfit }
    if c = '\\' then
      let (e, r) := escaped r
      andThen e r args false []
    else if c = '%' then
      match r with
      | '%' :: r => andThen ['%'] r args false []
      | r =>
        match directive? r args with
        | none => { text := ['%'], args }
        | some (d, rest, args) =>
          let a := args.head?.getD []
          match d.write? a with
          | none => { args, unknown := some ('%' :: r.take (r.length - rest.length)) }
          | some (t, stop) =>
            if stop then { text := t, args := args.tail, took := true, stop }
            else andThen t rest args.tail true ((d.fault? a).toList.map (a, ·))
    else andThen [c] r args false []

/-- Repeats a format until it has taken all arguments. -/
def formatAll : Nat → Text → List Text → Written
  | 0, _, args => { args }
  | limit + 1, format, args =>
    let w := formatOnce (format.length + 1) format args
    if w.args.isEmpty || !w.took || w.stop || w.unknown.isSome then w
    else
      let more := formatAll limit format w.args
      { more with text := w.text ++ more.text, unfit := w.unfit ++ more.unfit }

/-- What `printf` writes. -/
def printf (format : Text) (args : List Text) : Written := formatAll (args.length + 1) format args

end LiveLine.Shell
