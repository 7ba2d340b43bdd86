import LiveLine.Shell.Arithmetic

/-!
# Floating point numbers as text

A numeral stands for the nearest number of fifty-three binary digits, which is kept as a fraction.
It is written with a number of decimal places or digits; what lies in the middle goes to the even
neighbour.
-/

namespace LiveLine.Shell

/-- A fraction of natural numbers that is not reduced. -/
structure Fraction where
  above : Nat
  below : Nat := 1
  deriving DecidableEq, Repr

namespace Fraction

/-- The nearest integer, and of two equally near ones the even one. -/
def round (x : Fraction) : Nat :=
  let low := x.above / x.below
  let twice := 2 * (x.above % x.below)
  if twice < x.below || (twice = x.below && low % 2 = 0) then low else low + 1

/-- The fraction times a power of a base. -/
def scale (base : Nat) (exponent : Int) (x : Fraction) : Fraction :=
  if exponent < 0 then { x with below := x.below * Nat.pow base exponent.natAbs }
  else { x with above := x.above * Nat.pow base exponent.natAbs }

end Fraction

/-- How large a number is. -/
inductive Magnitude where
  | finite (x : Fraction)
  | infinite
  | notANumber
  deriving DecidableEq, Repr

/-- A number with its sign, which zero has too. -/
structure Floating where
  negative : Bool := false
  magnitude : Magnitude := .finite ⟨0, 1⟩
  deriving DecidableEq, Repr

namespace Floating

/-- The least power of two that is kept. -/
def leastExponent : Int := -1074

/-- The nearest number that is kept, and whether that is too large or too small to be exact. -/
def nearest (x : Fraction) : Magnitude × Bool :=
  if x.above = 0 then (.finite x, false)
  else
    let guess : Int := Int.ofNat x.above.log2 - Int.ofNat x.below.log2 - 52
    /- The guess is one too large where the quotient has only fifty-two digits. -/
    let full := x.scale 2 (-guess)
    let exponent := if full.above / full.below < Nat.pow 2 52 then guess - 1 else guess
    let exponent := max exponent leastExponent
    let scaled := x.scale 2 (-exponent)
    let n := scaled.round
    let rounded : Fraction := Fraction.scale 2 exponent ⟨n, 1⟩
    if Nat.pow 2 1024 ≤ rounded.above / rounded.below then (.infinite, true)
    else
      let isExact : Bool := scaled.above % scaled.below = 0
      (.finite rounded, !isExact && n < Nat.pow 2 52)

/-- The digits of a base at the start of a text, those behind a point, and what follows. -/
def digitsOf (isDigit : Char → Bool) (t : Text) : Text × Text × Text :=
  let whole := t.takeWhile isDigit
  match t.drop whole.length with
  | '.' :: r =>
    let part := r.takeWhile isDigit
    if whole.isEmpty && part.isEmpty then ([], [], t) else (whole, part, r.drop part.length)
  | r => (whole, [], r)

/-- The exponent after one of two letters, and what follows it. -/
def exponentOf (letters : List Char) (t : Text) : Int × Text :=
  let read (negative : Bool) (r : Text) : Int × Text :=
    let digits := r.takeWhile Char.isDigit
    match Text.numeral? digits with
    | some n => (if negative then -Int.ofNat n else Int.ofNat n, r.drop digits.length)
    | none => (0, t)
  match t with
  | c :: '-' :: r => if letters.contains c then read true r else (0, t)
  | c :: '+' :: r => if letters.contains c then read false r else (0, t)
  | c :: r => if letters.contains c then read false r else (0, t)
  | [] => (0, t)

def hexDigits : List Char := "0123456789abcdef".toList

/-- The number that digits stand for in a base. -/
def valueIn (base : Nat) (digits : Text) : Nat :=
  digits.foldl (fun n c => n * base + (hexDigits.idxOf? c.toLower).getD 0) 0

/-- A number with an exponent of a base, where one that is out of all bounds is not worked out. -/
def withExponent (base digits : Nat) (exponent : Int) (x : Fraction) : Magnitude × Bool :=
  if x.above = 0 then (.finite x, false)
  else if 6000 < exponent then (.infinite, true)
  else if exponent < -(6000 + Int.ofNat digits) then (.finite ⟨0, 1⟩, true)
  else nearest (x.scale base exponent)

/-- Reads the size of a number at the start of a text: the number, whether it is out of bounds, and
what follows. -/
def magnitude? (t : Text) : Option (Magnitude × Bool × Text) :=
  let named? (name : String) : Option Text :=
    if (t.take name.length).map Char.toLower = name.toList then some (t.drop name.length) else none
  match named? "infinity" <|> named? "inf", named? "nan" with
  | some r, _ => some (.infinite, false, r)
  | _, some r => some (.notANumber, false, r)
  | none, none =>
    let isHex (c : Char) : Bool := hexDigits.contains c.toLower
    let (hexWhole, hexPart, hexRest) := digitsOf isHex (t.drop 2)
    if (t.take 2).map Char.toLower = "0x".toList && !(hexWhole ++ hexPart).isEmpty then
      let (e, rest) := exponentOf ['p', 'P'] hexRest
      let x : Fraction := ⟨valueIn 16 (hexWhole ++ hexPart), Nat.pow 16 hexPart.length⟩
      let (m, lost) := withExponent 2 (4 * hexPart.length) e x
      some (m, lost, rest)
    else
      let (whole, part, rest) := digitsOf Char.isDigit t
      if (whole ++ part).isEmpty then none
      else
        let (e, rest) := exponentOf ['e', 'E'] rest
        let x : Fraction := ⟨valueIn 10 (whole ++ part), Nat.pow 10 part.length⟩
        let (m, lost) := withExponent 10 whole.length e x
        some (m, lost, rest)

/-- Reads the number at the start of a text: the number, whether it is out of bounds, and what
follows, which is the whole text where there is no number. -/
def read (t : Text) : Floating × Bool × Text :=
  let (negative, r) := match Arithmetic.skipSpace t with
    | '-' :: r => (true, r)
    | '+' :: r => (false, r)
    | r => (false, r)
  match magnitude? r with
  | some (m, lost, rest) => (⟨negative, m⟩, lost, rest)
  | none => ({}, false, t)

/-! ## Writing -/

/-- A whole number of units in the last place as digits with a point, which stands even before no
places if `pointed`. -/
def placed (places : Nat) (pointed : Bool) (n : Nat) : Text :=
  let digits := Text.ofNat n
  let digits := List.replicate (places + 1 - digits.length) '0' ++ digits
  digits.take (digits.length - places) ++
    if places = 0 then (if pointed then ['.'] else [])
    else '.' :: digits.drop (digits.length - places)

/-- A fraction with a number of decimal places. -/
def fixed (places : Nat) (pointed : Bool) (x : Fraction) : Text :=
  placed places pointed (x.scale 10 places).round

/-- The digits of a fraction as one number, one before the point and some behind it, and the power
of ten that they are multiplied with. -/
def scientificDigits (places : Nat) (x : Fraction) : Nat × Int :=
  if x.above = 0 then (0, 0)
  else
    let guess : Int := Int.ofNat (Text.ofNat x.above).length -
      Int.ofNat (Text.ofNat x.below).length
    let full := x.scale 10 (-guess)
    let exponent := if full.above < full.below then guess - 1 else guess
    let n := (x.scale 10 (Int.ofNat places - exponent)).round
    if n = Nat.pow 10 (places + 1) then (n / 10, exponent + 1) else (n, exponent)

/-- A power of ten after digits. -/
def exponentText (exponent : Int) : Text :=
  let digits := Text.ofNat exponent.natAbs
  'e' :: (if exponent < 0 then '-' else '+') :: List.replicate (2 - digits.length) '0' ++ digits

def scientific (places : Nat) (pointed : Bool) (x : Fraction) : Text :=
  let (n, exponent) := scientificDigits places x
  placed places pointed n ++ exponentText exponent

/-- A fraction with a number of digits in the shorter of the two forms. Zeros at the end are left
out unless `pointed`. -/
def general (digits : Nat) (pointed : Bool) (x : Fraction) : Text :=
  let digits := max digits 1
  let trim (t : Text) : Text :=
    if pointed || !t.contains '.' then t
    else Text.dropTailWhile (· = '.') (Text.dropTailWhile (· = '0') t)
  let (n, exponent) := scientificDigits (digits - 1) x
  if -4 ≤ exponent && exponent < Int.ofNat digits then
    trim (fixed (Int.ofNat digits - 1 - exponent).toNat pointed x)
  else trim (placed (digits - 1) pointed n) ++ exponentText exponent

end Floating

end LiveLine.Shell
