import LiveLine.Toml.Lexical
import LiveLine.Toml.Value

/-!
# Numbers, truth values and times of a configuration file

An unquoted value runs up to the next blank or delimiter. Its whole text has to be of one of the
forms below.
-/

namespace LiveLine.Toml

/-- Whether a character ends an unquoted value. -/
def isDelimiter (c : Char) : Bool :=
  isSpace c || c = '\n' || c = '\r' || c = ',' || c = ']' || c = '}' || c = '#' || c = '='

/-- The digits of a numeral in which single underscores may stand between digits. -/
def ungroup? (isDigit : Char → Bool) : Text → Option Text
  | [] => none
  | c :: r =>
    if isDigit c then
      match r with
      | [] => some [c]
      | '_' :: r => (ungroup? isDigit r).map (c :: ·)
      | r => (ungroup? isDigit r).map (c :: ·)
    else none

/-- The value of digits in a base. -/
def valueOf (base : Nat) (digits : Text) : Nat :=
  digits.foldl (fun acc c => acc * base + (hexValue? c).getD 0) 0

def isDecimal (c : Char) : Bool := '0' ≤ c && c ≤ '9'

/-- The value of a numeral in a base that its lead names. -/
def based? (base : Nat) (t : Text) : Option Nat :=
  (ungroup? (fun c => (hexValue? c).any (· < base)) t).map (valueOf base)

/-- The digits of a decimal numeral without superfluous leading zeros. -/
def decimal? (t : Text) : Option Text :=
  (ungroup? isDecimal t).filter fun digits => digits.length = 1 || digits.head? ≠ some '0'

/-- The sign and the rest of a number. -/
def signed : Text → Bool × Text
  | '-' :: r => (true, r)
  | '+' :: r => (false, r)
  | t => (false, t)

/-- An integer, in decimal with a sign or in another base without. -/
def integer? (t : Text) : Option Int :=
  match t with
  | '0' :: 'x' :: r => (based? 16 r).map Int.ofNat
  | '0' :: 'o' :: r => (based? 8 r).map Int.ofNat
  | '0' :: 'b' :: r => (based? 2 r).map Int.ofNat
  | _ =>
    let (negative, r) := signed t
    (decimal? r).map fun digits =>
      if negative then -Int.ofNat (valueOf 10 digits) else Int.ofNat (valueOf 10 digits)

/-- Whether the number with these digits, of which `point` stand before the decimal point, is so
large that no double-precision number is near it. -/
def overflows (digits : Text) (point : Int) : Bool :=
  let significant := digits.dropWhile (· = '0')
  let point := point - (digits.length - significant.length : Nat)
  if significant.isEmpty || point < 309 then false
  else if 310 < point then true
  else
    let scale := point - significant.length
    let n := valueOf 10 significant
    let limit := Nat.pow 2 1024 - Nat.pow 2 970
    if 0 ≤ scale then limit ≤ n * Nat.pow 10 scale.toNat else limit * Nat.pow 10 (-scale).toNat ≤ n

/-- Whether a text is an exponent, and its value. -/
def exponent? (t : Text) : Option Int :=
  let (negative, r) := signed t
  (ungroup? isDecimal r).map fun digits =>
    if negative then -Int.ofNat (valueOf 10 digits) else Int.ofNat (valueOf 10 digits)

/-- A number with a fraction or an exponent, or a special one; gives whether it overflows. -/
def float? (t : Text) : Option Bool :=
  let (_, r) := signed t
  if r = "inf".toList || r = "nan".toList then some false
  else
    let mantissa := r.takeWhile fun c => c ≠ 'e' && c ≠ 'E'
    let whole := mantissa.takeWhile (· ≠ '.')
    let fraction := match mantissa.drop whole.length with
      | [] => some []
      | _ :: f => ungroup? isDecimal f
    let exponent := match r.drop mantissa.length with
      | [] => some 0
      | _ :: e => exponent? e
    match decimal? whole, fraction, exponent with
    | some w, some f, some e =>
      if whole.length < r.length then some (overflows (w ++ f) (w.length + e)) else none
    | _, _, _ => none

/-- A number of exactly `count` digits, and what follows. -/
def digits? (count : Nat) (t : Text) : Option (Nat × Text) :=
  let d := t.take count
  if d.length = count && d.all isDecimal then some (valueOf 10 d, t.drop count) else none

/-- The number of days in a month. -/
def daysIn (year month : Nat) : Nat :=
  if month = 2 then
    if year % 4 = 0 && (year % 100 ≠ 0 || year % 400 = 0) then 29 else 28
  else if month = 4 || month = 6 || month = 9 || month = 11 then 30
  else 31

/-- What follows a date of the calendar. -/
def date? (t : Text) : Option Text := do
  let (year, t) ← digits? 4 t
  let t ← Text.dropLead? ['-'] t
  let (month, t) ← digits? 2 t
  let t ← Text.dropLead? ['-'] t
  let (day, t) ← digits? 2 t
  if 1 ≤ month && month ≤ 12 && 1 ≤ day && day ≤ daysIn year month then return t else none

/-- What follows the fraction of a second. -/
def subsecond? : Text → Option Text
  | '.' :: r => if (r.takeWhile isDecimal).isEmpty then none else some (r.dropWhile isDecimal)
  | t => some t

/-- What follows a time of day, whose seconds may be left out. -/
def time? (t : Text) : Option Text := do
  let (hour, t) ← digits? 2 t
  let t ← Text.dropLead? [':'] t
  let (minute, t) ← digits? 2 t
  if 23 < hour || 59 < minute then none
  else match t with
    | ':' :: t => do
      let (second, t) ← digits? 2 t
      if 60 < second then none else subsecond? t
    | t => return t

/-- Whether a text is empty or an offset from universal time. -/
def isOffset : Text → Bool
  | [] => true
  | ['Z'] | ['z'] => true
  | sign :: t => (sign = '+' || sign = '-') && (do
      let (hour, t) ← digits? 2 t
      let t ← Text.dropLead? [':'] t
      let (minute, t) ← digits? 2 t
      return decide (hour ≤ 23) && decide (minute ≤ 59) && t.isEmpty).getD false

/-- Whether a text is a date, a time, or both. -/
def isDatetime (t : Text) : Bool :=
  match date? t with
  | some [] => true
  | some (c :: r) => (c = 'T' || c = 't' || c = ' ') && (time? r).any isOffset
  | none => time? t = some []

/-- The value of an unquoted text. -/
def scalar? (t : Text) : Option Value :=
  if t = "true".toList then some (.boolean true)
  else if t = "false".toList then some (.boolean false)
  else match integer? t with
    | some n => some (.integer n)
    | none => match float? t with
      | some overflows => some (.float overflows)
      | none => if isDatetime t then some .datetime else none

/-- The unquoted text at the start. A single blank between a date and a digit belongs to it. -/
def unquoted (s : Text) : Text :=
  let word := s.takeWhile (!isDelimiter ·)
  match s.drop word.length with
  | ' ' :: c :: r =>
    if date? word = some [] && isDecimal c then
      word ++ ' ' :: (c :: r).takeWhile (!isDelimiter ·)
    else word
  | _ => word

end LiveLine.Toml
