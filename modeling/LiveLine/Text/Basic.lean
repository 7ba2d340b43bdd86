/-!
# Text as a list of characters

Cutting at a character and joining again, substring search, and decimal numerals.
-/

namespace LiveLine

/-- A text is the list of its characters; every column and length counts characters. -/
abbrev Text := List Char

namespace Text

/-- The parts between the occurrences of `c`; always one more than there are occurrences. -/
def splitOn (c : Char) : Text → List Text
  | [] => [[]]
  | x :: r =>
    if x = c then [] :: splitOn c r
    else match splitOn c r with
      | [] => [[x]]
      | p :: ps => (x :: p) :: ps

/-- The parts with `c` between each two. -/
def joinWith (c : Char) : List Text → Text
  | [] => []
  | [p] => p
  | p :: q :: ps => p ++ c :: joinWith c (q :: ps)

/-- Whether `needle` occurs somewhere in the text. -/
def mentions : Text → Text → Bool
  | [], needle => needle.isEmpty
  | c :: r, needle => needle.isPrefixOf (c :: r) || mentions r needle

/-- What follows `lead` in a text that begins with it. -/
def dropLead? : Text → Text → Option Text
  | [], t => some t
  | _ :: _, [] => none
  | x :: xs, y :: ys => if x = y then dropLead? xs ys else none

/-- The text without the longest tail of characters that satisfy `p`. -/
def dropTailWhile (p : Char → Bool) (t : Text) : Text :=
  (t.reverse.dropWhile p).reverse

/-- Whether a text is at or before another in the order of a dictionary, by the numbers of the
characters. -/
def notAfter : Text → Text → Bool
  | [], _ => true
  | _ :: _, [] => false
  | x :: xs, y :: ys => if x = y then notAfter xs ys else x.toNat < y.toNat

/-- The decimal numeral of a number, without leading zeros. -/
def ofNat (n : Nat) : Text := Nat.toDigits 10 n

/-- The value of an ASCII digit. -/
def digitValue? (c : Char) : Option Nat :=
  if '0' ≤ c ∧ c ≤ '9' then some (c.toNat - '0'.toNat) else none

/-- The value of a numeral of ASCII digits, read on from `acc`. -/
def numeralFrom? (acc : Nat) : Text → Option Nat
  | [] => some acc
  | c :: r => match digitValue? c with
    | some d => numeralFrom? (acc * 10 + d) r
    | none => none

/-- The value of a nonempty numeral of ASCII digits. -/
def numeral? : Text → Option Nat
  | [] => none
  | c :: r => numeralFrom? 0 (c :: r)

/-- Line numbers, cursors, delays and timeouts are all below this bound. -/
def wordBound : Nat := Nat.pow 2 64

/-- A numeral whose value is below `wordBound`. -/
def wordNumeral? (t : Text) : Option Nat :=
  (numeral? t).filter (· < wordBound)

/-- The value of a numeral below `wordBound`, possibly after a plus sign. -/
def count? : Text → Option Nat
  | '+' :: t => wordNumeral? t
  | t => wordNumeral? t

theorem splitOn_ne_nil (c : Char) (t : Text) : splitOn c t ≠ [] := by
  induction t with
  | nil => simp [splitOn]
  | cons x r ih =>
    unfold splitOn
    split
    · simp
    · split <;> simp

theorem joinWith_splitOn (c : Char) (t : Text) : joinWith c (splitOn c t) = t := by
  induction t with
  | nil => rfl
  | cons x r ih =>
    unfold splitOn
    rcases hs : splitOn c r with _ | ⟨p, ps⟩
    · exact absurd hs (splitOn_ne_nil c r)
    · rw [hs] at ih
      split
      · rename_i hx
        subst hx
        simp [joinWith, ih]
      · cases ps with
        | nil => simpa [joinWith] using ih
        | cons q qs => simpa [joinWith] using ih

end Text

end LiveLine
