import LiveLine.Text.Basic

/-!
# UTF-8

Reading cuts a byte sequence into characters and ill-formed pieces, each the longest piece that
could still begin a character. A strict reading refuses them; a lenient one writes U+FFFD for each.
-/

namespace LiveLine

abbrev Bytes := List UInt8

namespace Utf8

/-- Reads the `owed` remaining bytes of a character whose bits so far are `acc`; the next byte has
to lie between `low` and `high`. Gives no character at the first byte that does not fit. -/
def continued : Nat → Nat → Nat → Nat → Bytes → Option Char × Bytes
  | 0, _, _, acc, rest => (some (Char.ofNat acc), rest)
  | _ + 1, _, _, _, [] => (none, [])
  | owed + 1, low, high, acc, b :: rest =>
    if low ≤ b.toNat ∧ b.toNat ≤ high then
      continued owed 0x80 0xBF (acc * 64 + (b.toNat - 0x80)) rest
    else (none, b :: rest)

/-- Reads one character, or one ill-formed piece, that starts with the byte `b`. -/
def piece (b : UInt8) (rest : Bytes) : Option Char × Bytes :=
  let n := b.toNat
  if n < 0x80 then (some (Char.ofNat n), rest)
  else if n < 0xC2 then (none, rest)
  else if n < 0xE0 then continued 1 0x80 0xBF (n - 0xC0) rest
  else if n < 0xF0 then
    continued 2 (if n = 0xE0 then 0xA0 else 0x80) (if n = 0xED then 0x9F else 0xBF) (n - 0xE0) rest
  else if n < 0xF5 then
    continued 3 (if n = 0xF0 then 0x90 else 0x80) (if n = 0xF4 then 0x8F else 0xBF) (n - 0xF0) rest
  else (none, rest)

theorem continued_length_le (owed low high acc : Nat) (rest : Bytes) :
    (continued owed low high acc rest).2.length ≤ rest.length := by
  induction owed generalizing low high acc rest with
  | zero => simp [continued]
  | succ owed ih =>
    cases rest with
    | nil => simp [continued]
    | cons b rest =>
      simp only [continued]
      split
      · exact Nat.le_succ_of_le (ih ..)
      · simp

theorem piece_length_le (b : UInt8) (rest : Bytes) : (piece b rest).2.length ≤ rest.length := by
  simp only [piece]
  repeat' split
  all_goals first | exact Nat.le_refl _ | exact continued_length_le ..

/-- The characters and ill-formed pieces of a byte sequence, in order. -/
def pieces : Bytes → List (Option Char)
  | [] => []
  | b :: rest => (piece b rest).1 :: pieces (piece b rest).2
termination_by bytes => bytes.length
decreasing_by
  have := piece_length_le b rest
  simp only [List.length_cons]
  omega

/-- The text that the bytes encode, with U+FFFD for each ill-formed piece. -/
def decodeLossy (bytes : Bytes) : Text := (pieces bytes).map fun c? => c?.getD '\uFFFD'

/-- The text that the bytes encode, if they are well formed throughout. -/
def decode? (bytes : Bytes) : Option Text := (pieces bytes).mapM id

/-- The bytes that encode a text. -/
def encode (t : Text) : Bytes := t.flatMap String.utf8EncodeChar

end Utf8

/-- The number of bytes that encode a text. -/
def Text.byteLength (t : Text) : Nat := t.foldl (fun n c => n + c.utf8Size) 0

end LiveLine
