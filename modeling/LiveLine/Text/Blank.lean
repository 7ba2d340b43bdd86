import LiveLine.Text.Basic

/-!
# Blank characters and trimming

A character is blank when it has the White_Space property. Trimming takes blanks off the ends.
-/

namespace LiveLine

/-- Whether a character has the White_Space property. -/
def isBlank (c : Char) : Bool :=
  let n := c.toNat
  (0x09 ≤ n && n ≤ 0x0D) || n == 0x20 || n == 0x85 || n == 0xA0 || n == 0x1680 ||
    (0x2000 ≤ n && n ≤ 0x200A) || n == 0x2028 || n == 0x2029 || n == 0x202F || n == 0x205F ||
    n == 0x3000

namespace Text

/-- The text without its leading blanks. -/
def trimStart (t : Text) : Text := t.dropWhile isBlank

/-- The text without its trailing blanks. -/
def trimEnd (t : Text) : Text := t.dropTailWhile isBlank

/-- The text without blanks at either end. -/
def trim (t : Text) : Text := trimEnd (trimStart t)

/-- Whether every character of the text is blank. -/
def isAllBlank (t : Text) : Bool := t.all isBlank

theorem dropWhile_eq_nil (p : Char → Bool) (t : Text) :
    t.dropWhile p = [] ↔ t.all p = true := by
  induction t with
  | nil => simp
  | cons c r ih => by_cases hc : p c = true <;> simp_all

theorem trim_eq_nil_iff (t : Text) : trim t = [] ↔ t.isAllBlank = true := by
  have hEnd : ∀ u : Text, trimEnd u = [] ↔ u.isAllBlank = true := fun u => by
    rw [trimEnd, dropTailWhile, List.reverse_eq_nil_iff, dropWhile_eq_nil, isAllBlank,
      List.all_reverse]
  rw [trim, hEnd]
  induction t with
  | nil => rfl
  | cons c r ih =>
    by_cases hc : isBlank c = true
    · simpa [trimStart, isAllBlank, hc] using ih
    · simp [trimStart, isAllBlank, hc]

theorem isAllBlank_append_left {t : Text} (hText : t.isAllBlank = false) (u : Text) :
    isAllBlank (t ++ u) = false := by
  rw [isAllBlank] at hText ⊢
  rw [List.all_append, hText, Bool.false_and]

end Text

end LiveLine
