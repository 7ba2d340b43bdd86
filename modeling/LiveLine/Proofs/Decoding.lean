import LiveLine.Text.Utf8
import Mathlib.Data.List.Infix
import Mathlib.Tactic.NormNum
import Mathlib.Tactic.Ring

/-!
# Decoding keeps what is ASCII

Every byte of a character beyond ASCII, and every byte of an ill-formed piece, is at least `0x80`,
and neither decodes to an ASCII character.  So a lenient reading neither hides an ASCII word nor
makes one up.

* `continued_bounds`, `piece_char`: the character of several bytes is beyond ASCII.
* `exists_piece_lead`: the bytes of a piece are all ASCII or all beyond it.
* `mentions_decodeLossy`: a decoded text mentions an ASCII word exactly if the bytes do.
-/

namespace LiveLine

theorem Text.mentions_iff (t needle : Text) : t.mentions needle = true ↔ needle <:+: t := by
  induction t with
  | nil => simp [mentions]
  | cons c t ih =>
    rw [mentions, Bool.or_eq_true, ih, List.infix_cons_iff, List.isPrefixOf_iff_prefix]

namespace Utf8

variable {owed low high acc : Nat} {b : UInt8} {rest : Bytes} {c : Char} {needle : Text}

/-- What is read of a character that goes on is a run of bytes beyond ASCII. -/
theorem exists_continued_lead (owed high acc : Nat) (hLow : 0x80 ≤ low) (rest : Bytes) :
    ∃ lead, rest = lead ++ (continued owed low high acc rest).2 ∧ ∀ x ∈ lead, 0x80 ≤ x.toNat := by
  induction owed generalizing low high acc rest with
  | zero => exact ⟨[], rfl, by simp⟩
  | succ owed ih =>
    cases rest with
    | nil => exact ⟨[], rfl, by simp⟩
    | cons x rest =>
      rw [continued]
      split_ifs with hFits
      · obtain ⟨lead, hLead, hBeyond⟩ := ih 0xBF (acc * 64 + (x.toNat - 0x80)) le_rfl rest
        refine ⟨x :: lead, congrArg (x :: ·) hLead, ?_⟩
        rw [List.forall_mem_cons]
        exact ⟨hLow.trans hFits.1, hBeyond⟩
      · exact ⟨[], rfl, by simp⟩

/-- The number of a character lies between what the bounds of its next byte allow. -/
theorem continued_bounds (hLow : 0x80 ≤ low) (hHigh : high ≤ 0xBF)
    (hChar : (continued (owed + 1) low high acc rest).1 = some c) :
    ∃ v, c = Char.ofNat v ∧ (acc * 64 + (low - 0x80)) * 64 ^ owed ≤ v ∧
      v < (acc * 64 + (high - 0x80) + 1) * 64 ^ owed := by
  induction owed generalizing low high acc rest with
  | zero =>
    rcases rest with _ | ⟨x, rest⟩
    · simp [continued] at hChar
    · rw [continued] at hChar
      split_ifs at hChar with hFits
      rw [continued, Option.some.injEq] at hChar
      exact ⟨_, hChar.symm, by omega, by omega⟩
  | succ owed ih =>
    rcases rest with _ | ⟨x, rest⟩
    · simp [continued] at hChar
    · rw [continued] at hChar
      split_ifs at hChar with hFits
      obtain ⟨v, hv, hLeast, hGreatest⟩ := ih le_rfl le_rfl hChar
      have hBelow : acc * 64 + (low - 0x80) ≤ acc * 64 + (x.toNat - 0x80) := by omega
      have hAbove : acc * 64 + (x.toNat - 0x80) + 1 ≤ acc * 64 + (high - 0x80) + 1 := by omega
      refine ⟨v, hv, ?_, ?_⟩
      · calc (acc * 64 + (low - 0x80)) * 64 ^ (owed + 1)
            ≤ (acc * 64 + (x.toNat - 0x80)) * 64 ^ (owed + 1) := Nat.mul_le_mul_right _ hBelow
          _ = ((acc * 64 + (x.toNat - 0x80)) * 64 + (0x80 - 0x80)) * 64 ^ owed := by ring
          _ ≤ v := hLeast
      · calc v < ((acc * 64 + (x.toNat - 0x80)) * 64 + (0xBF - 0x80) + 1) * 64 ^ owed := hGreatest
          _ = (acc * 64 + (x.toNat - 0x80) + 1) * 64 ^ (owed + 1) := by ring
          _ ≤ (acc * 64 + (high - 0x80) + 1) * 64 ^ (owed + 1) := Nat.mul_le_mul_right _ hAbove

theorem toNat_ofNat_of_scalar {v : Nat} (hScalar : v.isValidChar) : (Char.ofNat v).toNat = v := by
  rw [Char.ofNat, dif_pos hScalar]
  rfl

/-- A piece that begins beyond ASCII does not decode to an ASCII character. -/
theorem piece_char (hBeyond : 0x80 ≤ b.toNat) (hChar : (piece b rest).1 = some c) :
    0x80 ≤ c.toNat := by
  have hValid : ∀ v, c = Char.ofNat v → v.isValidChar → 0x80 ≤ v → 0x80 ≤ c.toNat := by
    rintro v rfl hScalar hv
    rwa [toNat_ofNat_of_scalar hScalar]
  simp only [piece] at hChar
  rw [if_neg (by omega)] at hChar
  split_ifs at hChar with h₁ h₂ h₃ hE0 hED hED h₄ hF0 hF4 hF4
  all_goals
    obtain ⟨v, hv, hLeast, hGreatest⟩ := continued_bounds (by omega) (by omega) hChar
    norm_num at hLeast hGreatest
    exact hValid v hv (by unfold Nat.isValidChar; omega) (by omega)

/-- **A piece is ASCII or beyond it.**  The bytes of a piece that begins beyond ASCII all are. -/
theorem exists_piece_lead (hBeyond : 0x80 ≤ b.toNat) (rest : Bytes) :
    ∃ lead, b :: rest = lead ++ (piece b rest).2 ∧ ∀ x ∈ lead, 0x80 ≤ x.toNat := by
  have hCons : ∀ {more : Bytes}, (∃ lead, rest = lead ++ more ∧ ∀ x ∈ lead, 0x80 ≤ x.toNat) →
      ∃ lead, b :: rest = lead ++ more ∧ ∀ x ∈ lead, 0x80 ≤ x.toNat := by
    rintro more ⟨lead, hLead, hAll⟩
    exact ⟨b :: lead, congrArg (b :: ·) hLead, List.forall_mem_cons.mpr ⟨hBeyond, hAll⟩⟩
  simp only [piece]
  rw [if_neg (by omega)]
  split_ifs
  all_goals
    first
    | exact hCons ⟨[], rfl, by simp⟩
    | exact hCons (exists_continued_lead _ _ _ (by omega) rest)

theorem decodeLossy_cons (b : UInt8) (rest : Bytes) :
    decodeLossy (b :: rest) =
      (piece b rest).1.getD '\uFFFD' :: decodeLossy (piece b rest).2 := by
  rw [decodeLossy, pieces]
  rfl

theorem decodeLossy_cons_ascii (hAscii : b.toNat < 0x80) (rest : Bytes) :
    decodeLossy (b :: rest) = Char.ofNat b.toNat :: decodeLossy rest := by
  rw [decodeLossy_cons, piece]
  simp only [if_pos hAscii]
  rfl

theorem decodeLossy_eq_nil_iff (bytes : Bytes) : decodeLossy bytes = [] ↔ bytes = [] := by
  cases bytes with
  | nil => simp [decodeLossy, pieces]
  | cons b rest => simp [decodeLossy_cons]

/-- The head of what is decoded from a byte beyond ASCII is beyond ASCII. -/
theorem le_toNat_piece (hBeyond : 0x80 ≤ b.toNat) (rest : Bytes) :
    0x80 ≤ ((piece b rest).1.getD '\uFFFD').toNat := by
  cases hChar : (piece b rest).1 with
  | none => decide
  | some c => exact piece_char hBeyond hChar

theorem encode_cons_ascii (hAscii : c.toNat < 0x80) (t : Text) :
    encode (c :: t) = UInt8.ofNat c.toNat :: encode t := by
  have hSize : c.utf8Size = 1 := Char.utf8Size_eq_one_iff.mpr (by
    rw [UInt32.le_iff_toNat_le]
    exact Nat.le_of_lt_succ hAscii)
  rw [encode, List.flatMap_cons, String.utf8EncodeChar_eq_singleton hSize]
  rfl

theorem ofNat_toNat_eq_iff (hb : b.toNat < 0x80) (hc : c.toNat < 0x80) :
    UInt8.ofNat c.toNat = b ↔ c = Char.ofNat b.toNat := by
  have hValid : b.toNat.isValidChar := .inl (by omega)
  rw [← UInt8.toNat_inj, UInt8.toNat_ofNat', Nat.mod_eq_of_lt (by omega)]
  constructor
  · intro hEq
    rw [← hEq, Char.ofNat_toNat]
  · rintro rfl
    exact toNat_ofNat_of_scalar hValid

/-- ASCII at the beginning of a byte sequence is what its text begins with. -/
theorem encode_prefix_iff (hNeedle : ∀ c ∈ needle, c.toNat < 0x80) (bytes : Bytes) :
    encode needle <+: bytes ↔ needle <+: decodeLossy bytes := by
  induction needle generalizing bytes with
  | nil => simp [encode]
  | cons c needle ih =>
    obtain ⟨hc, hRest⟩ := List.forall_mem_cons.mp hNeedle
    rw [encode_cons_ascii hc]
    cases bytes with
    | nil => simp [decodeLossy, pieces]
    | cons b bytes =>
      rcases lt_or_ge b.toNat 0x80 with hb | hb
      · rw [decodeLossy_cons_ascii hb, List.cons_prefix_cons, List.cons_prefix_cons, ih hRest,
          ofNat_toNat_eq_iff hb hc]
      · -- neither the byte nor the character that it begins is the ASCII character
        have hChar : c ≠ (piece b bytes).1.getD '\uFFFD' := by
          intro hEq
          have := le_toNat_piece hb bytes
          rw [← hEq] at this
          omega
        have hByte : UInt8.ofNat c.toNat ≠ b := by
          rintro rfl
          rw [UInt8.toNat_ofNat', Nat.mod_eq_of_lt (by omega)] at hb
          omega
        rw [decodeLossy_cons, List.cons_prefix_cons, List.cons_prefix_cons]
        exact iff_of_false (fun h => hByte h.1) (fun h => hChar h.1)

/-- An infix does not begin in a run of bytes that its first byte is not among. -/
theorem infix_append_iff {first : UInt8} {word lead more : Bytes} (hLead : first ∉ lead) :
    first :: word <:+: lead ++ more ↔ first :: word <:+: more := by
  induction lead with
  | nil => rfl
  | cons x lead ih =>
    rw [List.mem_cons, not_or] at hLead
    obtain ⟨hx, hRest⟩ := hLead
    rw [List.cons_append, List.infix_cons_iff, ih hRest, List.cons_prefix_cons]
    simp [hx]

/-- **A decoded text mentions an ASCII word exactly if the bytes do.** -/
theorem mentions_decodeLossy (hNeedle : ∀ c ∈ needle, c.toNat < 0x80) (hWord : needle ≠ [])
    (bytes : Bytes) : (decodeLossy bytes).mentions needle = true ↔ encode needle <:+: bytes := by
  rw [Text.mentions_iff]
  obtain ⟨c, needle, rfl⟩ := List.exists_cons_of_ne_nil hWord
  have hc : c.toNat < 0x80 := hNeedle c List.mem_cons_self
  induction bytes using pieces.induct with
  | case1 => simp [decodeLossy, pieces, encode_cons_ascii hc]
  | case2 b rest ih =>
    have hMore : c :: needle <:+: decodeLossy (piece b rest).2 ↔
        encode (c :: needle) <:+: (piece b rest).2 := ih
    rw [decodeLossy_cons, List.infix_cons_iff, ← decodeLossy_cons, hMore,
      ← encode_prefix_iff hNeedle]
    rcases lt_or_ge b.toNat 0x80 with hb | hb
    · have hRest : (piece b rest).2 = rest := by simp [piece, hb]
      rw [hRest, ← List.infix_cons_iff]
    · obtain ⟨lead, hLead, hAll⟩ := exists_piece_lead hb rest
      rw [encode_cons_ascii hc]
      have hFirst : UInt8.ofNat c.toNat ∉ lead := by
        intro hMem
        have := hAll _ hMem
        rw [UInt8.toNat_ofNat', Nat.mod_eq_of_lt (by omega)] at this
        omega
      conv_rhs => rw [hLead, infix_append_iff hFirst]
      refine or_iff_right_of_imp fun hPrefix => ?_
      rw [← infix_append_iff hFirst, ← hLead]
      exact hPrefix.isInfix

end Utf8

end LiveLine
