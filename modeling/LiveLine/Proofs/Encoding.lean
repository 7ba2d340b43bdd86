import LiveLine.Proofs.Decoding

/-!
# A strict reading accepts just what is encoded

The bytes of a character are a first one, which says how many follow, and six bits of its number in
each that follows.  Reading takes them back, and accepts no other bytes for the character: the
bounds of the second byte leave out longer forms, surrogates and what lies past the last character.

* `trail`: the bytes of a character after the first.
* `continued_trail`, `exists_of_continued`: they are what is read on.
* `piece_eq_some`: a piece is read as a character just if it is the encoding of it.
* `decode?_eq_some`: bytes are read as a text just if they are the encoding of it.
-/

namespace LiveLine.Utf8

variable {owed low high acc v : Nat} {b : UInt8} {rest more bytes : Bytes} {c : Char} {t : Text}

/-- The last bytes of the character with number `v`. -/
def trail : Nat → Nat → Bytes
  | 0, _ => []
  | owed + 1, v => UInt8.ofNat (v / 64 ^ owed % 64 + 0x80) :: trail owed v

theorem toNat_ofNat (hv : v < 256) : (UInt8.ofNat v).toNat = v := by
  rw [UInt8.toNat_ofNat', Nat.mod_eq_of_lt hv]

theorem div_pow_succ (v n : Nat) : v / 64 ^ (n + 1) = v / 64 ^ n / 64 := by
  rw [Nat.pow_succ, Nat.div_div_eq_div_mul]

/-- The bytes of a character are read back. -/
theorem continued_trail (hAcc : acc = v / 64 ^ owed)
    (hFits : ∀ n, owed = n + 1 → low ≤ v / 64 ^ n % 64 + 0x80 ∧ v / 64 ^ n % 64 + 0x80 ≤ high)
    (rest : Bytes) :
    continued owed low high acc (trail owed v ++ rest) = (some (Char.ofNat v), rest) := by
  induction owed generalizing low high acc with
  | zero => rw [hAcc, Nat.pow_zero, Nat.div_one]; rfl
  | succ owed ih =>
    have hByte : (UInt8.ofNat (v / 64 ^ owed % 64 + 0x80)).toNat = v / 64 ^ owed % 64 + 0x80 :=
      toNat_ofNat (by omega)
    rw [trail, List.cons_append, continued, hByte, if_pos (hFits owed rfl)]
    refine ih ?_ fun n _ => by omega
    rw [hAcc, div_pow_succ]
    omega

/-- What is read as a character is made of its bytes. -/
theorem exists_of_continued (hLow : 0x80 ≤ low) (hHigh : high ≤ 0xBF)
    (hRead : continued owed low high acc rest = (some c, more)) :
    ∃ v, c = Char.ofNat v ∧ v / 64 ^ owed = acc ∧ rest = trail owed v ++ more ∧
      ∀ n, owed = n + 1 → low ≤ v / 64 ^ n % 64 + 0x80 ∧ v / 64 ^ n % 64 + 0x80 ≤ high := by
  induction owed generalizing low high acc rest with
  | zero =>
    obtain ⟨hc, rfl⟩ := Prod.mk.inj hRead
    exact ⟨acc, (Option.some.inj hc).symm, Nat.div_one acc, rfl, fun n hn => by omega⟩
  | succ owed ih =>
    cases rest with
    | nil => simp [continued] at hRead
    | cons x rest =>
      rw [continued] at hRead
      split_ifs at hRead with hFits
      · obtain ⟨v, hc, hAcc, rfl, -⟩ := ih le_rfl le_rfl hRead
        have hBits : v / 64 ^ owed % 64 = x.toNat - 0x80 := by omega
        refine ⟨v, hc, ?_, ?_, ?_⟩
        · rw [div_pow_succ]
          omega
        · rw [trail, hBits, List.cons_append, Nat.sub_add_cancel (hLow.trans hFits.1),
            UInt8.ofNat_toNat]
        · rintro n hn
          obtain rfl : owed = n := by omega
          omega
      · simp at hRead

/-! ### The bytes of a character -/

/-- The bytes that encode the character with number `v`. -/
def bytesOf (v : Nat) : Bytes :=
  if v < 0x80 then [UInt8.ofNat v]
  else if v < 0x800 then UInt8.ofNat (v / 64 + 0xC0) :: trail 1 v
  else if v < 0x10000 then UInt8.ofNat (v / 4096 + 0xE0) :: trail 2 v
  else UInt8.ofNat (v / 262144 + 0xF0) :: trail 3 v

theorem toNat_lt (c : Char) : c.toNat < 0x110000 := by
  rcases c.valid with hLow | ⟨-, hHigh⟩
  · exact Nat.lt_trans hLow (by decide)
  · exact hHigh

theorem utf8EncodeChar_eq (c : Char) : String.utf8EncodeChar c = bytesOf c.toNat := by
  have hBound := toNat_lt c
  unfold String.utf8EncodeChar bytesOf
  dsimp only
  rw [Char.toNat_val]
  generalize c.toNat = v at hBound ⊢
  have hTwo : v < 0x800 → v / 64 % 32 = v / 64 := by omega
  have hThree : v < 0x10000 → v / 4096 % 16 = v / 4096 := by omega
  have hFour : v / 262144 % 8 = v / 262144 := by omega
  simp only [← Nat.lt_succ_iff, trail, Nat.pow_zero, Nat.div_one, Nat.pow_one, hFour]
  split_ifs with hOne hLess hMore
  · rfl
  · rw [hTwo hLess]
  · rw [hThree hMore]
  · rfl

/-- A character is read back from its bytes. -/
theorem piece_bytesOf (hv : v.isValidChar) (more : Bytes) :
    ∃ b rest, bytesOf v = b :: rest ∧ piece b (rest ++ more) = (some (Char.ofNat v), more) := by
  unfold Nat.isValidChar at hv
  unfold bytesOf
  split_ifs with hOne hTwo hThree
  · refine ⟨_, [], rfl, ?_⟩
    simp only [piece, toNat_ofNat (Nat.lt_trans hOne (by decide)), if_pos hOne]
    rfl
  · refine ⟨_, _, rfl, ?_⟩
    have hLead : (UInt8.ofNat (v / 64 + 0xC0)).toNat = v / 64 + 0xC0 := toNat_ofNat (by omega)
    simp only [piece, hLead]
    rw [if_neg (by omega), if_neg (by omega), if_pos (by omega), Nat.add_sub_cancel]
    exact continued_trail (by rw [Nat.pow_one]) (fun n hn => by omega) more
  · refine ⟨_, _, rfl, ?_⟩
    have hLead : (UInt8.ofNat (v / 4096 + 0xE0)).toNat = v / 4096 + 0xE0 := toNat_ofNat (by omega)
    simp only [piece, hLead]
    rw [if_neg (by omega), if_neg (by omega), if_neg (by omega), if_pos (by omega),
      Nat.add_sub_cancel]
    refine continued_trail rfl (fun n hn => ?_) more
    obtain rfl : 1 = n := by omega
    rw [Nat.pow_one]
    split_ifs <;> omega
  · refine ⟨_, _, rfl, ?_⟩
    have hLead : (UInt8.ofNat (v / 262144 + 0xF0)).toNat = v / 262144 + 0xF0 :=
      toNat_ofNat (by omega)
    simp only [piece, hLead]
    rw [if_neg (by omega), if_neg (by omega), if_neg (by omega), if_neg (by omega),
      if_pos (by omega), Nat.add_sub_cancel]
    refine continued_trail rfl (fun n hn => ?_) more
    obtain rfl : 2 = n := by omega
    norm_num
    split_ifs <;> omega

/-- What is read as a character is the encoding of it. -/
theorem eq_bytesOf_of_piece (hRead : piece b rest = (some c, more)) :
    b :: rest = bytesOf c.toNat ++ more := by
  have hByte := b.toNat_lt
  have hSelf : UInt8.ofNat b.toNat = b := UInt8.ofNat_toNat
  -- the number of the character, its first byte and its range decide its bytes
  have hBytes : ∀ owed lead v : Nat, c = Char.ofNat v → v.isValidChar →
      rest = trail owed v ++ more → bytesOf v = UInt8.ofNat lead :: trail owed v →
        lead = b.toNat → b :: rest = bytesOf c.toNat ++ more := by
    rintro owed lead v rfl hv rfl hOf rfl
    rw [toNat_ofNat_of_scalar hv, hOf, hSelf, List.cons_append]
  rw [piece] at hRead
  split at hRead
  · rename_i hOne
    obtain ⟨hc, rfl⟩ := Prod.mk.inj hRead
    refine hBytes 0 _ b.toNat (Option.some.inj hc).symm (.inl (by omega)) rfl ?_ rfl
    rw [bytesOf, if_pos hOne]
    rfl
  rename_i hOne
  split at hRead
  · simp at hRead
  rename_i hLonger
  split at hRead
  · rename_i hTwo
    obtain ⟨v, hc, hLead, hRest, -⟩ := exists_of_continued le_rfl le_rfl hRead
    rw [Nat.pow_one] at hLead
    refine hBytes 1 (v / 64 + 0xC0) v hc (.inl (by omega)) hRest ?_ ?_
    · rw [bytesOf, if_neg (by omega), if_pos (by omega)]
    · omega
  rename_i hTwo
  split at hRead
  · rename_i hThree
    obtain ⟨v, hc, hLead, hRest, hFits⟩ :=
      exists_of_continued (by split <;> omega) (by split <;> omega) hRead
    have hSecond := hFits 1 rfl
    norm_num at hLead hSecond
    have hRange : 0x800 ≤ v ∧ v < 0x10000 ∧ v.isValidChar := by
      unfold Nat.isValidChar
      split_ifs at hSecond <;> omega
    refine hBytes 2 (v / 4096 + 0xE0) v hc hRange.2.2 hRest ?_ ?_
    · rw [bytesOf, if_neg (by omega), if_neg (by omega), if_pos (by omega)]
    · omega
  rename_i hThree
  split at hRead
  · rename_i hFour
    obtain ⟨v, hc, hLead, hRest, hFits⟩ :=
      exists_of_continued (by split <;> omega) (by split <;> omega) hRead
    have hSecond := hFits 2 rfl
    norm_num at hLead hSecond
    have hRange : 0x10000 ≤ v ∧ v.isValidChar := by
      unfold Nat.isValidChar
      split_ifs at hSecond <;> omega
    refine hBytes 3 (v / 262144 + 0xF0) v hc hRange.2 hRest ?_ ?_
    · rw [bytesOf, if_neg (by omega), if_neg (by omega), if_neg (by omega)]
    · omega
  · simp at hRead

/-- **A piece is read as a character just if it is the encoding of it.** -/
theorem piece_eq_some :
    piece b rest = (some c, more) ↔ b :: rest = String.utf8EncodeChar c ++ more := by
  rw [utf8EncodeChar_eq]
  refine ⟨eq_bytesOf_of_piece, fun hBytes => ?_⟩
  obtain ⟨first, others, hOf, hRead⟩ := piece_bytesOf c.valid more
  rw [show bytesOf c.toNat = _ from hOf, List.cons_append] at hBytes
  obtain ⟨rfl, rfl⟩ := List.cons.inj hBytes
  rw [hRead]
  exact congrArg (some · , more) (Char.ofNat_toNat c)

/-! ### Texts -/

theorem decode?_cons (b : UInt8) (rest : Bytes) :
    decode? (b :: rest) =
      (piece b rest).1.bind fun c => (decode? (piece b rest).2).map (c :: ·) := by
  rw [decode?, pieces, List.mapM_cons]
  cases (piece b rest).1 <;> cases hMore : decode? (piece b rest).2 <;> simp_all [decode?]

theorem encode_ne_nil (c : Char) (t : Text) : encode (c :: t) ≠ [] := by
  obtain ⟨b, rest, hOf, -⟩ := piece_bytesOf c.valid []
  rw [encode, List.flatMap_cons, utf8EncodeChar_eq, show bytesOf c.toNat = _ from hOf]
  simp

/-- **Bytes are read as a text just if they are the encoding of it.** -/
theorem decode?_eq_some : decode? bytes = some t ↔ bytes = encode t := by
  induction bytes using pieces.induct generalizing t with
  | case1 =>
    have hNil : decode? [] = some [] := by simp [decode?, pieces]
    rw [hNil]
    cases t with
    | nil => exact iff_of_true rfl rfl
    | cons c t => exact iff_of_false (by simp) (encode_ne_nil c t).symm
  | case2 b rest ih =>
    cases t with
    | nil =>
      refine iff_of_false (fun hNone => ?_) (by simp [encode])
      rw [decode?_cons] at hNone
      obtain ⟨c, -, hMap⟩ := Option.bind_eq_some_iff.mp hNone
      obtain ⟨u, -, hCons⟩ := Option.map_eq_some_iff.mp hMap
      exact absurd hCons (List.cons_ne_nil c u)
    | cons c t =>
      rw [decode?_cons, encode, List.flatMap_cons, ← encode, ← piece_eq_some]
      cases hPiece : piece b rest with
      | mk first more =>
        rw [hPiece] at ih
        cases first with
        | none => simp
        | some x =>
          simp only [Option.bind_some, Option.map_eq_some_iff, ih, Prod.mk.injEq,
            Option.some.injEq, List.cons.injEq]
          constructor
          · rintro ⟨u, rfl, rfl, rfl⟩
            exact ⟨rfl, rfl⟩
          · rintro ⟨rfl, rfl⟩
            exact ⟨t, rfl, rfl, rfl⟩

end LiveLine.Utf8
