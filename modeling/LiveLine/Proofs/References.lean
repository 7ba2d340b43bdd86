import LiveLine.Proofs.Failures
import LiveLine.Proofs.Trimming
import Mathlib.Order.Bounds.Basic

/-!
# The line that an error refers to

An error text refers to a line by the word `line`, a space and a number.  The first place of that
kind decides, even if its number is none that a line can have; the places behind it do not count.

* `Text.RefersAt`, `Text.NumbersLine`: the places, and the numbers that a line can have.
* `Text.lineReference?_of_isLeast`, `Text.lineReference?_eq_none`: the search for the first place.
* `Text.isLeast_refersAt_append`: what is behind it.
* `Verdict.error_line_exact`: the line to which an error is attached.
-/

namespace LiveLine

namespace Text

variable {t u r lead : Text} {i j n : Nat} {c : Char}

/-! ### Places -/

/-- At this position the text has the word, a space and a digit. -/
def RefersAt (t : Text) (i : Nat) : Prop :=
  ∃ d, isDigit d = true ∧ "line ".toList ++ [d] <+: t.drop i

/-- The longest run of digits behind the word and the space. -/
def digitsAt (t : Text) (i : Nat) : Text := (t.drop (i + 5)).takeWhile isDigit

/-- The digits are ASCII digits, and the number is one that a line can have, counted from one. -/
structure NumbersLine (digits : Text) : Prop where
  ascii : ∀ c ∈ digits, '0' ≤ c ∧ c ≤ '9'
  pos : 1 ≤ Nat.ofDigitChars 10 digits 0
  bound : Nat.ofDigitChars 10 digits 0 < 2 ^ 64

theorem dropLead?_eq_some : dropLead? lead t = some r ↔ t = lead ++ r := by
  induction lead generalizing t with
  | nil => simp [dropLead?]
  | cons x lead ih =>
    cases t with
    | nil => simp [dropLead?]
    | cons y t =>
      rw [dropLead?, List.cons_append, List.cons.injEq]
      by_cases hx : x = y
      · simp [hx, ih]
      · simp [hx, Ne.symm hx]

theorem not_refersAt_nil (i : Nat) : ¬ RefersAt [] i := by
  rintro ⟨d, -, hPlace⟩
  simp at hPlace

theorem refersAt_cons_succ : RefersAt (c :: t) (i + 1) ↔ RefersAt t i := Iff.rfl

theorem exists_of_refersAt (hPlace : RefersAt t i) :
    ∃ d rest, isDigit d = true ∧ t.drop i = "line ".toList ++ d :: rest := by
  obtain ⟨d, hd, rest, hRest⟩ := hPlace
  exact ⟨d, rest, hd, by rw [← hRest, List.append_assoc]; rfl⟩

theorem refersAt_iff :
    RefersAt t i ↔ "line ".toList <+: t.drop i ∧ t.digitsAt i ≠ [] := by
  constructor
  · intro hPlace
    obtain ⟨d, rest, hd, hText⟩ := exists_of_refersAt hPlace
    have hBehind : t.drop (i + 5) = d :: rest := by
      rw [← List.drop_drop, hText]
      rfl
    refine ⟨⟨d :: rest, hText.symm⟩, ?_⟩
    rw [digitsAt, hBehind, List.takeWhile_cons_of_pos hd]
    exact List.cons_ne_nil d _
  · rintro ⟨⟨rest, hText⟩, hMore⟩
    have hBehind : t.drop (i + 5) = rest := by
      rw [← List.drop_drop, ← hText]
      rfl
    rw [digitsAt, hBehind] at hMore
    cases rest with
    | nil => exact absurd rfl hMore
    | cons d rest =>
      have hd : isDigit d = true := by
        by_contra hd
        exact hMore (List.takeWhile_cons_of_neg hd)
      exact ⟨d, hd, rest, by rw [← hText, List.append_assoc]; rfl⟩

instance : Decidable (RefersAt t i) := decidable_of_iff' _ refersAt_iff

/-- A place is seen in the six characters from its position on. -/
theorem refersAt_congr (hSame : t.take n = u.take n) (hPlace : j + 6 ≤ n) :
    RefersAt t j ↔ RefersAt u j := by
  have hTake : ∀ s : Text, ∀ d, "line ".toList ++ [d] <+: s.drop j ↔
      "line ".toList ++ [d] <+: (s.take n).drop j := by
    intro s d
    rw [List.drop_take, List.prefix_take_iff, and_iff_left]
    simp
    omega
  simp only [RefersAt, hTake t, hTake u, hSame]

/-! ### The first place -/

theorem lineReference?_of_refersAt (hPlace : RefersAt t 0) :
    lineReference? t = some (t.digitsAt 0) := by
  obtain ⟨d, rest, hd, hText⟩ := exists_of_refersAt hPlace
  rw [List.drop_zero] at hText
  have hLead : dropLead? "line ".toList t = some (d :: rest) := dropLead?_eq_some.mpr hText
  have hDigits : t.digitsAt 0 = (d :: rest).takeWhile isDigit := by
    rw [digitsAt, hText]
    rfl
  cases t with
  | nil => cases hText
  | cons c t => simp only [lineReference?, hLead, if_pos hd, hDigits]

theorem lineReference?_cons (hPlace : ¬ RefersAt (c :: t) 0) :
    lineReference? (c :: t) = lineReference? t := by
  rw [lineReference?]
  split
  · rename_i d rest hLead
    split_ifs with hd
    · refine absurd ⟨d, hd, rest, ?_⟩ hPlace
      rw [List.append_assoc]
      exact (dropLead?_eq_some.mp hLead).symm
    · rfl
  · rfl

theorem lineReference?_of_isLeast (hFirst : IsLeast {i | t.RefersAt i} i) :
    lineReference? t = some (t.digitsAt i) := by
  -- on the position: the search passes over a character that no place begins with
  induction i generalizing t with
  | zero => exact lineReference?_of_refersAt hFirst.1
  | succ i ih =>
    have hNow : ¬ RefersAt t 0 := fun hPlace => Nat.not_succ_le_zero i (hFirst.2 hPlace)
    cases t with
    | nil => exact absurd hFirst.1 (not_refersAt_nil _)
    | cons c t =>
      rw [lineReference?_cons hNow]
      refine ih ⟨hFirst.1, fun k hPlace => ?_⟩
      exact Nat.le_of_succ_le_succ (hFirst.2 (refersAt_cons_succ.mpr hPlace))

theorem lineReference?_eq_none (hNowhere : ∀ i, ¬ RefersAt t i) : lineReference? t = none := by
  induction t with
  | nil => rfl
  | cons c t ih => rw [lineReference?_cons (hNowhere 0), ih fun i => hNowhere (i + 1)]

/-- What follows the digits of the first place has no part in it. -/
theorem isLeast_refersAt_append (hFirst : IsLeast {i | t.RefersAt i} i) {later : Text}
    (hLater : ∀ c ∈ later.head?, isDigit c = false) :
    let t' : Text := t.take (i + 5 + (t.digitsAt i).length) ++ later
    IsLeast {i | t'.RefersAt i} i ∧ t'.digitsAt i = t.digitsAt i := by
  intro t'
  -- the texts are the same through the digits, so up to there they have the same places
  set n := i + 5 + (t.digitsAt i).length with hn
  have hMore : 0 < (t.digitsAt i).length := List.length_pos_of_ne_nil (refersAt_iff.mp hFirst.1).2
  have hDigits : (t.take n).drop (i + 5) = t.digitsAt i := by
    rw [List.drop_take, hn, Nat.add_sub_cancel_left]
    exact (List.prefix_iff_eq_take.mp (List.takeWhile_prefix isDigit)).symm
  have hEnd : n ≤ t.length := by
    have hLength := congrArg List.length hDigits
    rw [List.length_drop, List.length_take] at hLength
    omega
  have hSame : t'.take n = t.take n := List.take_left' (List.length_take_of_le hEnd)
  refine ⟨⟨?_, fun j hPlace => ?_⟩, ?_⟩
  · exact (refersAt_congr hSame (by omega)).mpr hFirst.1
  · by_contra hBefore
    have hPlace' : RefersAt t j := (refersAt_congr hSame (by omega)).mp hPlace
    exact hBefore (hFirst.2 hPlace')
  · have hDrop : t'.drop (i + 5) = t.digitsAt i ++ later := by
      rw [List.drop_append_of_le_length (by rw [List.length_take_of_le hEnd]; omega), hDigits]
    rw [digitsAt, hDrop]
    exact takeWhile_of_stop (fun c hc => List.mem_takeWhile_imp hc) hLater

/-! ### Numbers -/

theorem numeralFrom?_eq_some {acc : Nat} : numeralFrom? acc t = some n ↔
    (∀ c ∈ t, '0' ≤ c ∧ c ≤ '9') ∧ Nat.ofDigitChars 10 t acc = n := by
  induction t generalizing acc with
  | nil => simp [numeralFrom?]
  | cons c t ih =>
    rw [numeralFrom?, digitValue?, List.forall_mem_cons]
    by_cases hc : '0' ≤ c ∧ c ≤ '9'
    · simp only [if_pos hc, ih, and_iff_right hc, Nat.ofDigitChars_cons, Nat.mul_comm acc]
    · rw [if_neg hc]
      simp [hc]

theorem wordNumeral?_eq_some (hMore : t ≠ []) : wordNumeral? t = some n ↔
    (∀ c ∈ t, '0' ≤ c ∧ c ≤ '9') ∧ Nat.ofDigitChars 10 t 0 = n ∧ n < 2 ^ 64 := by
  have hNumeral : numeral? t = numeralFrom? 0 t := by
    cases t with
    | nil => exact absurd rfl hMore
    | cons c t => rfl
  rw [wordNumeral?, hNumeral, Option.filter_eq_some_iff, numeralFrom?_eq_some, and_assoc,
    decide_eq_true_iff]
  rfl

end Text

theorem referencedLine?_eq_some {t : Text} {n : Nat} :
    referencedLine? t = some n ↔
      ∃ digits, lineReference? t = some digits ∧ Text.wordNumeral? digits = some (n + 1) := by
  rw [referencedLine?]
  cases lineReference? t with
  | none => simp
  | some digits =>
    rw [Option.bind_some]
    cases hNumeral : Text.wordNumeral? digits with
    | none => simp [hNumeral]
    | some k => cases k <;> simp [hNumeral]

theorem referencedLine?_of_isLeast {t : Text} {i k : Nat} (hFirst : IsLeast {i | t.RefersAt i} i) :
    referencedLine? t = some k ↔
      (t.digitsAt i).NumbersLine ∧ k = Nat.ofDigitChars 10 (t.digitsAt i) 0 - 1 := by
  have hMore : t.digitsAt i ≠ [] := (Text.refersAt_iff.mp hFirst.1).2
  rw [referencedLine?_eq_some, Text.lineReference?_of_isLeast hFirst]
  simp only [Option.some.injEq, exists_eq_left', Text.wordNumeral?_eq_some hMore]
  constructor
  · rintro ⟨hAscii, hValue, hBound⟩
    exact ⟨⟨hAscii, by omega, by omega⟩, by omega⟩
  · rintro ⟨⟨hAscii, hPos, hBound⟩, hValue⟩
    exact ⟨hAscii, by omega, by omega⟩

namespace Verdict

/-- **The line of an error.**  An error is attached to the line that the first place of its text
refers to, if the number there is written in ASCII digits and is that of a line, counted from one.
In every other case it is attached to the line that was evaluated.  Places behind the first one do
not count: whatever follows its digits, the line is the same. -/
theorem error_line_exact (colors : Colors) {r : RunResult} (fallback : Nat) {e : Text}
    (hError : r.errorText? = some e) :
    let note := (ofResult colors r fallback).note
    note.kind = .error ∧
    (∀ i, IsLeast {i | e.RefersAt i} i →
      let digits := e.digitsAt i
      (digits.NumbersLine → note.line = Nat.ofDigitChars 10 digits 0 - 1) ∧
      (¬ digits.NumbersLine → note.line = fallback) ∧
      ∀ colors' r' (later : Text), (∀ c ∈ later.head?, isDigit c = false) →
        r'.errorText? = some (e.take (i + 5 + digits.length) ++ later) →
        (ofResult colors' r' fallback).note.line = note.line) ∧
    ((∀ i, ¬ e.RefersAt i) → note.line = fallback) := by
  intro note
  have hLine : ∀ colors' r' e', r'.errorText? = some e' →
      (ofResult colors' r' fallback).note.line = (referencedLine? e').getD fallback := by
    intro colors' r' e' hError'
    rw [ofResult, hError']
  have hNote : note.line = (referencedLine? e).getD fallback := hLine colors r e hError
  refine ⟨(ofResult_error colors fallback hError).1, fun i hFirst => ?_, fun hNowhere => ?_⟩
  · intro digits
    refine ⟨fun hNumber => ?_, fun hNumber => ?_, fun colors' r' later hLater hError' => ?_⟩
    · have hSome := (referencedLine?_of_isLeast hFirst).mpr ⟨hNumber, rfl⟩
      rw [hNote, hSome, Option.getD_some]
    · have hNone : referencedLine? e = none := by
        refine Option.eq_none_iff_forall_ne_some.mpr fun k hSome => hNumber ?_
        exact ((referencedLine?_of_isLeast hFirst).mp hSome).1
      rw [hNote, hNone, Option.getD_none]
    · obtain ⟨hFirst', hDigits⟩ := Text.isLeast_refersAt_append hFirst hLater
      have hSame : referencedLine? (e.take (i + 5 + digits.length) ++ later) =
          referencedLine? e := by
        ext k
        rw [referencedLine?_of_isLeast hFirst', hDigits, referencedLine?_of_isLeast hFirst]
      rw [hLine colors' r' _ hError', hSame, hNote]
  · rw [hNote, referencedLine?, Text.lineReference?_eq_none hNowhere]
    rfl

/-- The word inside another one counts if a number follows, and the first place decides. -/
theorem error_line_exact_repeated :
    let e : Text := "outline x, online 007, line 9".toList
    RunResult.errorText? { stderr := e } = some e ∧
      IsLeast {i | e.RefersAt i} 13 ∧ (e.digitsAt 13).NumbersLine ∧
      (ofResult {} { stderr := e } 4).note.line = 6 := by
  intro e
  have hError : RunResult.errorText? { stderr := e } = some e := rfl
  have hBefore : ∀ i < 13, ¬ e.RefersAt i := by decide
  have hFirst : IsLeast {i | e.RefersAt i} 13 :=
    ⟨show e.RefersAt 13 by decide, fun i hPlace => Nat.le_of_not_lt fun hi => hBefore i hi hPlace⟩
  have hDigits : e.digitsAt 13 = ['0', '0', '7'] := by decide
  have hNumber : (e.digitsAt 13).NumbersLine := by
    rw [hDigits]
    exact ⟨by simp, by decide, by decide⟩
  have hLine := ((error_line_exact {} 4 hError).2.1 13 hFirst).1 hNumber
  exact ⟨hError, hFirst, hNumber, hLine.trans (by rw [hDigits]; rfl)⟩

end Verdict

end LiveLine
