import LiveLine.Text.Blank
import Mathlib.Data.List.DropRight

/-!
# What trimming leaves

Trimming takes the blanks around a text off, and what is left neither begins nor ends with a blank.
Blanks beside a text make no difference to it, and blanks within it stay.

* `Text.Strips`: what is left of a text, said without the way in which it is found.
* `Text.strips_iff`: trimming leaves just that.
* `Text.trimStart_append`, `Text.trimEnd_append`: a part that is not blank protects what is behind
  or before it.
* `Text.trim_append_left`, `Text.trim_append_right`: blanks beside the text.
-/

namespace LiveLine

namespace Text

variable {t u lead tail : Text}

/-- The second text is the first one without the blanks around it. -/
structure Strips (t u : Text) : Prop where
  around : ∃ lead tail, t = lead ++ u ++ tail ∧ lead.isAllBlank = true ∧ tail.isAllBlank = true
  first : ∀ c ∈ u.head?, isBlank c = false
  last : ∀ c ∈ u.getLast?, isBlank c = false

theorem isAllBlank_iff : t.isAllBlank = true ↔ ∀ c ∈ t, isBlank c = true :=
  List.all_eq_true

theorem isAllBlank_append : (t ++ u).isAllBlank = true ↔
    t.isAllBlank = true ∧ u.isAllBlank = true := by
  rw [isAllBlank, List.all_append, Bool.and_eq_true]
  rfl

/-! ### Runs of characters -/

section

variable {p : Char → Bool}

theorem takeWhile_of_stop (hText : ∀ c ∈ t, p c = true) (hStop : ∀ c ∈ u.head?, p c = false) :
    (t ++ u).takeWhile p = t := by
  rw [List.takeWhile_append_of_pos hText]
  cases u with
  | nil => simp
  | cons c u => simp [hStop c rfl]

theorem dropWhile_of_stop (hText : ∀ c ∈ t, p c = true) (hStop : ∀ c ∈ u.head?, p c = false) :
    (t ++ u).dropWhile p = u := by
  rw [List.dropWhile_append_of_pos hText]
  cases u with
  | nil => simp
  | cons c u => simp [hStop c rfl]

end

/-! ### Blanks at the beginning -/

theorem trimStart_append_left (hLead : lead.isAllBlank = true) (t : Text) :
    trimStart (lead ++ t) = trimStart t :=
  List.dropWhile_append_of_pos (isAllBlank_iff.mp hLead)

theorem trimStart_append (hText : t.isAllBlank = false) (u : Text) :
    trimStart (t ++ u) = trimStart t ++ u := by
  have hLeft : ¬ (t.dropWhile isBlank).isEmpty = true := by
    rw [List.isEmpty_iff, dropWhile_eq_nil]
    exact Bool.eq_false_iff.mp hText
  rw [trimStart, List.dropWhile_append, if_neg hLeft]
  rfl

theorem trimStart_eq_self (hFirst : ∀ c ∈ t.head?, isBlank c = false) : trimStart t = t :=
  dropWhile_of_stop (t := []) (by simp) hFirst

theorem trimStart_of_isAllBlank (hText : t.isAllBlank = true) : trimStart t = [] :=
  (dropWhile_eq_nil isBlank t).mpr hText

theorem head?_trimStart (t : Text) : ∀ c ∈ (trimStart t).head?, isBlank c = false := by
  intro c hc
  obtain ⟨r, hCons⟩ := List.head?_eq_some_iff.mp hc
  have hMore : t.dropWhile isBlank ≠ [] := fun hNil => List.cons_ne_nil c r (hCons.symm.trans hNil)
  have hHead := List.head_dropWhile_not isBlank hMore
  simpa [show t.dropWhile isBlank = c :: r from hCons] using hHead

/-! ### Blanks at the end -/

theorem trimEnd_append_right (t : Text) (hTail : tail.isAllBlank = true) :
    trimEnd (t ++ tail) = trimEnd t := by
  have hBlanks : ∀ c ∈ tail.reverse, isBlank c = true :=
    fun c hc => isAllBlank_iff.mp hTail c (List.mem_reverse.mp hc)
  rw [trimEnd, dropTailWhile, List.reverse_append, List.dropWhile_append_of_pos hBlanks]
  rfl

theorem trimEnd_append (t : Text) (hText : u.isAllBlank = false) :
    trimEnd (t ++ u) = t ++ trimEnd u := by
  have hReverse : Text.isAllBlank u.reverse = false := by
    rw [isAllBlank, List.all_reverse]
    exact hText
  have hStart := trimStart_append hReverse t.reverse
  rw [trimStart, ← List.reverse_append] at hStart
  rw [trimEnd, dropTailWhile, hStart, List.reverse_append, List.reverse_reverse]
  rfl

theorem trimEnd_eq_self (hLast : ∀ c ∈ t.getLast?, isBlank c = false) : trimEnd t = t := by
  refine List.rdropWhile_eq_self_iff.mpr fun hMore => ?_
  rw [hLast _ (List.getLast?_eq_some_getLast hMore)]
  exact Bool.false_ne_true

theorem getLast?_trimEnd (t : Text) : ∀ c ∈ (trimEnd t).getLast?, isBlank c = false := by
  intro c hc
  obtain ⟨r, hConcat⟩ := List.getLast?_eq_some_iff.mp hc
  have hMore : t.rdropWhile isBlank ≠ [] := fun hNil => by
    simp [show trimEnd t = [] from hNil] at hConcat
  have hLast := List.rdropWhile_last_not isBlank t hMore
  simpa [show t.rdropWhile isBlank = r ++ [c] from hConcat] using hLast

theorem trimEnd_sublist (t : Text) : (trimEnd t).Sublist t :=
  (List.rdropWhile_prefix isBlank t).sublist

/-! ### Blanks at both ends -/

theorem trim_append_left (hLead : lead.isAllBlank = true) (t : Text) :
    trim (lead ++ t) = trim t := by
  rw [trim, trimStart_append_left hLead]
  rfl

theorem trim_append_right (t : Text) (hTail : tail.isAllBlank = true) :
    trim (t ++ tail) = trim t := by
  cases hText : t.isAllBlank with
  | true =>
    rw [trim, trim, trimStart_append_left hText, trimStart_of_isAllBlank hText,
      trimStart_of_isAllBlank hTail]
  | false => rw [trim, trim, trimStart_append hText, trimEnd_append_right _ hTail]

theorem trim_append (hText : t.isAllBlank = false) (hMore : u.isAllBlank = false) :
    trim (t ++ u) = trimStart t ++ trimEnd u := by
  rw [trim, trimStart_append hText, trimEnd_append _ hMore]

theorem head?_trim (t : Text) : ∀ c ∈ (trim t).head?, isBlank c = false := by
  intro c hc
  obtain ⟨r, hr⟩ := List.rdropWhile_prefix isBlank (trimStart t)
  refine head?_trimStart t c ?_
  rw [← hr, List.head?_append, Option.mem_def]
  exact Option.or_eq_some_iff.mpr (Or.inl hc)

theorem trim_sublist (t : Text) : (trim t).Sublist t :=
  (trimEnd_sublist _).trans (List.dropWhile_sublist isBlank)

theorem strips_trim (t : Text) : Strips t t.trim where
  around := by
    refine ⟨t.takeWhile isBlank, (trimStart t).rtakeWhile isBlank, ?_, ?_, ?_⟩
    · calc t = t.takeWhile isBlank ++ trimStart t := List.takeWhile_append_dropWhile.symm
        _ = t.takeWhile isBlank ++ (trim t ++ (trimStart t).rtakeWhile isBlank) := by
          rw [trim]
          exact congrArg _ (List.rdropWhile_append_rtakeWhile ..).symm
        _ = _ := (List.append_assoc ..).symm
    · exact isAllBlank_iff.mpr fun c hc => List.mem_takeWhile_imp hc
    · exact isAllBlank_iff.mpr fun c hc => List.mem_rtakeWhile_imp hc
  first := head?_trim t
  last := getLast?_trimEnd _

/-- **Trimming leaves the text without the blanks around it.** -/
theorem strips_iff : Strips t u ↔ u = t.trim := by
  constructor
  · rintro ⟨⟨lead, tail, rfl, hLead, hTail⟩, hFirst, hLast⟩
    rw [trim_append_right _ hTail, trim_append_left hLead, trim, trimStart_eq_self hFirst,
      trimEnd_eq_self hLast]
  · rintro rfl
    exact strips_trim t

end Text

end LiveLine
