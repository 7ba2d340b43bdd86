import LiveLine.Proofs.Lines

/-!
# What ends a line, and what is shown of it

A text is its lines with the breaks that end them, and none of its lines has a break inside.  What
is shown of a line stops before a line feed, before a carriage return and before both together.  Of
the other breaks, the one that ends a line is shown with it and counted in its length.

* `Text.flatMap_full_lines`, `Text.weave_lines`: the lines and their breaks make up the text.
* `Text.body_lines`: no line has a break inside.
* `Document.line?_eq`, `Document.lineLength_eq`: what is shown of a line, and how long it is.
* `Document.terminators_exact`: the lines are shown without their breaks just where the text has
  no break but line feeds and carriage returns.
-/

namespace LiveLine

namespace Break

/-- Whether a line is shown with the break that ends it. -/
def isShown (b : Break) : Bool := !b.shown.isEmpty

/-- The characters that are shown with the line that they end. -/
def shownChars : List Char := ['\x0B', '\x0C', '\u0085', '\u2028', '\u2029']

theorem ofChar?_of_mem_text (b : Break) {c : Char} (hc : c ∈ b.text) : ofChar? c ≠ none := by
  have hAll : b.text.all (fun c => (ofChar? c).isSome) = true := by cases b <;> decide
  exact Option.isSome_iff_ne_none.mp (List.all_eq_true.mp hAll c hc)

theorem ofChar?_of_mem_shownChars {c : Char} (hc : c ∈ shownChars) : ofChar? c ≠ none := by
  have hAll : shownChars.all (fun c => (ofChar? c).isSome) = true := by decide
  exact Option.isSome_iff_ne_none.mp (List.all_eq_true.mp hAll c hc)

theorem text_of_ofChar? {b : Break} {c : Char} (hBreak : ofChar? c = some b) : b.text = [c] := by
  unfold ofChar? at hBreak
  split_ifs at hBreak <;> cases hBreak <;> simp_all [text]

theorem length_shown (b : Break) : b.shown.length = if b.isShown then 1 else 0 := by
  cases b <;> rfl

/-- A break is shown as it is written, or not at all. -/
theorem shown_eq (b : Break) : b.shown = if b.isShown then b.text else [] := by
  cases b <;> rfl

theorem isShown_iff {b : Break} : b.isShown = true ↔ ∃ c ∈ shownChars, c ∈ b.text := by
  have hAny : b.isShown = shownChars.any b.text.contains := by cases b <;> decide
  simp only [hAny, List.any_eq_true, List.contains_iff_mem]

end Break

/-- Texts with a break after each but the last. -/
def Text.weave : List Text → List Break → Text
  | l :: ls, b :: bs => l ++ b.text ++ weave ls bs
  | ls, _ => ls.flatten

namespace Text

variable {c : Char} {t : Text}

theorem weave_cons (c : Char) (l : Text) (ls : List Text) (bs : List Break) :
    weave ((c :: l) :: ls) bs = c :: weave (l :: ls) bs := by
  cases bs <;> rfl

/-- The breaks that end the lines of a text, in order. -/
def breaks (t : Text) : List Break := (lines t).filterMap Line.ending

/-- The lines of a text without the breaks that end them. -/
def bodies (t : Text) : List Text := (lines t).map Line.body

theorem breaks_pair (t : Text) :
    breaks ('\r' :: '\n' :: t) = .carriageReturnLineFeed :: breaks t := rfl

theorem bodies_pair (t : Text) : bodies ('\r' :: '\n' :: t) = [] :: bodies t := rfl

section

variable {b : Break} (hBreak : Break.ofChar? c = some b)
  (hAlone : ¬ (c = '\r' ∧ t.head? = some '\n'))

include hBreak hAlone

theorem breaks_break : breaks (c :: t) = b :: breaks t := by
  rw [breaks, lines_break hBreak hAlone]
  rfl

theorem bodies_break : bodies (c :: t) = [] :: bodies t := by
  rw [bodies, lines_break hBreak hAlone]
  rfl

end

theorem breaks_letter (hLetter : Break.ofChar? c = none) : breaks (c :: t) = breaks t := by
  obtain ⟨l, ls, hLines⟩ := List.exists_cons_of_ne_nil (lines_ne_nil t)
  rw [breaks, breaks, lines_letter hLetter, hLines]
  rfl

theorem bodies_letter (hLetter : Break.ofChar? c = none) :
    bodies (c :: t) = (bodies t).modifyHead (c :: ·) := by
  obtain ⟨l, ls, hLines⟩ := List.exists_cons_of_ne_nil (lines_ne_nil t)
  rw [bodies, bodies, lines_letter hLetter, hLines]
  rfl

theorem bodies_ne_nil (t : Text) : bodies t ≠ [] := by
  simpa [bodies] using lines_ne_nil t

/-- **The lines of a text make it up.** -/
theorem flatMap_full_lines (t : Text) : (lines t).flatMap Line.full = t := by
  induction t using line_induction with
  | nil => rfl
  | pair t ih => rw [lines_pair, List.flatMap_cons, ih]; rfl
  | single c b t hBreak hAlone ih =>
    have hFull : Line.full ⟨[], some b⟩ = [c] := Break.text_of_ofChar? hBreak
    rw [lines_break hBreak hAlone, List.flatMap_cons, ih, hFull]
    rfl
  | letter c t hLetter ih =>
    obtain ⟨l, ls, hLines⟩ := List.exists_cons_of_ne_nil (lines_ne_nil t)
    rw [hLines, List.flatMap_cons] at ih
    rw [lines_letter hLetter, hLines, List.modifyHead_cons, List.flatMap_cons]
    exact congrArg (c :: ·) ih

theorem mem_of_mem_full {l : Line} (hl : l ∈ lines t) (hc : c ∈ l.full) : c ∈ t := by
  rw [← flatMap_full_lines t]
  exact List.mem_flatMap.mpr ⟨l, hl, hc⟩

/-- **No line has a break inside.** -/
theorem body_lines {l : Line} (hl : l ∈ lines t) (hc : c ∈ l.body) : Break.ofChar? c = none := by
  induction t using line_induction generalizing l with
  | nil =>
    obtain rfl := List.mem_singleton.mp hl
    exact absurd hc List.not_mem_nil
  | pair t ih =>
    rcases List.mem_cons.mp hl with rfl | hl
    · exact absurd hc List.not_mem_nil
    · exact ih hl hc
  | single x b t hBreak hAlone ih =>
    rw [lines_break hBreak hAlone] at hl
    rcases List.mem_cons.mp hl with rfl | hl
    · exact absurd hc List.not_mem_nil
    · exact ih hl hc
  | letter x t hLetter ih =>
    obtain ⟨first, ls, hLines⟩ := List.exists_cons_of_ne_nil (lines_ne_nil t)
    rw [lines_letter hLetter, hLines, List.modifyHead_cons] at hl
    rw [hLines] at ih
    rcases List.mem_cons.mp hl with rfl | hl
    · rcases List.mem_cons.mp hc with rfl | hc
      · exact hLetter
      · exact ih List.mem_cons_self hc
    · exact ih (List.mem_cons_of_mem first hl) hc

/-- **A text is its lines with a break after each but the last.** -/
theorem weave_lines (t : Text) : weave (bodies t) (breaks t) = t := by
  induction t using line_induction with
  | nil => rfl
  | pair t ih => rw [bodies_pair, breaks_pair, weave, ih]; rfl
  | single c b t hBreak hAlone ih =>
    rw [bodies_break hBreak hAlone, breaks_break hBreak hAlone, weave, ih,
      Break.text_of_ofChar? hBreak]
    rfl
  | letter c t hLetter ih =>
    obtain ⟨l, ls, hBodies⟩ := List.exists_cons_of_ne_nil (bodies_ne_nil t)
    rw [bodies_letter hLetter, breaks_letter hLetter, hBodies, List.modifyHead_cons, weave_cons,
      ← hBodies, ih]

theorem length_breaks (t : Text) : (breaks t).length + 1 = (bodies t).length := by
  induction t using line_induction with
  | nil => rfl
  | pair t ih => rw [bodies_pair, breaks_pair, List.length_cons, List.length_cons, ih]
  | single c b t hBreak hAlone ih =>
    rw [bodies_break hBreak hAlone, breaks_break hBreak hAlone, List.length_cons,
      List.length_cons, ih]
  | letter c t hLetter ih =>
    rw [bodies_letter hLetter, breaks_letter hLetter, List.length_modifyHead, ih]

/-- The break at a place in the order is the one that ends the line there. -/
theorem getElem?_breaks (t : Text) (i : Nat) :
    (breaks t)[i]? = (lines t)[i]?.bind Line.ending := by
  induction t using line_induction generalizing i with
  | nil => cases i <;> rfl
  | pair t ih =>
    cases i with
    | zero => rfl
    | succ i => exact ih i
  | single c b t hBreak hAlone ih =>
    rw [breaks_break hBreak hAlone, lines_break hBreak hAlone]
    cases i with
    | zero => rfl
    | succ i => exact ih i
  | letter c t hLetter ih =>
    obtain ⟨l, ls, hLines⟩ := List.exists_cons_of_ne_nil (lines_ne_nil t)
    rw [breaks_letter hLetter, lines_letter hLetter, ih, hLines]
    cases i <;> rfl

theorem exists_line_of_mem_breaks {b : Break} (hb : b ∈ breaks t) :
    ∃ l ∈ lines t, l.ending = some b := List.mem_filterMap.mp hb

/-- A break that is shown somewhere in a text is one of its characters. -/
theorem exists_mem_isShown_iff (t : Text) :
    (∃ b ∈ breaks t, b.isShown = true) ↔
      ∃ c ∈ t, c ∈ Break.shownChars := by
  constructor
  · rintro ⟨b, hb, hShown⟩
    obtain ⟨c, hKind, hc⟩ := Break.isShown_iff.mp hShown
    obtain ⟨l, hl, hEnding⟩ := exists_line_of_mem_breaks hb
    refine ⟨c, mem_of_mem_full hl ?_, hKind⟩
    rw [Line.full, hEnding]
    exact List.mem_append_right _ hc
  · rintro ⟨c, hc, hKind⟩
    rw [← flatMap_full_lines t] at hc
    obtain ⟨l, hl, hc⟩ := List.mem_flatMap.mp hc
    rcases List.mem_append.mp hc with hc | hc
    · -- a character of a body is no break at all
      exact absurd (body_lines hl hc) (Break.ofChar?_of_mem_shownChars hKind)
    · cases hEnding : l.ending with
      | none => simp [hEnding] at hc
      | some b =>
        rw [hEnding] at hc
        exact ⟨b, List.mem_filterMap.mpr ⟨l, hl, hEnding⟩, Break.isShown_iff.mpr ⟨c, hKind, hc⟩⟩

end Text

namespace Document

/-- The lines are shown without any break, and make up the text with breaks in between. -/
def Bare (d : Document) : Prop :=
  ∃ bs : List Break, bs.length + 1 = d.lineCount ∧ Text.weave d.lines bs = d.text ∧
    ∀ l ∈ d.lines, ∀ c ∈ l, Break.ofChar? c = none

variable {t : Text} {i : Nat}

theorem lineCount_eq (t : Text) : (mk t).lineCount = (Text.bodies t).length := by
  simp [lineCount, lines, Text.bodies]

/-- **What is shown of a line** is the line, and the break that ends it if that is shown. -/
theorem line?_eq (t : Text) (i : Nat) :
    (mk t).line? i = (Text.bodies t)[i]?.map
      (· ++ ((Text.breaks t)[i]?.map Break.shown).getD []) := by
  rw [line?, lines, Text.bodies, List.getElem?_map, List.getElem?_map, Text.getElem?_breaks]
  cases (Text.lines t)[i]? <;> rfl

theorem lineLength_eq {body : Text} (hBody : (Text.bodies t)[i]? = some body) :
    (mk t).lineLength i =
      body.length + if (Text.breaks t)[i]?.any Break.isShown then 1 else 0 := by
  rw [lineLength, line?_eq, hBody, Option.map_some, Option.map_some, Option.getD_some,
    List.length_append]
  cases (Text.breaks t)[i]? with
  | none => rfl
  | some b => exact congrArg (body.length + ·) b.length_shown

/-- The lines are shown as they are where no break is shown. -/
theorem lines_eq_bodies (hNone : ∀ b ∈ Text.breaks t, b.isShown = false) :
    (mk t).lines = Text.bodies t := by
  refine List.map_congr_left fun l hl => ?_
  cases hEnding : l.ending with
  | none => rw [Line.text, hEnding]; exact List.append_nil _
  | some b =>
    have hHidden := hNone b (List.mem_filterMap.mpr ⟨l, hl, hEnding⟩)
    rw [Line.text, hEnding, Option.map_some, Option.getD_some, Break.shown_eq, hHidden]
    exact List.append_nil _

theorem bare_iff (t : Text) : (mk t).Bare ↔ ∀ b ∈ Text.breaks t, b.isShown = false := by
  constructor
  · rintro ⟨-, -, -, hNone⟩ b hb
    cases hShown : b.isShown with
    | false => rfl
    | true =>
      obtain ⟨l, hl, hEnding⟩ := Text.exists_line_of_mem_breaks hb
      obtain ⟨c, -, hc⟩ := Break.isShown_iff.mp hShown
      have hText : c ∈ l.text := by
        rw [Line.text, hEnding, Option.map_some, Option.getD_some, Break.shown_eq, hShown]
        exact List.mem_append_right _ hc
      exact absurd (hNone l.text (List.mem_map_of_mem hl) c hText) (b.ofChar?_of_mem_text hc)
  · intro hNone
    refine ⟨Text.breaks t, ?_, ?_, ?_⟩
    · rw [Text.length_breaks, lineCount_eq]
    · rw [lines_eq_bodies hNone]
      exact Text.weave_lines t
    · rw [lines_eq_bodies hNone]
      intro body hBody c hc
      obtain ⟨l, hl, rfl⟩ := List.mem_map.mp hBody
      exact Text.body_lines hl hc

/-- **What ends the lines of a document.**  The text is made of lines without any break inside, and
of a break after each but the last.  A line is shown without the break that ends it if that is a line
feed, a carriage return or both; any other break is shown with its line and counted in its length,
and there is nothing to show past the last line.  So all lines are shown bare just where the text
has none of the other breaks, which are a vertical tab, a form feed, U+0085, U+2028 and U+2029. -/
theorem terminators_exact (t : Text) :
    ((mk t).Bare ↔ ∀ c ∈ t, c ∉ Break.shownChars) ∧
    (∃ (bodies : List Text) (bs : List Break), bodies.length = (mk t).lineCount ∧
      bs.length + 1 = (mk t).lineCount ∧ Text.weave bodies bs = t ∧
      (∀ body ∈ bodies, ∀ c ∈ body, Break.ofChar? c = none) ∧
      ∀ i body, bodies[i]? = some body →
        (mk t).line? i = some (body ++ (bs[i]?.map Break.shown).getD []) ∧
        (mk t).lineLength i = body.length + if bs[i]?.any Break.isShown then 1 else 0) ∧
    ∀ i, (mk t).line? i = none ↔ (mk t).lineCount ≤ i := by
  refine ⟨?_, ⟨Text.bodies t, Text.breaks t, (lineCount_eq t).symm, ?_, Text.weave_lines t, ?_,
    fun i body hBody => ⟨?_, lineLength_eq hBody⟩⟩, fun i => ?_⟩
  · have hShown := not_congr (Text.exists_mem_isShown_iff t)
    push Not at hShown
    exact (bare_iff t).trans (by simpa using hShown)
  · rw [Text.length_breaks, lineCount_eq]
  · intro body hBody c hc
    obtain ⟨l, hl, rfl⟩ := List.mem_map.mp hBody
    exact Text.body_lines hl hc
  · rw [line?_eq, hBody, Option.map_some]
  · exact List.getElem?_eq_none_iff

theorem terminators_exact_mixed :
    (mk "a\r\nb\rc\n".toList).Bare ∧ ¬ (mk "a\r\nb\x0Cc".toList).Bare ∧
      (mk "a\r\nb\x0Cc".toList).line? 3 = none := by
  obtain ⟨hBare, -, -⟩ := terminators_exact "a\r\nb\rc\n".toList
  obtain ⟨hShown, -, hPast⟩ := terminators_exact "a\r\nb\x0Cc".toList
  refine ⟨hBare.mpr (by simp [Break.shownChars]), fun hAll => ?_, (hPast 3).mpr (by decide)⟩
  exact hShown.mp hAll '\x0C' (by decide) (by decide)

/-- A vertical tab ends the first line, and is shown with it. -/
theorem vertical_tab_shown :
    ¬ (mk "a\x0Bb".toList).Bare ∧ (mk "a\x0Bb".toList).line? 0 = some "a\x0B".toList ∧
      (mk "a\x0Bb".toList).lineLength 0 = 2 ∧ (mk "a\x0Bb".toList).lineCount = 2 := by
  refine ⟨?_, by decide, by decide, by decide⟩
  rintro ⟨-, -, -, hNone⟩
  exact absurd (hNone "a\x0B".toList (by decide) '\x0B' (by decide)) (by decide)

end Document

end LiveLine
