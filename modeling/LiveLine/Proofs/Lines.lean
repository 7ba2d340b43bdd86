import LiveLine.Document
import Mathlib.Data.List.Basic

/-!
# The lines of a text

A line feed ends a line wherever it stands, so a text can be cut after any of its line feeds.  The
other breaks end lines too, and a carriage return is one break together with the line feed after it.

* `Text.line_induction`: texts are made of pairs of a carriage return and a line feed, of other
  breaks, and of letters.
* `Text.exists_lines_append`: the lines of a text up to a line feed, whatever follows.
* `Text.countP_lines`: each line feed ends one line.
* `Document.lines_close`: what a line feed at the end adds to a document.
-/

namespace LiveLine

/-- Whether a line ends with a line feed, after a carriage return or not. -/
def Line.feeds (l : Line) : Bool :=
  l.ending matches some .lineFeed | some .carriageReturnLineFeed

theorem Line.text_cons (c : Char) (l : Line) : (l.cons c).text = c :: l.text := rfl

theorem Line.feeds_cons (c : Char) (l : Line) : (l.cons c).feeds = l.feeds := rfl

namespace Break

theorem feeds_of_ofChar? {c : Char} {b : Break} (hBreak : ofChar? c = some b) :
    Line.feeds ⟨[], some b⟩ = decide (c = '\n') := by
  unfold ofChar? at hBreak
  split_ifs at hBreak with hFeed <;> cases hBreak <;> simp [Line.feeds, hFeed]

end Break

namespace Text

variable {c : Char} {b : Break} {t : Text}

theorem lines_ne_nil (t : Text) : lines t ≠ [] := by
  fun_cases lines t <;> simp

theorem lines_pair (t : Text) :
    lines ('\r' :: '\n' :: t) = ⟨[], some .carriageReturnLineFeed⟩ :: lines t := rfl

theorem lines_break (hBreak : Break.ofChar? c = some b)
    (hAlone : ¬ (c = '\r' ∧ t.head? = some '\n')) :
    lines (c :: t) = ⟨[], some b⟩ :: lines t := by
  rw [lines, hBreak]
  rintro r rfl rfl
  exact hAlone ⟨rfl, rfl⟩

/-- What follows a text leaves a break at its beginning alone, unless it can make a pair with it. -/
theorem lines_break_append (hBreak : Break.ofChar? c = some b)
    (hAlone : ¬ (c = '\r' ∧ t.head? = some '\n')) (hLast : ¬ (c = '\r' ∧ t = [])) (r : Text) :
    lines (c :: (t ++ r)) = ⟨[], some b⟩ :: lines (t ++ r) := by
  refine lines_break hBreak ?_
  rintro ⟨rfl, hHead⟩
  cases t with
  | nil => exact hLast ⟨rfl, rfl⟩
  | cons x t => exact hAlone ⟨rfl, hHead⟩

theorem lines_letter (hLetter : Break.ofChar? c = none) :
    lines (c :: t) = (lines t).modifyHead (Line.cons c) := by
  obtain ⟨l, ls, hLines⟩ := List.exists_cons_of_ne_nil (lines_ne_nil t)
  rw [lines, hLetter, hLines]
  · rfl
  · rintro r rfl -
    exact absurd hLetter (by decide)

/-- A text begins with a pair, with another break, which is a single character, or with a letter. -/
@[elab_as_elim]
theorem line_induction {P : Text → Prop} (nil : P [])
    (pair : ∀ t, P t → P ('\r' :: '\n' :: t))
    (single : ∀ c b t, Break.ofChar? c = some b → ¬ (c = '\r' ∧ t.head? = some '\n') → P t →
      P (c :: t))
    (letter : ∀ c t, Break.ofChar? c = none → P t → P (c :: t)) (t : Text) : P t := by
  induction t using lines.induct with
  | case1 => exact nil
  | case2 t ih => exact pair t ih
  | case3 c t hAlone b hBreak ih =>
    refine single c b t hBreak ?_ ih
    rintro ⟨rfl, hHead⟩
    obtain ⟨r, rfl⟩ := List.head?_eq_some_iff.mp hHead
    exact hAlone r rfl rfl
  | case4 c t _ hLetter _ ih => exact letter c t hLetter ih
  | case5 c t _ hLetter _ _ _ ih => exact letter c t hLetter ih

/-- **A text can be cut after a line feed.**  What follows makes no difference to the lines before
it, of which the last one ends with the line feed. -/
theorem exists_lines_append (t : Text) :
    ∃ ls l, l.feeds = true ∧ ∀ r, lines (t ++ '\n' :: r) = ls ++ l :: lines r := by
  induction t using line_induction with
  | nil => exact ⟨[], ⟨[], some .lineFeed⟩, rfl, fun _ => rfl⟩
  | pair t ih =>
    obtain ⟨ls, l, hFeeds, hLines⟩ := ih
    exact ⟨_ :: ls, l, hFeeds, fun r => congrArg (_ :: ·) (hLines r)⟩
  | single c b t hBreak hAlone ih =>
    by_cases hLast : c = '\r' ∧ t = []
    · obtain ⟨rfl, rfl⟩ := hLast
      exact ⟨[], ⟨[], some .carriageReturnLineFeed⟩, rfl, fun _ => rfl⟩
    · obtain ⟨ls, l, hFeeds, hLines⟩ := ih
      refine ⟨⟨[], some b⟩ :: ls, l, hFeeds, fun r => ?_⟩
      rw [List.cons_append, lines_break_append hBreak hAlone hLast, hLines, List.cons_append]
  | letter c t hLetter ih =>
    obtain ⟨ls, l, hFeeds, hLines⟩ := ih
    cases ls with
    | nil =>
      refine ⟨[], l.cons c, hFeeds, fun r => ?_⟩
      rw [List.cons_append, lines_letter hLetter, hLines]
      rfl
    | cons first ls =>
      refine ⟨first.cons c :: ls, l, hFeeds, fun r => ?_⟩
      rw [List.cons_append, lines_letter hLetter, hLines]
      rfl

/-- Each line feed ends one line. -/
theorem countP_lines (t : Text) : (lines t).countP Line.feeds = t.count '\n' := by
  induction t using line_induction with
  | nil => rfl
  | pair t ih =>
    rw [lines_pair, List.countP_cons_of_pos rfl, ih]
    simp
  | single c b t hBreak hAlone ih =>
    rw [lines_break hBreak hAlone, List.countP_cons, List.count_cons, ih,
      Break.feeds_of_ofChar? hBreak]
    simp
  | letter c t hLetter ih =>
    have hc : c ≠ '\n' := by
      rintro rfl
      exact absurd hLetter (by decide)
    obtain ⟨l, ls, hLines⟩ := List.exists_cons_of_ne_nil (lines_ne_nil t)
    rw [List.count_cons_of_ne hc, ← ih, lines_letter hLetter, hLines, List.modifyHead_cons,
      List.countP_cons, List.countP_cons, Line.feeds_cons]

theorem getLast?_cons_eq_return (hc : c = '\r' → t ≠ []) :
    (c :: t).getLast? = some '\r' ↔ t.getLast? = some '\r' := by
  cases t with
  | nil => simpa using hc
  | cons x t => simp

end Text

/-- **Closing a document.**  A line feed at the end opens one more line, unless it makes a pair with
a carriage return. -/
theorem Document.lines_close (t : Text) :
    (mk (t ++ ['\n'])).lines = (mk t).lines ++ if t.getLast? = some '\r' then [] else [[]] := by
  unfold Document.lines
  dsimp only
  induction t using Text.line_induction with
  | nil => rfl
  | pair t ih =>
    rw [List.cons_append, List.cons_append, Text.lines_pair, Text.lines_pair, List.map_cons, ih]
    cases t with
    | nil => rfl
    | cons x t => simp
  | single c b t hBreak hAlone ih =>
    by_cases hLast : c = '\r' ∧ t = []
    · obtain ⟨rfl, rfl⟩ := hLast
      rfl
    · rw [List.cons_append, Text.lines_break_append hBreak hAlone hLast,
        Text.lines_break hBreak hAlone, List.map_cons, List.map_cons, ih, List.cons_append]
      simp only [Text.getLast?_cons_eq_return (not_and.mp hLast)]
  | letter c t hLetter ih =>
    have hc : c ≠ '\r' := by
      rintro rfl
      exact absurd hLetter (by decide)
    obtain ⟨l, ls, hLines⟩ := List.exists_cons_of_ne_nil (Text.lines_ne_nil t)
    obtain ⟨l', ls', hLines'⟩ := List.exists_cons_of_ne_nil (Text.lines_ne_nil (t ++ ['\n']))
    rw [hLines, hLines', List.map_cons, List.map_cons, List.cons_append] at ih
    obtain ⟨hHead, hTail⟩ := List.cons.inj ih
    rw [List.cons_append, Text.lines_letter hLetter, Text.lines_letter hLetter, hLines, hLines',
      List.modifyHead_cons, List.modifyHead_cons, List.map_cons, List.map_cons, Line.text_cons,
      Line.text_cons, hHead, hTail, List.cons_append]
    simp only [Text.getLast?_cons_eq_return fun h => absurd h hc]

end LiveLine
