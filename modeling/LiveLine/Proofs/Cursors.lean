import LiveLine.Proofs.Encoding
import LiveLine.Proofs.Snippets
import LiveLine.Proofs.Terminators
import LiveLine.Script

/-!
# Where the cursor of a script stands

The cursor of a script that is not pinned stands on the line of the last character that is not
blank.  Every break is blank, so that what is shown of a line is blank just if the line is, and the
line is found by counting the breaks before that character.

* `Text.length_lines`: a text has one line more than it has breaks.
* `Text.exists_lines_append_letter`: the line that a letter of a text is on.
* `Document.lastNonBlank?_of_isAllBlank`, `Document.exists_lastNonBlank?_eq`: the last line that is
  not blank.
* `Snapshot.default_cursor_exact`: where the cursor stands.
-/

namespace LiveLine

theorem Break.isAllBlank_text (b : Break) : b.text.isAllBlank = true := by
  cases b <;> decide

theorem Break.isAllBlank_shown (b : Break) : b.shown.isAllBlank = true := by
  cases b <;> decide

theorem Break.ofChar?_of_not_isBlank {c : Char} (hc : isBlank c = false) : ofChar? c = none := by
  cases hBreak : ofChar? c with
  | none => rfl
  | some b =>
    have hBlank := List.all_eq_true.mp b.isAllBlank_text c (by simp [text_of_ofChar? hBreak])
    exact absurd (hBlank.symm.trans hc) (by decide)

namespace Text

variable {c : Char} {t pre post : Text}

/-- The number of breaks in a text.  A carriage return and the line feed after it are one. -/
def breakCount (t : Text) : Nat :=
  t.countP (fun c => (Break.ofChar? c).isSome) - (t.zip t.tail).count ('\r', '\n')

theorem count_zip_tail_cons (c : Char) (t : Text) :
    ((c :: t).zip t).count ('\r', '\n') =
      (t.zip t.tail).count ('\r', '\n') + if c = '\r' ∧ t.head? = some '\n' then 1 else 0 := by
  cases t with
  | nil => simp
  | cons x t =>
    rw [List.zip_cons_cons, List.count_cons]
    simp

/-- **A text has one line more than it has breaks.** -/
theorem length_lines_add (t : Text) :
    (lines t).length + (t.zip t.tail).count ('\r', '\n') =
      t.countP (fun c => (Break.ofChar? c).isSome) + 1 := by
  induction t using line_induction with
  | nil => rfl
  | pair t ih =>
    have hPair := count_zip_tail_cons '\r' ('\n' :: t)
    have hRest := count_zip_tail_cons '\n' t
    rw [if_pos ⟨rfl, rfl⟩, List.tail_cons] at hPair
    rw [if_neg fun h => absurd h.1 (by decide)] at hRest
    rw [lines_pair, List.length_cons, List.countP_cons_of_pos (by decide),
      List.countP_cons_of_pos (by decide), List.tail_cons]
    omega
  | single c b t hBreak hAlone ih =>
    have hRest := count_zip_tail_cons c t
    rw [if_neg hAlone] at hRest
    rw [lines_break hBreak hAlone, List.length_cons, List.countP_cons_of_pos (by simp [hBreak]),
      List.tail_cons]
    omega
  | letter c t hLetter ih =>
    have hc : c ≠ '\r' := by
      rintro rfl
      exact absurd hLetter (by decide)
    have hRest := count_zip_tail_cons c t
    rw [if_neg fun h => hc h.1] at hRest
    rw [lines_letter hLetter, List.length_modifyHead, List.countP_cons_of_neg (by simp [hLetter]),
      List.tail_cons]
    omega

theorem length_lines (t : Text) : (lines t).length = breakCount t + 1 := by
  have hAdd := length_lines_add t
  have hPos := List.length_pos_iff.mpr (lines_ne_nil t)
  rw [breakCount]
  omega

/-- **The line that a letter is on.**  Before it are the lines that end before the letter. -/
theorem exists_lines_append_letter (hLetter : Break.ofChar? c = none) (pre post : Text) :
    ∃ init l, lines (pre ++ c :: post) = init ++ l :: (lines post).tail ∧ c ∈ l.body ∧
      init.length + 1 = (lines pre).length := by
  induction pre using line_induction with
  | nil =>
    obtain ⟨l, ls, hLines⟩ := List.exists_cons_of_ne_nil (lines_ne_nil post)
    refine ⟨[], l.cons c, ?_, List.mem_cons_self, rfl⟩
    rw [List.nil_append, lines_letter hLetter, hLines]
    rfl
  | pair pre ih =>
    obtain ⟨init, l, hLines, hc, hLength⟩ := ih
    exact ⟨_ :: init, l, congrArg (_ :: ·) hLines, hc, congrArg (· + 1) hLength⟩
  | single x b pre hBreak hAlone ih =>
    obtain ⟨init, l, hLines, hc, hLength⟩ := ih
    have hAlone' : ¬ (x = '\r' ∧ (pre ++ c :: post).head? = some '\n') := by
      rintro ⟨rfl, hHead⟩
      cases pre with
      | nil =>
        obtain rfl : c = '\n' := Option.some.inj hHead
        exact absurd hLetter (by decide)
      | cons y pre => exact hAlone ⟨rfl, hHead⟩
    refine ⟨⟨[], some b⟩ :: init, l, ?_, hc, ?_⟩
    · rw [List.cons_append, lines_break hBreak hAlone', hLines, List.cons_append]
    · rw [lines_break hBreak hAlone, List.length_cons, List.length_cons, hLength]
  | letter x pre hOther ih =>
    obtain ⟨init, l, hLines, hc, hLength⟩ := ih
    rw [lines_letter hOther, List.length_modifyHead]
    cases init with
    | nil =>
      refine ⟨[], l.cons x, ?_, List.mem_cons_of_mem x hc, hLength⟩
      rw [List.cons_append, lines_letter hOther, hLines]
      rfl
    | cons first init =>
      refine ⟨first.cons x :: init, l, ?_, hc, hLength⟩
      rw [List.cons_append, lines_letter hOther, hLines]
      rfl

/-- What is shown of a line is blank if the line is. -/
theorem isAllBlank_text_iff (l : Line) :
    l.text.isAllBlank = true ↔ ∀ c ∈ l.full, isBlank c = true := by
  cases hBreak : l.ending with
  | none => simp [Line.text, Line.full, hBreak, isAllBlank]
  | some b =>
    have hShown := List.all_eq_true.mp b.isAllBlank_shown
    have hText := List.all_eq_true.mp b.isAllBlank_text
    simp only [Line.text, Line.full, hBreak, isAllBlank, Option.map_some, Option.getD_some,
      List.all_append, Bool.and_eq_true, List.all_eq_true, List.forall_mem_append]
    rw [and_iff_left hShown, and_iff_left hText]

/-- The lines of a blank text are blank. -/
theorem isAllBlank_of_mem_lines (hText : t.isAllBlank = true) {l : Line} (hl : l ∈ lines t) :
    l.text.isAllBlank = true :=
  (isAllBlank_text_iff l).mpr fun c hc => List.all_eq_true.mp hText c (mem_of_mem_full hl hc)

theorem exists_last_letter (hText : t.isAllBlank = false) :
    ∃ pre c post, t = pre ++ c :: post ∧ isBlank c = false ∧ isAllBlank post = true := by
  induction t with
  | nil => exact absurd hText (by decide)
  | cons x t ih =>
    rw [isAllBlank, List.all_cons, ← isAllBlank] at hText
    cases hRest : isAllBlank t with
    | true =>
      have hx : isBlank x = false := by rwa [hRest, Bool.and_true] at hText
      exact ⟨[], x, t, rfl, hx, hRest⟩
    | false =>
      obtain ⟨pre, c, post, rfl, hc, hPost⟩ := ih hRest
      exact ⟨x :: pre, c, post, rfl, hc, hPost⟩

end Text

namespace Document

variable {d : Document} {init rest : List Text} {line : Text}

/-- **The last line that is not blank**, where there is one. -/
theorem lastNonBlank?_eq (hLines : d.lines = init ++ line :: rest) (hLine : line.isAllBlank = false)
    (hRest : ∀ l ∈ rest, l.isAllBlank = true) : d.lastNonBlank? = some init.length := by
  have hNone : (rest.zipIdx (init.length + 1)).reverse.find? (fun l => !l.1.isAllBlank) = none := by
    refine List.find?_eq_none.mpr fun l hl => ?_
    have hMem := List.fst_mem_of_mem_zipIdx (List.mem_reverse.mp hl)
    simp [hRest l.1 hMem]
  rw [lastNonBlank?, hLines, List.zipIdx_append, List.reverse_append, List.zipIdx_cons,
    List.reverse_cons, Nat.zero_add, List.find?_append, List.find?_append, hNone]
  simp [hLine]

theorem lastNonBlank?_eq_none (hLines : ∀ l ∈ d.lines, l.isAllBlank = true) :
    d.lastNonBlank? = none := by
  rw [lastNonBlank?, Option.map_eq_none_iff, List.find?_eq_none]
  intro l hl
  simp [hLines l.1 (List.fst_mem_of_mem_zipIdx (List.mem_reverse.mp hl))]

theorem lines_isAllBlank {t : Text} (hText : t.isAllBlank = true) :
    ∀ l ∈ (mk t).lines, l.isAllBlank = true := by
  intro l hl
  obtain ⟨full, hFull, rfl⟩ := List.mem_map.mp hl
  exact Text.isAllBlank_of_mem_lines hText hFull

/-- The line of the last character that is not blank is the last line that is not blank. -/
theorem exists_lines_of_last_letter {c : Char} {post : Text} (pre : Text) (hc : isBlank c = false)
    (hPost : post.isAllBlank = true) :
    ∃ init line rest, (mk (pre ++ c :: post)).lines = init ++ line :: rest ∧
      init.length = pre.breakCount ∧ line.isAllBlank = false ∧ ∀ l ∈ rest, l.isAllBlank = true := by
  obtain ⟨init, l, hLines, hMem, hLength⟩ :=
    Text.exists_lines_append_letter (Break.ofChar?_of_not_isBlank hc) pre post
  rw [Text.length_lines] at hLength
  refine ⟨init.map Line.text, l.text, (Text.lines post).tail.map Line.text, ?_, ?_, ?_, ?_⟩
  · rw [lines, hLines, List.map_append, List.map_cons]
  · rw [List.length_map]
    exact Nat.add_right_cancel hLength
  · rw [← Bool.not_eq_true, Text.isAllBlank_text_iff]
    intro hBlank
    exact absurd ((hBlank c (List.mem_append_left _ hMem)).symm.trans hc) (by decide)
  · intro line hLine
    obtain ⟨full, hFull, rfl⟩ := List.mem_map.mp hLine
    exact Text.isAllBlank_of_mem_lines hPost (List.mem_of_mem_tail hFull)

/-- A document that is all blank has a blank line, and none that is not. -/
theorem lastNonBlank?_of_isAllBlank (hText : d.text.isAllBlank = true) :
    d.lastNonBlank? = none ∧ ∃ line, d.line? 0 = some line ∧ line.isAllBlank = true := by
  have hBlank : ∀ l ∈ d.lines, l.isAllBlank = true := lines_isAllBlank hText
  have hFirst : 0 < d.lines.length := lineCount_pos d.text
  exact ⟨lastNonBlank?_eq_none hBlank, _, List.getElem?_eq_getElem hFirst,
    hBlank _ (List.getElem_mem hFirst)⟩

/-- In any other document the last line that is not blank is found by counting breaks. -/
theorem exists_lastNonBlank?_eq (hText : d.text.isAllBlank = false) :
    ∃ n, d.lastNonBlank? = some n ∧
      (∃ (pre : Text) (c : Char) (post : Text), d.text = pre ++ c :: post ∧ isBlank c = false ∧
        post.isAllBlank = true ∧ n = pre.breakCount) ∧
      (∃ line, d.line? n = some line ∧ line.isAllBlank = false) ∧
      ∀ i line, n < i → d.line? i = some line → line.isAllBlank = true := by
  obtain ⟨text⟩ := d
  obtain ⟨pre, c, post, rfl, hc, hPost⟩ := Text.exists_last_letter hText
  obtain ⟨init, line, rest, hLines, hLength, hLine, hRest⟩ :=
    exists_lines_of_last_letter pre hc hPost
  refine ⟨init.length, lastNonBlank?_eq hLines hLine hRest, ⟨pre, c, post, rfl, hc, hPost, hLength⟩,
    ⟨line, ?_, hLine⟩, ?_⟩
  · rw [line?, hLines, List.getElem?_append_right le_rfl, Nat.sub_self]
    rfl
  · intro i later hi hLater
    obtain ⟨k, rfl⟩ := Nat.exists_eq_add_of_lt hi
    rw [line?, hLines, List.getElem?_append_right (by omega),
      show init.length + k + 1 - init.length = k + 1 by omega, List.getElem?_cons_succ] at hLater
    exact hRest later (List.mem_of_getElem? hLater)

end Document

/-! ### Scripts -/

theorem Document.ofFile_encode (t : Text) : Document.ofFile (some (Utf8.encode t)) = ⟨t⟩ := by
  rw [ofFile, Option.bind_some, Utf8.decode?_eq_some.mpr rfl]
  rfl

theorem Document.ofFile_of_unreadable {content : Option Bytes}
    (hContent : ∀ t, content ≠ some (Utf8.encode t)) : Document.ofFile content = Document.empty := by
  have hNone : content.bind Utf8.decode? = none := by
    rw [Option.eq_none_iff_forall_ne_some]
    intro t ht
    obtain ⟨bytes, rfl, hDecode⟩ := Option.bind_eq_some_iff.mp ht
    exact hContent t (congrArg some (Utf8.decode?_eq_some.mp hDecode))
  rw [ofFile, hNone]
  rfl

/-- **Where the cursor of a script stands**, if it is not pinned.  A file holds the text that it
encodes, and no text where it cannot be read or encodes none.  The cursor is on a line of that text.
It is on the line of the last character that is not blank, which has as many lines before it as
there are breaks before the character; that line is not blank, and all later ones are.  In a text
that is all blank there is no such line, and the cursor is on the first one. -/
theorem Snapshot.default_cursor_exact (content : Option Bytes) :
    let d := (Snapshot.ofFile content none).document
    let n := (Snapshot.ofFile content none).cursor
    (∀ t, content = some (Utf8.encode t) → d.text = t) ∧
    ((∀ t, content ≠ some (Utf8.encode t)) → d.text = []) ∧
    d.hasLine n = true ∧
    (d.text.isAllBlank = false → d.lastNonBlank? = some n ∧
      (∃ (pre : Text) (c : Char) (post : Text), d.text = pre ++ c :: post ∧ isBlank c = false ∧
        post.isAllBlank = true ∧ n = pre.breakCount) ∧
      (∃ line, d.line? n = some line ∧ line.isAllBlank = false) ∧
      ∀ i line, n < i → d.line? i = some line → line.isAllBlank = true) ∧
    (d.text.isAllBlank = true → d.lastNonBlank? = none ∧ n = 0 ∧
      ∃ line, d.line? n = some line ∧ line.isAllBlank = true) := by
  intro d n
  have hLast : n = d.lastNonBlank?.getD 0 := rfl
  have hasLine : ∀ {line}, d.line? n = some line → d.hasLine n = true :=
    fun hLine => decide_eq_true (List.getElem?_eq_some_iff.mp hLine).1
  refine ⟨?_, fun hContent => ?_, ?_⟩
  · rintro t rfl
    exact congrArg Document.text (Document.ofFile_encode t)
  · exact congrArg Document.text (Document.ofFile_of_unreadable hContent)
  · clear_value d n
    cases hText : d.text.isAllBlank with
    | true =>
      obtain ⟨hNone, line, hLine, hBlank⟩ := Document.lastNonBlank?_of_isAllBlank hText
      obtain rfl : n = 0 := by rw [hLast, hNone, Option.getD_none]
      exact ⟨hasLine hLine, nofun, fun _ => ⟨hNone, rfl, line, hLine, hBlank⟩⟩
    | false =>
      obtain ⟨m, hFound, hPlace, ⟨line, hLine, hNot⟩, hLater⟩ :=
        Document.exists_lastNonBlank?_eq hText
      obtain rfl : n = m := by rw [hLast, hFound, Option.getD_some]
      exact ⟨hasLine hLine, fun _ => ⟨hFound, hPlace, ⟨line, hLine, hNot⟩, hLater⟩, nofun⟩

/-- A carriage return and a line feed are one break, and the blank line at the end has no cursor. -/
theorem Snapshot.default_cursor_exact_paired :
    (Snapshot.ofFile (some (Utf8.encode "x\r\n\x0Bprint(x)\n  \n".toList)) none).cursor = 2 ∧
      (Snapshot.ofFile (some (Utf8.encode "\t\n ".toList)) none).cursor = 0 ∧
      (Snapshot.ofFile none none).document.text = [] := by
  obtain ⟨hRead, -, -, hLast, -⟩ :=
    Snapshot.default_cursor_exact (some (Utf8.encode "x\r\n\x0Bprint(x)\n  \n".toList))
  obtain ⟨hReadBlank, -, -, -, hBlank⟩ :=
    Snapshot.default_cursor_exact (some (Utf8.encode "\t\n ".toList))
  obtain ⟨-, hMissing, -⟩ := Snapshot.default_cursor_exact none
  have hText := hRead _ rfl
  have hTextBlank := hReadBlank _ rfl
  obtain ⟨hFound, -⟩ := hLast (by rw [hText]; decide)
  obtain ⟨-, hFirst, -⟩ := hBlank (by rw [hTextBlank]; decide)
  refine ⟨Option.some.inj (hFound.symm.trans ?_), hFirst, hMissing fun t h => by cases h⟩
  rw [Document.lastNonBlank?, Document.lines, hText]
  decide

end LiveLine
