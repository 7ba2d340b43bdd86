import LiveLine.Proofs.Lines
import LiveLine.Snippet

/-!
# Snippets and lines

A snippet counts lines by line feeds, and a document by all breaks.  The lines of the snippet so
begin with those of the document through the cursor line, but there may be more of them.

* `snippet_cut`: a snippet is the text through a line feed, or the whole text and a line feed.
* `Document.take_lines_snippet`: the lines through the cursor line are the same.
* `Document.lines_snippet_exact`: when there are no others.
-/

namespace LiveLine

variable {t : Text} {n : Nat}

theorem snippet_nil (n : Nat) : snippet [] n = ['\n'] := by
  simp [snippet, Text.splitOn, Text.joinWith]

theorem snippet_feed_zero (t : Text) : snippet ('\n' :: t) 0 = ['\n'] := by
  simp [snippet, Text.splitOn, Text.joinWith]

theorem snippet_feed_succ (t : Text) (n : Nat) :
    snippet ('\n' :: t) (n + 1) = '\n' :: snippet t n := by
  obtain ⟨p, ps, hParts⟩ := List.exists_cons_of_ne_nil (Text.splitOn_ne_nil '\n' t)
  simp [snippet, Text.splitOn, Text.joinWith, hParts]

theorem snippet_cons {c : Char} (hc : c ≠ '\n') (t : Text) (n : Nat) :
    snippet (c :: t) n = c :: snippet t n := by
  obtain ⟨p, ps, hParts⟩ := List.exists_cons_of_ne_nil (Text.splitOn_ne_nil '\n' t)
  simp only [snippet, Text.splitOn, hc, if_false, hParts, List.take_succ_cons]
  cases ps.take n <;> simp [Text.joinWith]

/-- **A snippet is a cut.**  It is the text through the line feed of the cursor line, or the whole
text and a line feed where the text has fewer. -/
theorem snippet_cut (t : Text) (n : Nat) :
    (∃ p r, t = p ++ '\n' :: r ∧ p.count '\n' = n ∧ snippet t n = p ++ ['\n']) ∨
      t.count '\n' ≤ n ∧ snippet t n = t ++ ['\n'] := by
  induction t generalizing n with
  | nil => exact Or.inr ⟨Nat.zero_le n, snippet_nil n⟩
  | cons c t ih =>
    by_cases hc : c = '\n'
    · subst hc
      cases n with
      | zero => exact Or.inl ⟨[], t, rfl, rfl, snippet_feed_zero t⟩
      | succ n =>
        rw [snippet_feed_succ]
        rcases ih n with ⟨p, r, rfl, hCount, hSnippet⟩ | ⟨hCount, hSnippet⟩
        · exact Or.inl ⟨'\n' :: p, r, rfl, by simp [hCount], by rw [hSnippet]; rfl⟩
        · exact Or.inr ⟨by simpa using hCount, by rw [hSnippet]; rfl⟩
    · rw [snippet_cons hc]
      rcases ih n with ⟨p, r, rfl, hCount, hSnippet⟩ | ⟨hCount, hSnippet⟩
      · exact Or.inl ⟨c :: p, r, rfl, by simp [hc, hCount], by rw [hSnippet]; rfl⟩
      · exact Or.inr ⟨by simpa [hc] using hCount, by rw [hSnippet]; rfl⟩

/-- A text whose snippet is cut from it: the lines before the one that ends the snippet, that line,
and the text after it. -/
structure Cut (t : Text) (n : Nat) (ls : List Line) (l : Line) (r : Text) : Prop where
  text : Text.lines t = ls ++ l :: Text.lines r
  snippet : Text.lines (snippet t n) = ls ++ [l, ⟨[], none⟩]
  before : ls.countP Line.feeds = n
  feeds : l.feeds = true
  last : t.getLast? = some '\r' → r.getLast? = some '\r'

theorem cut_or_whole (t : Text) (n : Nat) :
    (∃ ls l r, Cut t n ls l r) ∨ t.count '\n' ≤ n ∧ snippet t n = t ++ ['\n'] := by
  refine (snippet_cut t n).imp_left ?_
  rintro ⟨p, r, rfl, hCount, hSnippet⟩
  obtain ⟨ls, l, hFeeds, hLines⟩ := Text.exists_lines_append p
  refine ⟨ls, l, r, hLines r, hSnippet ▸ hLines [], ?_, hFeeds, fun hLast => ?_⟩
  · have hEnds := Text.countP_lines (p ++ ['\n'])
    rw [hLines [], List.countP_append, List.count_append, List.countP_cons_of_pos hFeeds,
      hCount] at hEnds
    simpa [Text.lines, Line.feeds] using hEnds
  · cases r with
    | nil => simp at hLast
    | cons x r => simpa using hLast

theorem Cut.le_length {ls : List Line} {l : Line} {r : Text} (hCut : Cut t n ls l r) :
    n ≤ ls.length := hCut.before ▸ ls.countP_le_length

/-- Where the first lines all end with line feeds, there are as many line feeds. -/
theorem lt_countP_feeds {ls : List Line} (hLength : n < ls.length)
    (hFeeds : ∀ l ∈ ls.take (n + 1), l.feeds = true) : n < ls.countP Line.feeds := by
  have hAll : (ls.take (n + 1)).countP Line.feeds = n + 1 := by
    rw [List.countP_eq_length.mpr hFeeds, List.length_take, Nat.min_eq_left hLength]
  calc n < (ls.take (n + 1)).countP Line.feeds := by omega
    _ ≤ ls.countP Line.feeds := (List.take_sublist ..).countP_le

namespace Document

/-- The last line of a snippet is empty. -/
theorem exists_lines_snippet (t : Text) (n : Nat) :
    ∃ ls, (mk (snippet t n)).lines = ls ++ [[]] := by
  obtain ⟨p, hSnippet⟩ : ∃ p, snippet t n = p ++ ['\n'] := ⟨_, rfl⟩
  obtain ⟨ls, l, -, hLines⟩ := Text.exists_lines_append p
  refine ⟨(ls ++ [l]).map Line.text, ?_⟩
  rw [lines, hSnippet, hLines]
  simp [Text.lines, Line.text]

/-- The lines through the cursor line are those of the document. -/
theorem take_lines_snippet (hCursor : n < (mk t).lineCount) :
    (mk (snippet t n)).lines.take (n + 1) = (mk t).lines.take (n + 1) := by
  rcases cut_or_whole t n with ⟨ls, l, r, hCut⟩ | ⟨-, hSnippet⟩
  · have hLength : n + 1 ≤ (ls ++ [l]).length := by
      rw [List.length_append, List.length_singleton]
      exact Nat.succ_le_succ hCut.le_length
    rw [lines, lines, hCut.text, hCut.snippet, List.append_cons ls l [_],
      List.append_cons ls l (Text.lines r), ← List.map_take, ← List.map_take,
      List.take_append_of_le_length hLength, List.take_append_of_le_length hLength]
  · rw [hSnippet, lines_close, List.take_append_of_le_length hCursor]

theorem lineCount_pos (t : Text) : 0 < (mk t).lineCount :=
  List.length_pos_iff.mpr (by simpa [lines] using Text.lines_ne_nil t)

/-- A carriage return at the end of a text ends a line. -/
theorem two_le_lineCount (hReturn : t.getLast? = some '\r') : 2 ≤ (mk t).lineCount := by
  obtain ⟨ls, l, -, hLines⟩ := Text.exists_lines_append t
  have hClose := congrArg List.length (lines_close t)
  rw [if_pos hReturn, List.append_nil, lines, hLines, List.length_map, List.length_append] at hClose
  rw [lineCount, ← hClose]
  simp [Text.lines]

/-- A snippet that is cut from a text has no further lines where the lines through the cursor line
end with line feeds.  The cursor is not on the last line then. -/
theorem lineCount_snippet_of_cut {ls : List Line} {l : Line} {r : Text} (hCut : Cut t n ls l r) :
    ((mk (snippet t n)).lineCount = n + 2 ↔
      ∀ l ∈ (Text.lines t).take (n + 1), l.feeds = true) ∧
    (mk t).lineCount ≠ n + if t.getLast? = some '\r' then 2 else 1 := by
  have hBefore := hCut.le_length
  have hSnippet : (mk (snippet t n)).lineCount = ls.length + 2 := by
    simp [lineCount, lines, hCut.snippet]
  have hText : (mk t).lineCount = ls.length + 1 + (mk r).lineCount := by
    simp only [lineCount, lines, hCut.text, List.length_map, List.length_append, List.length_cons]
    omega
  rw [hSnippet, Nat.add_right_cancel_iff]
  refine ⟨⟨?_, fun hFeeds => ?_⟩, ?_⟩
  · rintro rfl x hx
    rw [hCut.text, List.append_cons, List.take_left' (by simp)] at hx
    rcases List.mem_append.mp hx with hx | hx
    · exact List.countP_eq_length.mp hCut.before x hx
    · rw [List.mem_singleton.mp hx, hCut.feeds]
  · by_contra hMore
    have hLength : n < ls.length := by omega
    rw [hCut.text, List.take_append_of_le_length hLength] at hFeeds
    have hEnds := lt_countP_feeds hLength hFeeds
    rw [hCut.before] at hEnds
    exact Nat.lt_irrefl n hEnds
  · -- what follows the cut is a line, and two where it ends with a carriage return
    split
    · rename_i hReturn
      have hTwo := two_le_lineCount (hCut.last hReturn)
      omega
    · have hOne := lineCount_pos r
      omega

/-- The snippet of a cursor has no further lines where the lines through the cursor line end with
line feeds, and where the cursor is on the last line. -/
theorem lineCount_snippet_iff (hCursor : n < (mk t).lineCount) :
    (mk (snippet t n)).lineCount = n + 2 ↔
      (∀ l ∈ (Text.lines t).take (n + 1), l.feeds = true) ∨
        (mk t).lineCount = n + if t.getLast? = some '\r' then 2 else 1 := by
  rcases cut_or_whole t n with ⟨ls, l, r, hCut⟩ | ⟨hCount, hSnippet⟩
  · obtain ⟨hLines, hLast⟩ := lineCount_snippet_of_cut hCut
    rw [hLines, or_iff_left hLast]
  · have hNone : ¬ ∀ l ∈ (Text.lines t).take (n + 1), l.feeds = true := by
      intro hFeeds
      have hMore := lt_countP_feeds (by simpa [lineCount, lines] using hCursor) hFeeds
      rw [Text.countP_lines] at hMore
      omega
    have hLines : (mk (snippet t n)).lineCount =
        (mk t).lineCount + if t.getLast? = some '\r' then 0 else 1 := by
      rw [lineCount, hSnippet, lines_close, List.length_append]
      split <;> rfl
    rw [hLines, or_iff_right hNone]
    split <;> omega

/-- **The lines of a snippet.**  They begin with the lines of the document through the cursor line,
and the last one is empty.  There are no others, so that the cursor line is the last one executed,
just where the lines through the cursor line all end with line feeds, or the cursor is on the last
line; a carriage return at the end of the text ends that line. -/
theorem lines_snippet_exact (hCursor : (mk t).hasLine n = true) :
    (∀ i ≤ n, (mk (snippet t n)).line? i = (mk t).line? i) ∧
    ((mk (snippet t n)).lines = (mk t).lines.take (n + 1) ++ [[]] ↔
      (mk (snippet t n)).lineCount = n + 2) ∧
    ((mk (snippet t n)).lineCount = n + 2 ↔
      (∀ l ∈ (Text.lines t).take (n + 1), l.feeds = true) ∨
        (mk t).lineCount = n + if t.getLast? = some '\r' then 2 else 1) := by
  have hLine : n < (mk t).lineCount := by simpa [hasLine] using hCursor
  have hSame := take_lines_snippet hLine
  refine ⟨fun i hi => ?_, ⟨fun hAll => ?_, fun hCount => ?_⟩, lineCount_snippet_iff hLine⟩
  · have hTake := congrArg (·[i]?) hSame
    simpa [line?, List.getElem?_take, Nat.lt_succ_of_le hi] using hTake
  · rw [lineCount, hAll, List.length_append, List.length_take_of_le hLine]
    rfl
  · obtain ⟨ls, hLast⟩ := exists_lines_snippet t n
    have hLength : ls.length = n + 1 := by
      rw [lineCount, hLast, List.length_append] at hCount
      exact Nat.add_right_cancel hCount
    rw [hLast, List.take_left' hLength] at hSame
    rw [hLast, hSame]

theorem lines_snippet_exact_pairs :
    (mk "x = 1\r\nprint(x)\nprint(y)\n".toList).hasLine 1 = true ∧
      (mk (snippet "x = 1\r\nprint(x)\nprint(y)\n".toList 1)).lines =
        ["x = 1".toList, "print(x)".toList, []] := by
  obtain ⟨-, hLines, hCount⟩ :=
    lines_snippet_exact (t := "x = 1\r\nprint(x)\nprint(y)\n".toList) (n := 1) (by decide)
  exact ⟨by decide, (hLines.mpr (hCount.mpr (Or.inl (by decide)))).trans (by decide)⟩

/-- A carriage return ends the cursor line, and the snippet goes on with the next one. -/
theorem snippet_overruns :
    (mk "print(1)\rprint(2)\n".toList).hasLine 0 = true ∧
      (mk "print(1)\rprint(2)\n".toList).line? 0 = some "print(1)".toList ∧
      (mk (snippet "print(1)\rprint(2)\n".toList 0)).lines =
        ["print(1)".toList, "print(2)".toList, []] ∧
      (mk (snippet "print(1)\rprint(2)\n".toList 0)).lineCount ≠ 0 + 2 := by
  decide

end Document

end LiveLine
