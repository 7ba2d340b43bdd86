import LiveLine.Proofs.Pieces
import LiveLine.Proofs.Snippets

/-!
# A snippet as a cut from the text

The snippet of a cursor ends with the line feed of the cursor line, or with one that is added where
the text has none there.  Which text follows the line feed makes no difference, so a snippet can be
cut again, at its own cursor line or at an earlier one.

* `snippet_append`: the text up to a line feed, whatever follows.
* `Text.ShortestWith`, `shortestWith_snippet`: no less of the text has so many line feeds.
* `snippet_of_starts`: a text that goes on from a snippet has the same snippet.
* `starts_snippet`, `snippet_snippet_iff`: snippets of two cursors.
* `snippet_eq_bounded`: lines may be counted in words.
* `Request.source_exact`: the laws together.
-/

namespace LiveLine

/-- `p` is the least that a text begins with which has `count` line feeds. -/
structure Text.ShortestWith (count : Nat) (t p : Text) : Prop where
  starts : p <+: t
  feeds : count ≤ p.count '\n'
  shortest : ∀ q, q <+: t → count ≤ q.count '\n' → p <+: q

variable {t u p : Text} {m n : Nat}

theorem Text.ShortestWith.unique {p' : Text} (h : t.ShortestWith n p) (h' : t.ShortestWith n p') :
    p = p' :=
  (h.shortest p' h'.starts h'.feeds).eq_of_length_le
    (h'.shortest p h.starts h.feeds).length_le

/-! ### One snippet -/

/-- A text is cut after the line feed of the cursor line, whatever follows it. -/
theorem snippet_append (hFeeds : p.count '\n' = n) (r : Text) :
    snippet (p ++ '\n' :: r) n = p ++ ['\n'] := by
  have hLength : (Text.splitOn '\n' p).length = n + 1 := by rw [Text.length_splitOn, hFeeds]
  rw [snippet, Text.splitOn_append, List.take_left' hLength, Text.joinWith_splitOn]

theorem snippet_of_count_le (hFeeds : t.count '\n' ≤ n) : snippet t n = t ++ ['\n'] := by
  have hLength : (Text.splitOn '\n' t).length ≤ n + 1 := by
    rw [Text.length_splitOn]
    exact Nat.succ_le_succ hFeeds
  rw [snippet, List.take_of_length_le hLength, Text.joinWith_splitOn]

/-- The line feed at the end of a snippet is that of the cursor line, if there is such a line. -/
theorem exists_snippet_eq (hLine : n ≤ t.count '\n') :
    ∃ p : Text, p.count '\n' = n ∧ snippet t n = p ++ ['\n'] := by
  rcases snippet_cut t n with ⟨p, r, -, hFeeds, hSnippet⟩ | ⟨hFeeds, hSnippet⟩
  · exact ⟨p, hFeeds, hSnippet⟩
  · exact ⟨t, Nat.le_antisymm hFeeds hLine, hSnippet⟩

theorem shortestWith_snippet (hFeeds : n < t.count '\n') :
    t.ShortestWith (n + 1) (snippet t n) := by
  rcases snippet_cut t n with ⟨p, r, rfl, hBefore, hSnippet⟩ | ⟨hFew, -⟩
  · have hStarts : p ++ ['\n'] <+: p ++ '\n' :: r := by simp
    rw [hSnippet]
    refine ⟨hStarts, by simp [hBefore], fun q hq hMany => ?_⟩
    rcases List.prefix_or_prefix_of_prefix hStarts hq with hLonger | hShorter
    · exact hLonger
    · -- what is shorter than the cut ends before its last line feed
      rcases List.prefix_concat_iff.mp hShorter with rfl | hBeyond
      · exact List.prefix_rfl
      · have hCount := hBeyond.count_le '\n'
        omega
  · omega

/-- **What follows a snippet makes no difference.**  Any text that goes on from the snippet of a
line has the same snippet. -/
theorem snippet_of_starts (hLine : n ≤ t.count '\n') (hStarts : snippet t n <+: u) :
    snippet u n = snippet t n := by
  obtain ⟨p, hFeeds, hSnippet⟩ := exists_snippet_eq hLine
  rw [hSnippet] at hStarts ⊢
  obtain ⟨r, rfl⟩ := hStarts
  rw [List.append_assoc, List.singleton_append, snippet_append hFeeds]

/-- Counting lines in words, up to the greatest word and no further, takes the same lines of a text
that has fewer line feeds than that. -/
theorem snippet_eq_bounded (hMemory : t.count '\n' + 1 < Text.wordBound) (n : Nat) :
    snippet t n = Text.joinWith '\n'
      ((Text.splitOn '\n' t).take (min (n + 1) (Text.wordBound - 1))) ++ ['\n'] := by
  rcases Nat.lt_or_ge (n + 1) Text.wordBound with hWord | hLast
  · rw [Nat.min_eq_left (Nat.le_sub_one_of_lt hWord), snippet]
  · rw [Nat.min_eq_right (by omega), snippet_of_count_le (by omega),
      List.take_of_length_le (by rw [Text.length_splitOn]; omega), Text.joinWith_splitOn]

/-! ### Snippets of two cursors -/

theorem starts_snippet (hCursors : n ≤ m) (t : Text) : snippet t n <+: snippet t m := by
  by_cases hFeeds : n < t.count '\n'
  · have hShortest := shortestWith_snippet hFeeds
    by_cases hFeeds' : m < t.count '\n'
    · have hLater := shortestWith_snippet hFeeds'
      exact hShortest.shortest _ hLater.starts (by have := hLater.feeds; omega)
    · rw [snippet_of_count_le (Nat.le_of_not_lt hFeeds')]
      exact hShortest.starts.trans (List.prefix_append t ['\n'])
  · have hWhole : t.count '\n' ≤ n := Nat.le_of_not_lt hFeeds
    have hSame : snippet t m = snippet t n :=
      (snippet_of_count_le (Nat.le_trans hWhole hCursors)).trans (snippet_of_count_le hWhole).symm
    exact hSame ▸ List.prefix_rfl

/-- A snippet can be cut at an earlier line, or at its own.  Where the text has no such line, each
cut adds a line feed. -/
theorem snippet_snippet_iff (hCursors : n ≤ m) (t : Text) :
    snippet (snippet t m) n = snippet t n ↔ n < (Text.splitOn '\n' t).length := by
  rw [Text.length_splitOn, Nat.lt_succ_iff]
  refine ⟨fun hSame => ?_, fun hLine => snippet_of_starts hLine (starts_snippet hCursors t)⟩
  by_contra hNone
  have hWhole : ∀ k, n ≤ k → snippet t k = t ++ ['\n'] := fun k hk =>
    snippet_of_count_le (by omega)
  rw [hWhole m hCursors, hWhole n (Nat.le_refl n), snippet_of_count_le (by simp; omega)] at hSame
  simp at hSame

namespace Request

/-- **The laws of snippets.**  A text with a line feed behind the cursor line is cut to the least of it
that has so many line feeds, and nothing after the last of these makes a difference.  Any other text
is taken whole, with a line feed.  The snippet of a cursor begins that of any later one, from which,
or from itself, it is cut just as from the text if the text has the cursor line, and only then.  It
makes no difference that lines are counted in words. -/
theorem source_exact (t : Text) (n : Nat) :
    (n < t.count '\n' → ∀ p, p = (through t n).source ↔ t.ShortestWith (n + 1) p) ∧
    (t.count '\n' ≤ n → (through t n).source = t ++ ['\n']) ∧
    (n < t.count '\n' →
      ∀ u, (through t n).source <+: u → (through u n).source = (through t n).source) ∧
    (∀ m, n ≤ m → (through t n).source <+: (through t m).source ∧
      ((through (through t m).source n).source = (through t n).source ↔
        n < (Text.splitOn '\n' t).length)) ∧
    (t.count '\n' + 1 < Text.wordBound → (through t n).source = Text.joinWith '\n'
      ((Text.splitOn '\n' t).take (min (n + 1) (Text.wordBound - 1))) ++ ['\n']) := by
  refine ⟨fun hFeeds p => ⟨?_, fun hShortest => ?_⟩, snippet_of_count_le, fun hFeeds u => ?_,
    fun m hCursors => ⟨starts_snippet hCursors t, snippet_snippet_iff hCursors t⟩,
    fun hMemory => snippet_eq_bounded hMemory n⟩
  · rintro rfl
    exact shortestWith_snippet hFeeds
  · exact hShortest.unique (shortestWith_snippet hFeeds)
  · exact snippet_of_starts (Nat.le_of_lt hFeeds)

/-- The last line has no line feed of its own, and cursors go up to the greatest word. -/
theorem source_exact_unended :
    Text.ShortestWith 1 "f()\ng()".toList "f()\n".toList ∧
      (through "f()\nh(1)\n".toList 0).source = "f()\n".toList ∧
      (through "f()\ng()".toList 1).source = "f()\ng()\n".toList ∧
      (through (through "f()\ng()".toList 1).source 1).source = "f()\ng()\n".toList ∧
      (through (through "f()\ng()".toList 2).source 2).source ≠ "f()\ng()\n".toList ∧
      (through "f()\ng()".toList (Text.wordBound - 1)).source = "f()\ng()\n".toList := by
  obtain ⟨hCut, -, hAfter, -, -⟩ := source_exact "f()\ng()".toList 0
  obtain ⟨-, hWhole, -, hAgain, -⟩ := source_exact "f()\ng()".toList 1
  obtain ⟨-, hPast, -, hNone, -⟩ := source_exact "f()\ng()".toList 2
  obtain ⟨-, -, -, -, hWords⟩ := source_exact "f()\ng()".toList (Text.wordBound - 1)
  obtain ⟨-, hOwn⟩ := hAgain 1 (Nat.le_refl 1)
  obtain ⟨-, hGrows⟩ := hNone 2 (Nat.le_refl 2)
  have hFirst : "f()\n".toList = (through "f()\ng()".toList 0).source := by decide
  have hLast : (through "f()\ng()".toList 1).source = "f()\ng()\n".toList := hWhole (by decide)
  refine ⟨(hCut (by decide) _).mp hFirst, ?_, hLast, (hOwn.mpr (by decide)).trans hLast, ?_,
    (hWords (by decide)).trans (by decide)⟩
  · rw [hAfter (by decide) _ (by decide), ← hFirst]
  · intro hSame
    have hEnough := hGrows.mp (hSame.trans (hPast (by decide)).symm)
    exact absurd hEnough (by decide)

end Request

end LiveLine
