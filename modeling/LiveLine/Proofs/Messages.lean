import LiveLine.Proofs.Failures
import LiveLine.Proofs.Pieces
import LiveLine.Proofs.Trimming
import Mathlib.Order.Lattice.Nat

/-!
# What an annotation says

The message of an annotation is the last line of the text that it is taken from in which something
is written.  Cutting the trimmed text is one way to find that line; another is to look at the lines
of the text itself.  There is always such a line in an output, but an error text may be blank, and
then only the label is left.

* `lastLine_eq`: the last line of the trimmed text among the lines of the text.
* `Verdict.concise_exact`: the message that is shown.
* `Verdict.text_note_retold`: blanks behind the message make no difference.
* `Verdict.says_exact`: when only the label is left.
-/

namespace LiveLine

namespace Text

variable {t l : Text} {i j : Nat}

/-! ### Lines in which something is written -/

/-- The numbers of the lines between line feeds in which something is written. -/
def written (t : Text) : Set Nat :=
  {n | ∃ l, (splitOn '\n' t)[n]? = some l ∧ l.isAllBlank = false}

theorem bddAbove_written (t : Text) : BddAbove t.written :=
  ⟨(splitOn '\n' t).length, fun _ ⟨_, hLine, _⟩ =>
    (List.getElem?_eq_some_iff.mp hLine).1.le⟩

theorem isAllBlank_flatMap_close {ls : List Text} :
    Text.isAllBlank (ls.flatMap (· ++ ['\n'])) = true ↔ ∀ l ∈ ls, l.isAllBlank = true := by
  have hFeed : Text.isAllBlank ['\n'] = true := by decide
  rw [isAllBlank, List.all_flatMap, List.all_eq_true]
  refine forall₂_congr fun l _ => ?_
  exact isAllBlank_append.trans (and_iff_left hFeed)

theorem isAllBlank_flatMap_open {ls : List Text} (hLines : ∀ l ∈ ls, l.isAllBlank = true) :
    Text.isAllBlank (ls.flatMap ('\n' :: ·)) = true := by
  rw [isAllBlank, List.all_flatMap, List.all_eq_true]
  exact fun l hl => isAllBlank_append (t := ['\n']).mpr ⟨by decide, hLines l hl⟩

theorem written_nonempty (hText : t.isAllBlank = false) : t.written.Nonempty := by
  by_contra hNone
  have hBlank : ∀ l ∈ splitOn '\n' t, l.isAllBlank = true := by
    intro l hl
    by_contra hLine
    obtain ⟨n, hn⟩ := List.mem_iff_getElem?.mp hl
    exact hNone ⟨n, l, hn, Bool.eq_false_iff.mpr hLine⟩
  obtain ⟨l, ls, hLines⟩ := List.exists_cons_of_ne_nil (splitOn_ne_nil '\n' t)
  rw [hLines, List.forall_mem_cons] at hBlank
  rw [← joinWith_splitOn '\n' t, hLines, joinWith_cons,
    isAllBlank_append.mpr ⟨hBlank.1, isAllBlank_flatMap_open hBlank.2⟩] at hText
  exact Bool.false_ne_true hText.symm

/-- A text that is not blank has a first and a last line in which something is written. -/
theorem exists_written (hText : t.isAllBlank = false) :
    ∃ i j l, IsLeast t.written i ∧ IsGreatest t.written j ∧ (splitOn '\n' t)[j]? = some l := by
  have hSome := written_nonempty hText
  obtain ⟨l, hLine, hWritten⟩ := Nat.sSup_mem hSome (bddAbove_written t)
  exact ⟨sInf t.written, sSup t.written, l, isLeast_csInf hSome,
    ⟨⟨l, hLine, hWritten⟩, fun n hn => le_csSup (bddAbove_written t) hn⟩, hLine⟩

/-- What follows the last line in which something is written is blank. -/
theorem isAllBlank_below (hLast : IsGreatest t.written j) :
    Text.isAllBlank (((splitOn '\n' t).drop (j + 1)).flatMap ('\n' :: ·)) = true := by
  refine isAllBlank_flatMap_open fun l hl => ?_
  obtain ⟨n, hn⟩ := List.mem_iff_getElem?.mp hl
  rw [List.getElem?_drop] at hn
  by_contra hLine
  have := hLast.2 ⟨l, hn, Bool.eq_false_iff.mpr hLine⟩
  omega

/-- A text goes through the last line in which something is written, and on with blanks. -/
theorem exists_through (hText : t.isAllBlank = false) (hLast : IsGreatest t.written j) :
    ∃ below, joinWith '\n' ((splitOn '\n' t).take (j + 1)) ++ below = t ∧
      Text.isAllBlank below = true ∧
      Text.isAllBlank (joinWith '\n' ((splitOn '\n' t).take (j + 1))) = false := by
  obtain ⟨l, hLine, -⟩ := hLast.1
  have hThrough := joinWith_take_append hLine
  have hBelow := isAllBlank_below hLast
  refine ⟨_, hThrough, hBelow, Bool.eq_false_iff.mpr fun hBlank => Bool.eq_false_iff.mp hText ?_⟩
  rw [← hThrough]
  exact isAllBlank_append.mpr ⟨hBlank, hBelow⟩

/-- What precedes the last line in which something is written is blank just if that is the first. -/
theorem isAllBlank_above_iff (hFirst : IsLeast t.written i) (hLast : IsGreatest t.written j) :
    Text.isAllBlank (((splitOn '\n' t).take j).flatMap (· ++ ['\n'])) = true ↔ i = j := by
  rw [isAllBlank_flatMap_close]
  constructor
  · intro hBlank
    obtain ⟨l, hLine, hWritten⟩ := hFirst.1
    refine Nat.le_antisymm (hLast.2 hFirst.1) (Nat.le_of_not_lt fun hBefore => ?_)
    have hMem : l ∈ (splitOn '\n' t).take j :=
      List.mem_iff_getElem?.mpr ⟨i, by rw [List.getElem?_take_of_lt hBefore, hLine]⟩
    exact absurd (hWritten.symm.trans (hBlank l hMem)) Bool.false_ne_true
  · rintro rfl l hl
    obtain ⟨n, hn⟩ := List.mem_iff_getElem?.mp hl
    rw [List.getElem?_take] at hn
    split_ifs at hn with hBefore
    by_contra hWritten
    have := hFirst.2 ⟨l, hn, Bool.eq_false_iff.mpr hWritten⟩
    omega

/-- A tail of blanks holds no end of a text that ends with something else. -/
theorem infix_append_iff {needle u tail : Text} (hLast : needle.getLast?.any isBlank = false)
    (hTail : tail.isAllBlank = true) : needle <:+: u ++ tail ↔ needle <:+: u := by
  refine ⟨?_, fun hInfix => hInfix.trans (List.prefix_append u tail).isInfix⟩
  rintro ⟨before, after, hAround⟩
  rcases List.append_eq_append_iff.mp hAround with ⟨rest, hText, -⟩ | ⟨rest, hBefore, hRest⟩
  · exact ⟨before, rest, hText.symm⟩
  · rcases List.eq_nil_or_concat rest with rfl | ⟨init, c, rfl⟩
    · exact ⟨before, [], by simpa using hBefore⟩
    · rcases List.eq_nil_or_concat needle with rfl | ⟨body, d, rfl⟩
      · exact List.nil_infix
      · have hEnd := congrArg List.getLast? hBefore
        have hBlank : isBlank c = true := isAllBlank_iff.mp hTail c (by rw [hRest]; simp)
        have hWritten : isBlank d = false := by simpa using hLast
        simp only [List.concat_eq_append, ← List.append_assoc, List.getLast?_concat] at hEnd
        obtain rfl := Option.some.inj hEnd
        exact absurd (hBlank.symm.trans hWritten) (by decide)

end Text

/-! ### The last line -/

section

variable {t l : Text} {i j : Nat}

theorem not_mem_lastLine (t : Text) : '\n' ∉ lastLine t := by
  rw [lastLine_eq_getLast?]
  cases hLast : (Text.splitOn '\n' t.trim).getLast? with
  | none => exact List.not_mem_nil
  | some l => exact Text.not_mem_of_mem_splitOn (List.mem_of_getLast? hLast)

theorem lastLine_of_not_mem (hFeed : '\n' ∉ t.trim) : lastLine t = t.trim := by
  rw [lastLine_eq_getLast?, Text.splitOn_of_not_mem hFeed]
  rfl

/-- Where something is written before the last line, that line keeps its indentation. -/
theorem lastLine_append {above : Text} (hAbove : above.isAllBlank = false)
    (hText : l.isAllBlank = false) (hFeed : '\n' ∉ l) :
    lastLine (above ++ '\n' :: l) = l.trimEnd := by
  have hKept : '\n' ∉ l.trimEnd := fun hMem => hFeed ((Text.trimEnd_sublist l).mem hMem)
  have hEnd : Text.isAllBlank ('\n' :: l) = false := by
    rw [Text.isAllBlank, List.all_cons, Bool.and_eq_false_iff]
    exact Or.inr hText
  have hTrim : Text.trim (above ++ '\n' :: l) = above.trimStart ++ '\n' :: l.trimEnd := by
    rw [Text.trim_append hAbove hEnd]
    exact congrArg _ (Text.trimEnd_append ['\n'] hText)
  rw [lastLine_eq_getLast?, hTrim, Text.getLast?_splitOn_append _ hKept]
  rfl

theorem lastLine_append_right (t : Text) {blanks : Text} (hBlanks : blanks.isAllBlank = true) :
    lastLine (t ++ blanks) = lastLine t := by
  rw [lastLine, Text.trim_append_right t hBlanks]
  rfl

/-- **The last line.**  The last line of the trimmed text is the last line of the text in which
something is written, trimmed at its end, and at its beginning if there is no such line before. -/
theorem lastLine_eq (hFirst : IsLeast t.written i) (hLast : IsGreatest t.written j)
    (hLine : (Text.splitOn '\n' t)[j]? = some l) :
    lastLine t = if i = j then l.trim else l.trimEnd := by
  obtain ⟨l', hLine', hText⟩ := hLast.1
  obtain rfl : l' = l := Option.some.inj (hLine'.symm.trans hLine)
  have hFeed : '\n' ∉ l' := Text.not_mem_of_mem_splitOn (List.mem_of_getElem? hLine)
  have hThrough := Text.joinWith_take_append hLine
  rw [Text.joinWith_take_succ hLine] at hThrough
  have hAbove := Text.isAllBlank_above_iff hFirst hLast
  rw [← hThrough, lastLine_append_right _ (Text.isAllBlank_below hLast)]
  split_ifs with hSame
  · -- all before the line is blank, and goes with the blanks at its beginning
    have hTrim := Text.trim_append_left (hAbove.mpr hSame) l'
    have hKept : '\n' ∉ l'.trim := fun hMem => hFeed ((Text.trim_sublist l').mem hMem)
    rw [lastLine_of_not_mem (hTrim ▸ hKept), hTrim]
  · -- a line feed ends what is before, and trimming stops short of it
    have hWritten := Bool.eq_false_iff.mpr (mt hAbove.mp hSame)
    have hMore : (Text.splitOn '\n' t).take j ≠ [] :=
      fun hNil => by simp [hNil, Text.isAllBlank] at hWritten
    obtain ⟨above, hClose⟩ := Text.exists_close_eq '\n' hMore
    rw [hClose] at hWritten
    have hBefore : above.isAllBlank = false := Bool.eq_false_iff.mpr fun hBlank =>
      Bool.eq_false_iff.mp hWritten (Text.isAllBlank_append.mpr ⟨hBlank, by decide⟩)
    rw [hClose, List.append_assoc]
    exact lastLine_append hBefore hText hFeed

end

/-! ### What is shown -/

/-- The label of the annotation of a result, and the text that its message is taken from. -/
inductive RunResult.Tells (r : RunResult) : Text → Text → Prop
  | output : r.errorText? = none → r.Tells "Output: ".toList r.stdout
  | error {message : Text} : r.errorText? = some message → r.Tells "Error: ".toList message

/-- An annotation says something: that there is no output, or a message that is not blank. -/
def Annotation.Says (a : Annotation) : Prop :=
  a.text = noOutput ∨ ∃ message, message.isAllBlank = false ∧
    (a.text = "Output: ".toList ++ message ∨ a.text = "Error: ".toList ++ message)

/-- A result fails with a failure that is blank but not empty, or else has an error stream that is
blank but not empty. -/
def RunResult.IsMute (r : RunResult) : Prop :=
  (∃ failure, r.failure = some failure ∧ failure ≠ [] ∧ failure.isAllBlank = true) ∨
    (r.failure = none ∨ r.failure = some []) ∧ r.stderr ≠ [] ∧ r.stderr.isAllBlank = true

namespace RunResult

variable {r : RunResult} {label t : Text}

theorem tells_iff : r.Tells label t ↔
    label = "Output: ".toList ∧ r.errorText? = none ∧ r.stdout = t ∨
      label = "Error: ".toList ∧ r.errorText? = some t := by
  constructor
  · rintro (hNone | hSome)
    · exact Or.inl ⟨rfl, hNone, rfl⟩
    · exact Or.inr ⟨rfl, hSome⟩
  · rintro (⟨rfl, hNone, rfl⟩ | ⟨rfl, hSome⟩)
    · exact .output hNone
    · exact .error hSome

theorem Tells.not_mem_label (hTells : r.Tells label t) : '\n' ∉ label := by
  cases hTells <;> decide

theorem Tells.text_note (hTells : r.Tells label t) (hText : t.isAllBlank = false) (colors : Colors)
    (fallback : Nat) : (Verdict.ofResult colors r fallback).note.text = label ++ lastLine t := by
  cases hTells with
  | output hNone => simp [Verdict.ofResult, hNone, hText]
  | error hSome => simp [Verdict.ofResult, hSome]

/-- The result with a text in the place of the one that its annotation is taken from. -/
def retold (r : RunResult) (t : Text) : RunResult :=
  if (r.failure.filter (!·.isEmpty)).isSome then { r with failure := some t }
  else if r.stderr ≠ [] then { r with stderr := t }
  else { r with stdout := t }

/-- Output that mentions an error is not blank. -/
theorem isAllBlank_of_mentions (hMentions : r.stdout.mentions "Error".toList = true) :
    r.stdout.isAllBlank = false := by
  obtain ⟨before, after, hAround⟩ := (Text.mentions_iff ..).mp hMentions
  refine Bool.eq_false_iff.mpr fun hBlank => ?_
  have hLetter : isBlank 'E' = true :=
    Text.isAllBlank_iff.mp hBlank 'E' (by rw [← hAround]; simp)
  exact absurd hLetter (by decide)

theorem errorText?_of_some_failure {failure : Text} (hFailure : r.failure = some failure)
    (hSome : failure ≠ []) : r.errorText? = some failure := by
  simp [errorText?, hFailure, Option.filter, hSome]

theorem errorText?_of_no_failure (hFailure : r.failure = none ∨ r.failure = some []) :
    r.errorText? = if r.stderr ≠ [] then some r.stderr
      else if r.stdout.mentions "Error".toList = true then some r.stdout else none := by
  rcases hFailure with hFailure | hFailure <;> simp [errorText?, hFailure, Option.filter]

theorem retold_of_some_failure {failure : Text} (hFailure : r.failure = some failure)
    (hSome : failure ≠ []) (t : Text) : r.retold t = { r with failure := some t } := by
  simp [retold, hFailure, Option.filter, hSome]

theorem retold_of_no_failure (hFailure : r.failure = none ∨ r.failure = some []) (t : Text) :
    r.retold t = if r.stderr ≠ [] then { r with stderr := t } else { r with stdout := t } := by
  rcases hFailure with hFailure | hFailure <;> simp [retold, hFailure, Option.filter]

/-- Another tail of blanks makes no difference to whether an error is mentioned, nor to which text
is told. -/
theorem Tells.retold {u tail blanks : Text} (hTells : r.Tells label (u ++ tail))
    (hText : u.isAllBlank = false) (hTail : tail.isAllBlank = true)
    (hBlanks : blanks.isAllBlank = true) : (r.retold (u ++ blanks)).Tells label (u ++ blanks) := by
  have hMore (v : Text) : u ++ v ≠ [] := by
    intro hNil
    rw [(List.append_eq_nil_iff.mp hNil).1] at hText
    cases hText
  have hMentions : (u ++ blanks).mentions "Error".toList = (u ++ tail).mentions "Error".toList := by
    rw [Bool.eq_iff_iff, Text.mentions_iff, Text.mentions_iff,
      Text.infix_append_iff (by decide) hBlanks, Text.infix_append_iff (by decide) hTail]
  rw [tells_iff] at hTells ⊢
  by_cases hFailure : r.failure = none ∨ r.failure = some []
  · rw [errorText?_of_no_failure hFailure] at hTells
    rw [retold_of_no_failure hFailure]
    by_cases hStderr : r.stderr = []
    · -- the output is told, as it is or as an error
      rw [if_neg (not_not_intro hStderr)] at hTells
      have hStdout : r.stdout = u ++ tail := by
        rcases hTells with ⟨-, -, hStdout⟩ | ⟨-, hSome⟩
        · exact hStdout
        · exact Option.some.inj (Option.ite_none_right_eq_some.mp hSome).2
      rw [if_neg (not_not_intro hStderr),
        errorText?_of_no_failure (r := { r with stdout := u ++ blanks }) hFailure, hMentions]
      simpa [hStderr, hStdout] using hTells
    · rw [if_pos hStderr] at hTells ⊢
      rw [errorText?_of_no_failure (r := { r with stderr := u ++ blanks }) hFailure,
        if_pos (hMore blanks)]
      rcases hTells with ⟨-, hNone, -⟩ | ⟨hLabel, -⟩
      · cases hNone
      · exact Or.inr ⟨hLabel, rfl⟩
  · obtain ⟨failure, hSome⟩ := Option.ne_none_iff_exists'.mp fun hNone => hFailure (Or.inl hNone)
    have hLong : failure ≠ [] := by
      rintro rfl
      exact hFailure (Or.inr hSome)
    rw [errorText?_of_some_failure hSome hLong] at hTells
    rw [retold_of_some_failure hSome hLong,
      errorText?_of_some_failure (r := { r with failure := some (u ++ blanks) }) rfl (hMore blanks)]
    rcases hTells with ⟨-, hNone, -⟩ | ⟨hLabel, -⟩
    · cases hNone
    · exact Or.inr ⟨hLabel, rfl⟩

/-- The results with a blank error text. -/
theorem isMute_iff : r.IsMute ↔
    ∃ message, r.errorText? = some message ∧ message.isAllBlank = true := by
  by_cases hFailure : r.failure = none ∨ r.failure = some []
  · have hNone : ¬ ∃ failure, r.failure = some failure ∧ failure ≠ [] ∧
        failure.isAllBlank = true := by
      rintro ⟨failure, hSome, hMore, -⟩
      rcases hFailure with hFailure | hFailure <;> simp_all
    rw [IsMute, or_iff_right hNone, and_iff_right hFailure, errorText?_of_no_failure hFailure]
    by_cases hStderr : r.stderr = []
    · -- the error text is the output, if any
      simp only [hStderr, ne_eq, not_true_eq_false, false_and, if_false, false_iff]
      rintro ⟨message, hMessage, hBlank⟩
      split_ifs at hMessage with hMentions
      obtain rfl := Option.some.inj hMessage
      exact absurd (hBlank.symm.trans (isAllBlank_of_mentions hMentions)) (by decide)
    · simp [hStderr]
  · obtain ⟨failure, hSome⟩ := Option.ne_none_iff_exists'.mp fun hNone => hFailure (Or.inl hNone)
    have hMore : failure ≠ [] := by
      rintro rfl
      exact hFailure (Or.inr hSome)
    simp [IsMute, errorText?_of_some_failure hSome hMore, hSome, hMore]

end RunResult

theorem lastLine_of_isAllBlank {t : Text} (hText : t.isAllBlank = true) : lastLine t = [] := by
  simp [lastLine_eq_getLast?, (Text.trim_eq_nil_iff t).mpr hText, Text.splitOn]

/-- A label with a message behind it is no label of another kind, and not the text for no output. -/
theorem Annotation.not_says_of_label {a : Annotation} (hText : a.text = "Error: ".toList) :
    ¬ a.Says := by
  rintro (hNone | ⟨message, hMessage, hOutput | hError⟩)
  · exact absurd (hText.symm.trans hNone) (by decide)
  · have hHead := congrArg List.head? (hText.symm.trans hOutput)
    exact absurd hHead (by simp)
  · have hNil : message = [] := by simpa using hText.symm.trans hError
    rw [hNil] at hMessage
    exact absurd hMessage (by decide)

namespace Verdict

variable {r : RunResult}

/-- **Every annotation says something unless the error text is blank.**  A result whose failure, or
else its error stream, is blank but not empty gets the label of an error with nothing behind it. -/
theorem says_exact (colors : Colors) (r : RunResult) (fallback : Nat) :
    ((ofResult colors r fallback).note.Says ↔ ¬ r.IsMute) ∧
    (r.IsMute → (ofResult colors r fallback).note.kind = .error ∧
      (ofResult colors r fallback).note.text = "Error: ".toList) := by
  have hMute : r.IsMute → (ofResult colors r fallback).note.kind = .error ∧
      (ofResult colors r fallback).note.text = "Error: ".toList := by
    intro hMute
    obtain ⟨message, hError, hBlank⟩ := RunResult.isMute_iff.mp hMute
    obtain ⟨hKind, hText, -⟩ := ofResult_error colors fallback hError
    rw [lastLine_of_isAllBlank hBlank, List.append_nil] at hText
    exact ⟨hKind, hText⟩
  refine ⟨⟨fun hSays hBare => ?_, fun hHeard => ?_⟩, hMute⟩
  · exact Annotation.not_says_of_label (hMute hBare).2 hSays
  · cases hError : r.errorText? with
    | some message =>
      have hMessage : message.isAllBlank = false := Bool.eq_false_iff.mpr fun hBlank =>
        hHeard (RunResult.isMute_iff.mpr ⟨message, hError, hBlank⟩)
      exact Or.inr ⟨lastLine message, lastLine_not_blank hMessage,
        Or.inr ((RunResult.Tells.error hError).text_note hMessage colors fallback)⟩
    | none =>
      cases hStdout : r.stdout.isAllBlank with
      | true => exact Or.inl (by simp [ofResult, hError, hStdout])
      | false => exact Or.inr ⟨lastLine r.stdout, lastLine_not_blank hStdout,
          Or.inl ((RunResult.Tells.output hError).text_note hStdout colors fallback)⟩

/-- A failure that is blank hides the output. -/
theorem says_exact_blank :
    let r : RunResult := { stdout := "42\n".toList, failure := some " \n".toList }
    r.IsMute ∧ (ofResult {} r 3).note.kind = .error ∧
      (ofResult {} r 3).note.text = "Error: ".toList := by
  intro r
  have hMute : r.IsMute := Or.inl ⟨" \n".toList, rfl, by decide, by decide⟩
  exact ⟨hMute, (says_exact {} r 3).2 hMute⟩

/-- An interpreter that ends well and writes an empty line to its error stream. -/
theorem bare_label_of_empty_line :
    let r := (Runner.Outcome.ended (.exited 0) [] [0x0A]).result
    (ofResult {} r 0).note.text = "Error: ".toList ∧ ¬ (ofResult {} r 0).note.Says := by
  intro r
  have hNil : Utf8.decodeLossy [] = [] := (Utf8.decodeLossy_eq_nil_iff []).mpr rfl
  have hFeed : Utf8.decodeLossy [0x0A] = ['\n'] := by
    rw [Utf8.decodeLossy_cons_ascii (by decide), hNil]
    rfl
  have hResult : r = { stderr := ['\n'] } :=
    (Runner.Outcome.result_of_isSuccess rfl).trans (by rw [hNil, hFeed])
  have hText : (ofResult {} r 0).note.text = "Error: ".toList := by
    rw [hResult]
    decide
  exact ⟨hText, Annotation.not_says_of_label hText⟩

/-- **The concise line.**  The message is taken from the last line between line feeds in which
something is written: without the blanks at its end, and without those at its beginning just if it
is the first such line.  It has no line feed, it does not end with a blank, and blanks in the place
of what follows the line make no difference. -/
theorem concise_exact (colors : Colors) {r : RunResult} (fallback : Nat) {label t : Text}
    (hTells : r.Tells label t) (hText : t.isAllBlank = false) :
    let text := (ofResult colors r fallback).note.text
    ∃ i j l, IsLeast t.written i ∧ IsGreatest t.written j ∧
      (Text.splitOn '\n' t)[j]? = some l ∧
      text = label ++ (if i = j then l.trim else l.trimEnd) ∧
      '\n' ∉ text ∧ (∃ c ∈ text.getLast?, isBlank c = false) ∧
      ∀ colors' r' fallback' (blanks : Text), blanks.isAllBlank = true →
        r'.Tells label (Text.joinWith '\n' ((Text.splitOn '\n' t).take (j + 1)) ++ blanks) →
        (ofResult colors' r' fallback').note.text = text := by
  intro text
  obtain ⟨i, j, l, hFirst, hLast, hLine⟩ := Text.exists_written hText
  have hNote : text = label ++ lastLine t := hTells.text_note hText colors fallback
  have hMessage := lastLine_eq hFirst hLast hLine
  refine ⟨i, j, l, hFirst, hLast, hLine, hMessage ▸ hNote, ?_, ?_,
    fun colors' r' fallback' blanks hBlanks hTells' => ?_⟩
  · rw [hNote, List.mem_append, not_or]
    exact ⟨hTells.not_mem_label, not_mem_lastLine t⟩
  · obtain ⟨p, x, hEnd, hx⟩ := exists_lastLine_eq hText
    exact ⟨x, by simp [hNote, hEnd], hx⟩
  · obtain ⟨below, hThrough, hBelow, hWritten⟩ := Text.exists_through hText hLast
    have hText' : Text.isAllBlank (Text.joinWith '\n' ((Text.splitOn '\n' t).take (j + 1)) ++
        blanks) = false := Text.isAllBlank_append_left hWritten blanks
    rw [hTells'.text_note hText', hNote, lastLine_append_right _ hBlanks,
      ← lastLine_append_right _ hBelow, hThrough]

/-- The line before the blank ones keeps its indentation, since there is one above it. -/
theorem concise_exact_indented :
    RunResult.Tells { stderr := "a\n  b \r\n\n".toList } "Error: ".toList "a\n  b \r\n\n".toList ∧
      Text.isAllBlank "a\n  b \r\n\n".toList = false ∧
      (ofResult {} { stderr := "a\n  b \r\n\n".toList } 0).note.text = "Error:   b".toList := by
  have hTells : RunResult.Tells { stderr := "a\n  b \r\n\n".toList } "Error: ".toList
      "a\n  b \r\n\n".toList := .error rfl
  obtain ⟨i, j, l, hFirst, hLast, hLine, hNote, -⟩ := concise_exact {} 0 hTells (by decide)
  have hLines : Text.splitOn '\n' "a\n  b \r\n\n".toList =
      ["a".toList, "  b \r".toList, [], []] := by decide
  have hi : i = 0 := Nat.le_zero.mp (hFirst.2 ⟨"a".toList, by decide, by decide⟩)
  have hj : j = 1 := by
    refine Nat.le_antisymm ?_ (hLast.2 ⟨"  b \r".toList, by decide, by decide⟩)
    obtain ⟨l', hLine', hWritten⟩ := hLast.1
    rw [hLines] at hLine'
    by_contra hAfter
    match j, hAfter, hLine' with
    | 2, _, hLine' | 3, _, hLine' =>
      obtain rfl : l' = [] := (Option.some.inj hLine').symm
      exact absurd hWritten (by decide)
  subst hi hj
  obtain rfl : "  b \r".toList = l := by
    rw [hLines] at hLine
    exact Option.some.inj hLine
  exact ⟨hTells, by decide, hNote.trans (by decide)⟩

/-- **Blanks behind the message make no difference.**  Whatever blanks stand in the place of those
behind the last line in which something is written, the text is told as before, and the annotation
says the same. -/
theorem text_note_retold (colors : Colors) {r : RunResult} (fallback : Nat) {label t : Text}
    (hTells : r.Tells label t) (hText : t.isAllBlank = false) {j : Nat}
    (hLast : IsGreatest t.written j) {blanks : Text} (hBlanks : blanks.isAllBlank = true) :
    let u := Text.joinWith '\n' ((Text.splitOn '\n' t).take (j + 1)) ++ blanks
    (r.retold u).Tells label u ∧
      (ofResult colors (r.retold u) fallback).note.text =
        (ofResult colors r fallback).note.text := by
  intro u
  obtain ⟨below, hThrough, hBelow, hWritten⟩ := Text.exists_through hText hLast
  have hRetold : (r.retold u).Tells label u :=
    (hThrough.symm ▸ hTells).retold hWritten hBelow hBlanks
  refine ⟨hRetold, ?_⟩
  rw [hRetold.text_note (Text.isAllBlank_append_left hWritten blanks), hTells.text_note hText,
    lastLine_append_right _ hBlanks, ← lastLine_append_right _ hBelow, hThrough]

end Verdict

end LiveLine
