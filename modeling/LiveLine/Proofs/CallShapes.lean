import LiveLine.Classifier
import LiveLine.Proofs.Trimming

/-!
# The grammar of the lines that are evaluated

A line is evaluated for what it is without the blanks around it: its leading word must not rule it
out, and it begins with a print call or is one call as a whole.  That a call is a word, blanks and
a parenthesized part can be said without saying where the word and the blanks end, since no
character is both of a word and blank.

* `isWord_of_isBlank`: words and blanks are apart.
* `leadingRun_iff`, `isCall_iff`: the leading word and the shape of a call.
* `evaluates_iff`: the grammar of any classifier.
* `Qualifies.mono`: more print names admit more lines, more excluded words fewer.
* `evaluates_exact`: the grammar of the classifiers that are built step by step.
-/

namespace LiveLine

/-! ### Words and blanks -/

/-- The ranges of the blank characters, in ascending order. -/
def blankRanges : List (Nat × Nat) :=
  [(0x09, 0x0D), (0x20, 0x20), (0x85, 0x85), (0xA0, 0xA0), (0x1680, 0x1680), (0x2000, 0x200A),
   (0x2028, 0x2029), (0x202F, 0x202F), (0x205F, 0x205F), (0x3000, 0x3000)]

theorem inRanges_of_isBlank {c : Char} (hc : isBlank c = true) :
    inRanges blankRanges c = true := by
  simp only [isBlank, Bool.or_eq_true, Bool.and_eq_true, decide_eq_true_eq, beq_iff_eq] at hc
  simp only [inRanges, blankRanges, List.any_cons, List.any_nil, Bool.or_eq_true,
    Bool.and_eq_true, decide_eq_true_eq]
  omega

theorem inRanges_of_apart {rs ss : List (Nat × Nat)}
    (hApart : ∀ r ∈ rs, ∀ s ∈ ss, r.2 < s.1 ∨ s.2 < r.1) {c : Char}
    (hc : inRanges rs c = true) : inRanges ss c = false := by
  obtain ⟨r, hr, hIn⟩ := List.any_eq_true.mp hc
  refine List.any_eq_false.mpr fun s hs hBoth => ?_
  simp only [Bool.and_eq_true, decide_eq_true_eq] at hIn hBoth
  have := hApart r hr s hs
  omega

/-- **Words and blanks are apart.** -/
theorem isWord_of_isBlank {c : Char} (hc : isBlank c = true) : isWord c = false := by
  have hApart : ∀ r ∈ blankRanges, ∀ s ∈ wordRanges, r.2 < s.1 ∨ s.2 < r.1 := by decide +kernel
  exact inRanges_of_apart hApart (inRanges_of_isBlank hc)

theorem isWord_parenthesis : isWord '(' = false := by decide +kernel

namespace Classifier

variable {k : Classifier} {line t w : Text}

/-! ### The leading word -/

/-- The longest run of word characters with which a text begins. -/
structure LeadingRun (w t : Text) : Prop where
  begins : w <+: t
  word : ∀ c ∈ w, isWord c = true
  longest : ∀ v, v <+: t → (∀ c ∈ v, isWord c = true) → v.length ≤ w.length

theorem leadingRun_leadingWord (t : Text) : LeadingRun (leadingWord t) t where
  begins := List.takeWhile_prefix isWord
  word := fun _ hc => List.mem_takeWhile_imp hc
  longest := by
    rintro v ⟨r, rfl⟩ hv
    rw [leadingWord, List.takeWhile_append_of_pos hv, List.length_append]
    exact Nat.le_add_right ..

theorem leadingRun_iff : LeadingRun w t ↔ w = leadingWord t := by
  have hRun := leadingRun_leadingWord t
  constructor
  · intro hw
    have hLength : w.length = (leadingWord t).length :=
      Nat.le_antisymm (hRun.longest w hw.begins hw.word) (hw.longest _ hRun.begins hRun.word)
    exact (List.prefix_of_prefix_length_le hw.begins hRun.begins hLength.le).eq_of_length hLength
  · rintro rfl
    exact hRun

/-! ### The shape of a call -/

/-- A word, blanks, and a parenthesized part without line feeds. -/
def IsCallShape (t : Text) : Prop :=
  ∃ w s m, t = w ++ s ++ '(' :: m ++ [')'] ∧ w ≠ [] ∧ (∀ c ∈ w, isWord c = true) ∧
    (∀ c ∈ s, isBlank c = true) ∧ '\n' ∉ m

theorem isParenthesized_iff : isParenthesized t = true ↔ ∃ m, t = '(' :: m ++ [')'] ∧ '\n' ∉ m := by
  constructor
  · intro ht
    unfold isParenthesized at ht
    split at ht
    · rename_i r
      simp only [Bool.and_eq_true, beq_iff_eq, Bool.not_eq_true', List.contains_eq_mem,
        decide_eq_false_iff_not] at ht
      obtain ⟨m, rfl⟩ := List.getLast?_eq_some_iff.mp ht.1
      exact ⟨m, rfl, fun hm => ht.2 (List.mem_append_left _ hm)⟩
    · exact absurd ht Bool.false_ne_true
  · rintro ⟨m, rfl, hm⟩
    simp [isParenthesized, hm]

/-- Where a call is cut, the word ends with the first character that is not of a word, and the
blanks with the parenthesis. -/
theorem isCall_iff : isCall t = true ↔ IsCallShape t := by
  simp only [isCall, Bool.and_eq_true, Bool.not_eq_true', List.isEmpty_eq_false_iff,
    isParenthesized_iff]
  constructor
  · rintro ⟨hWord, m, hRest, hm⟩
    refine ⟨leadingWord t, (t.dropWhile isWord).takeWhile isBlank, m, ?_, hWord,
      (leadingRun_leadingWord t).word, fun c hc => List.mem_takeWhile_imp hc, hm⟩
    rw [List.append_assoc, List.append_assoc, ← hRest, List.takeWhile_append_dropWhile,
      leadingWord, List.takeWhile_append_dropWhile]
  · rintro ⟨w, s, m, rfl, hWord, hw, hs, hm⟩
    have hWordEnds : ∀ c ∈ (s ++ ('(' :: m ++ [')'])).head?, isWord c = false := by
      intro c hc
      cases s with
      | nil =>
        obtain rfl : '(' = c := by simpa using hc
        exact isWord_parenthesis
      | cons b s =>
        obtain rfl : b = c := by simpa using hc
        exact isWord_of_isBlank (hs b List.mem_cons_self)
    have hBlanksEnd : ∀ c ∈ ('(' :: m ++ [')']).head?, isBlank c = false := by
      intro c hc
      obtain rfl : '(' = c := by simpa using hc
      decide
    rw [List.append_assoc, List.append_assoc, leadingWord, Text.takeWhile_of_stop hw hWordEnds,
      Text.dropWhile_of_stop hw hWordEnds, Text.dropWhile_of_stop hs hBlanksEnd]
    exact ⟨hWord, m, rfl, hm⟩

/-! ### Lines -/

/-- The grammar of the lines that are evaluated, for the names that begin a print call and the words
that rule a line out. -/
def Qualifies (IsPrint IsExcluded : Text → Prop) (line : Text) : Prop :=
  ∃ t w, line.Strips t ∧ t ≠ [] ∧ LeadingRun w t ∧ (w = [] ∨ ¬ IsExcluded w) ∧
    ((∃ name, IsPrint name ∧ name ++ ['('] <+: t) ∨ IsCallShape t)

/-- More print names admit more lines, and fewer excluded words do too. -/
theorem Qualifies.mono {P P' E E' : Text → Prop} (hPrint : ∀ name, P name → P' name)
    (hExcluded : ∀ w, E' w → E w) (hLine : Qualifies P E line) : Qualifies P' E' line := by
  obtain ⟨t, w, hStrips, hText, hRun, hWord, hShape⟩ := hLine
  refine ⟨t, w, hStrips, hText, hRun, hWord.imp_right (mt (hExcluded w)), hShape.imp_left ?_⟩
  exact fun ⟨name, hName, hBegins⟩ => ⟨name, hPrint name hName, hBegins⟩

theorem isExcluded_eq_false_iff :
    k.isExcluded t = false ↔ leadingWord t = [] ∨ leadingWord t ∉ k.excluded := by
  simp only [isExcluded, Bool.and_eq_false_iff, Bool.not_eq_false', List.isEmpty_iff,
    List.contains_eq_mem, decide_eq_false_iff_not]

theorem beginsPrint_iff :
    k.beginsPrint t = true ↔ ∃ name ∈ k.printCalls, name ++ ['('] <+: t := by
  simp only [beginsPrint, List.any_eq_true, List.isPrefixOf_iff_prefix]

/-- **The grammar of a classifier.** -/
theorem evaluates_iff :
    k.evaluates line = true ↔ Qualifies (· ∈ k.printCalls) (· ∈ k.excluded) line := by
  have hParts : k.evaluates line = true ↔ line.trim ≠ [] ∧
      (leadingWord line.trim = [] ∨ leadingWord line.trim ∉ k.excluded) ∧
      ((∃ name ∈ k.printCalls, name ++ ['('] <+: line.trim) ∨ IsCallShape line.trim) := by
    rw [← isExcluded_eq_false_iff, ← beginsPrint_iff, ← isCall_iff]
    simp [evaluates, and_assoc]
  rw [hParts]
  constructor
  · rintro ⟨hText, hWord, hShape⟩
    exact ⟨line.trim, leadingWord line.trim, Text.strips_trim line, hText,
      leadingRun_leadingWord _, hWord, hShape⟩
  · rintro ⟨t, w, hStrips, hText, hRun, hWord, hShape⟩
    obtain rfl := Text.strips_iff.mp hStrips
    obtain rfl := leadingRun_iff.mp hRun
    exact ⟨hText, hWord, hShape⟩

/-! ### Classifiers that are built step by step -/

/-- A step that adds to what a classifier knows. -/
inductive Extension where
  | printCall (name : Text)
  | excluding (words : List Text)

/-- The classifier with what a step adds. -/
def extend (k : Classifier) : Extension → Classifier
  | .printCall name => k.withPrintCall name
  | .excluding words => k.withExcluded words

/-- The classifier that is built from the default one by steps in a row. -/
def built (es : List Extension) : Classifier := es.foldl extend {}

/-- The names that begin a print call after some steps. -/
def IsPrintName (es : List Extension) (name : Text) : Prop :=
  name = "print".toList ∨ .printCall name ∈ es

/-- The words that rule a line out after some steps. -/
def IsExcludedWord (es : List Extension) (w : Text) : Prop :=
  w ∈ blockKeywords ∨ ∃ words, .excluding words ∈ es ∧ w ∈ words

theorem mem_printCalls_foldl {name : Text} (es : List Extension) :
    name ∈ (es.foldl extend k).printCalls ↔ name ∈ k.printCalls ∨ .printCall name ∈ es := by
  induction es generalizing k with
  | nil => simp
  | cons e es ih =>
    rw [List.foldl_cons, ih]
    cases e with
    | printCall more => simp [extend, withPrintCall, or_assoc]
    | excluding words => simp [extend, withExcluded]

theorem mem_excluded_foldl (es : List Extension) :
    w ∈ (es.foldl extend k).excluded ↔
      w ∈ k.excluded ∨ ∃ words, .excluding words ∈ es ∧ w ∈ words := by
  induction es generalizing k with
  | nil => simp
  | cons e es ih =>
    rw [List.foldl_cons, ih]
    cases e with
    | printCall name => simp [extend, withPrintCall]
    | excluding words => simp [extend, withExcluded, or_assoc, or_and_right, exists_or]

theorem evaluates_built_iff {es : List Extension} :
    (built es).evaluates line = true ↔ Qualifies (IsPrintName es) (IsExcludedWord es) line := by
  have hPrint : (· ∈ (built es).printCalls) = IsPrintName es := by
    funext name
    exact propext ((mem_printCalls_foldl es).trans (or_congr_left (by simp)))
  have hExcluded : (· ∈ (built es).excluded) = IsExcludedWord es := by
    funext w
    exact propext (mem_excluded_foldl es)
  rw [evaluates_iff, hPrint, hExcluded]

/-- **The lines that are evaluated.**  A classifier built by any steps evaluates just the lines of
the grammar.  Blanks around a line make no difference, nor does the order of the steps; with more
print calls no line is lost, and with more exclusions none is won, wherever among the steps they
are added. -/
theorem evaluates_exact (es : List Extension) (line : Text) :
    ((built es).evaluates line = true ↔
      Qualifies (IsPrintName es) (IsExcludedWord es) line) ∧
    (∀ lead tail : Text, lead.isAllBlank = true → tail.isAllBlank = true →
      (built es).evaluates (lead ++ line ++ tail) = (built es).evaluates line) ∧
    (∀ fs, fs.Perm es → (built fs).evaluates line = (built es).evaluates line) ∧
    (∀ fs (names : List Text), fs.Perm (es ++ names.map .printCall) →
      (built es).evaluates line = true → (built fs).evaluates line = true) ∧
    (∀ fs (lists : List (List Text)), fs.Perm (es ++ lists.map .excluding) →
      (built fs).evaluates line = true → (built es).evaluates line = true) := by
  refine ⟨evaluates_built_iff, fun lead tail hLead hTail => ?_, fun fs hPerm => ?_,
    fun fs names hPerm => ?_, fun fs lists hPerm => ?_⟩
  · rw [evaluates, evaluates, Text.trim_append_right _ hTail, Text.trim_append_left hLead]
  · rw [Bool.eq_iff_iff, evaluates_built_iff, evaluates_built_iff]
    unfold IsPrintName IsExcludedWord
    simp only [hPerm.mem_iff]
  · rw [evaluates_built_iff, evaluates_built_iff]
    refine Qualifies.mono (fun name => ?_) (fun w => ?_)
    · exact Or.imp_right fun hName => hPerm.mem_iff.mpr (List.mem_append_left _ hName)
    · refine Or.imp_right fun ⟨words, hWords, hw⟩ => ⟨words, ?_, hw⟩
      simpa using hPerm.mem_iff.mp hWords
  · rw [evaluates_built_iff, evaluates_built_iff]
    refine Qualifies.mono (fun name => ?_) (fun w => ?_)
    · exact Or.imp_right fun hName => by simpa using hPerm.mem_iff.mp hName
    · exact Or.imp_right fun ⟨words, hWords, hw⟩ =>
        ⟨words, hPerm.mem_iff.mpr (List.mem_append_left _ hWords), hw⟩

/-- A line that is no call as a whole, but begins with a name that was added. -/
theorem evaluates_exact_unclosed :
    let es : List Extension := [.printCall "show".toList, .excluding ["yield".toList]]
    let line : Text := "show(1, [".toList
    (built es).evaluates (['\t'] ++ line ++ ['\n', ' ']) = true ∧
      (built es.reverse).evaluates line = true ∧
      (built (es ++ [.printCall "log".toList])).evaluates line = true := by
  intro es line
  obtain ⟨hGrammar, hBlanks, hOrder, hPrint, -⟩ := evaluates_exact es line
  have hLine : (built es).evaluates line = true := by
    refine hGrammar.mpr ⟨line, "show".toList, Text.strips_iff.mpr (by decide), by decide,
      leadingRun_iff.mpr (by decide +kernel), Or.inr ?_, Or.inl ⟨"show".toList, Or.inr ?_, ?_⟩⟩
    · rintro (hKeyword | ⟨words, hWords, hWord⟩)
      · exact absurd hKeyword (by decide)
      · obtain rfl : words = ["yield".toList] := by simpa [es] using hWords
        exact absurd hWord (by decide)
    · exact List.mem_cons_self
    · exact ⟨"1, [".toList, rfl⟩
  exact ⟨(hBlanks ['\t'] ['\n', ' '] (by decide) (by decide)).trans hLine,
    (hOrder es.reverse (List.reverse_perm es)).trans hLine,
    hPrint _ ["log".toList] (List.Perm.refl _) hLine⟩

end Classifier

end LiveLine
