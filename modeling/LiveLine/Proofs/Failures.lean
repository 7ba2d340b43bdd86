import LiveLine.Runner
import LiveLine.Proofs.Decoding
import LiveLine.Proofs.Pieces
import LiveLine.Proofs.Trimming

/-!
# Failures are told about

A run either goes well in every respect, and then its output is shown, or it is shown as an error
together with an alert.  Nothing is lost on the way through the lenient decoding: it keeps the word
`Error`, and text that is left of bytes is empty only if there are none.

* `lastLine_not_blank`: the last line of a text that is not blank is not blank.
* `Outcome.errorText?_of_isClean`, `Outcome.errorText?_of_not_isClean`: which text a run complains
  with.
* `Outcome.verdict_exact`: what is shown for every outcome of a run.
* `Runner.verdict_run`: what is shown for a run, by the write, the launch and the end of it.
-/

namespace LiveLine

/-- A text that is not blank ends, when trimmed, with a character that is not blank. -/
theorem Text.exists_trim_eq {t : Text} (hText : t.isAllBlank = false) :
    ∃ u x, t.trim = u ++ [x] ∧ isBlank x = false := by
  have hTrim : t.trim ≠ [] := by
    rw [Ne, trim_eq_nil_iff, hText]
    exact Bool.false_ne_true
  obtain ⟨u, x, hConcat⟩ := (List.eq_nil_or_concat t.trim).resolve_left hTrim
  rw [List.concat_eq_append] at hConcat
  exact ⟨u, x, hConcat, (strips_trim t).last x (by rw [hConcat, List.getLast?_concat]; rfl)⟩

theorem Text.getLast?_splitOn_trim {t : Text} (hText : t.isAllBlank = false) :
    ∃ p x, (splitOn '\n' t.trim).getLast? = some (p ++ [x]) ∧ isBlank x = false := by
  obtain ⟨u, x, hTrim, hx⟩ := exists_trim_eq hText
  have hFeed : x ≠ '\n' := by
    rintro rfl
    exact absurd hx (by decide)
  obtain ⟨p, hLast⟩ := getLast?_splitOn hFeed u
  exact ⟨p, x, by rw [hTrim, hLast], hx⟩

/-- A text that is trimmed does not end with a carriage return. -/
theorem lastLine_eq_getLast? (t : Text) :
    lastLine t = ((Text.splitOn '\n' t.trim).getLast?).getD [] := by
  cases hText : t.isAllBlank with
  | true =>
    rw [lastLine, (Text.trim_eq_nil_iff t).mpr hText]
    rfl
  | false =>
    obtain ⟨p, x, hLast, hx⟩ := Text.getLast?_splitOn_trim hText
    have hReturn : (x == '\r') = false := by
      rw [beq_eq_false_iff_ne]
      rintro rfl
      exact absurd hx (by decide)
    simp [lastLine, hLast, Text.dropTailWhile, hReturn]

/-- The last line of a text that is not blank ends with a character that is not. -/
theorem exists_lastLine_eq {t : Text} (hText : t.isAllBlank = false) :
    ∃ p x, lastLine t = p ++ [x] ∧ isBlank x = false := by
  obtain ⟨p, x, hLast, hx⟩ := Text.getLast?_splitOn_trim hText
  exact ⟨p, x, by rw [lastLine_eq_getLast?, hLast, Option.getD_some], hx⟩

theorem lastLine_not_blank {t : Text} (hText : t.isAllBlank = false) :
    (lastLine t).isAllBlank = false := by
  obtain ⟨p, x, hLast, hx⟩ := exists_lastLine_eq hText
  simp [hLast, Text.isAllBlank, hx]

/-- A failure that the program words itself is never blank. -/
theorem RunFailure.message_not_blank (e : RunFailure) (hMade : ∀ m, e ≠ exit m) :
    e.message.isAllBlank = false := by
  cases e with
  | write m => exact Text.isAllBlank_append_left (by decide) m
  | launch program m =>
    refine Text.isAllBlank_append_left (Text.isAllBlank_append_left ?_ _) m
    exact Text.isAllBlank_append_left (by decide) program
  | wait m => exact Text.isAllBlank_append_left (by decide) m
  | exit m => exact absurd rfl (hMade m)
  | timeout micros =>
    exact Text.isAllBlank_append_left (Text.isAllBlank_append_left (by decide) _) _

namespace RunResult

variable {r : RunResult}

theorem errorText?_of_failure {message : Text} (hFailure : r.failure = some message)
    (hMessage : message.isAllBlank = false) : r.errorText? = some message := by
  have hSome : message ≠ [] := by
    rintro rfl
    simp [Text.isAllBlank] at hMessage
  simp [errorText?, hFailure, Option.filter, hSome]

theorem errorText?_of_stderr (hFailure : r.failure = none) (hStderr : r.stderr ≠ []) :
    r.errorText? = some r.stderr := by
  simp [errorText?, hFailure, hStderr]

theorem errorText?_of_stdout (hFailure : r.failure = none) (hStderr : r.stderr = []) :
    r.errorText? = if r.stdout.mentions "Error".toList = true then some r.stdout else none := by
  simp [errorText?, hFailure, hStderr]

end RunResult

namespace Verdict

variable {r : RunResult}

theorem ofResult_error (colors : Colors) (fallback : Nat) {message : Text}
    (hText : r.errorText? = some message) :
    (ofResult colors r fallback).note.kind = .error ∧
      (ofResult colors r fallback).note.text = "Error: ".toList ++ lastLine message ∧
      (ofResult colors r fallback).alert = some message := by
  rw [ofResult, hText]
  exact ⟨rfl, rfl, rfl⟩

theorem ofResult_output (colors : Colors) (fallback : Nat) (hText : r.errorText? = none) :
    (ofResult colors r fallback).note.kind = .output ∧
      (ofResult colors r fallback).alert = none := by
  rw [ofResult, hText]
  exact ⟨rfl, rfl⟩

end Verdict

namespace Runner

namespace Outcome

/-- Whether a run can come to this: the failure of an interpreter that has ended is told by its
ending and its streams. -/
def Arises : Outcome → Prop
  | failed (.exit _) => False
  | failed _ | ended .. => True

/-- Whether the run went well in every respect. -/
def IsClean : Outcome → Prop
  | failed _ => False
  | ended ending stdout stderr =>
    ending.isSuccess = true ∧ stderr = [] ∧ ¬ Utf8.encode "Error".toList <:+: stdout

/-- Whether the write, the launch or the wait failed, the time was over, or the interpreter ended
without success. -/
def IsFailure : Outcome → Prop
  | failed _ => True
  | ended ending _ _ => ending.isSuccess = false

/-- The complete text of the error that a run is shown with, if it did not go well. -/
def complaint : Outcome → Text
  | failed error => error.message
  | ended ending stdout stderr =>
    if ending.isSuccess then Utf8.decodeLossy (if stderr = [] then stdout else stderr)
    else if (Utf8.decodeLossy stderr).isAllBlank then
      "interpreter exited with ".toList ++ ending.description
    else Utf8.decodeLossy stderr

variable {o : Outcome}

theorem complaint_not_blank (hArises : o.Arises) (hFailure : o.IsFailure) :
    o.complaint.isAllBlank = false := by
  cases o with
  | failed error =>
    refine error.message_not_blank ?_
    rintro m rfl
    exact hArises
  | ended ending stdout stderr =>
    rw [IsFailure] at hFailure
    rw [complaint, hFailure, if_neg Bool.false_ne_true]
    split_ifs with hBlank
    · exact Text.isAllBlank_append_left (by decide) _
    · exact Bool.eq_false_iff.mpr hBlank

/-- The failure of a run is its complaint. -/
theorem failure_result (hFailure : o.IsFailure) : o.result.failure = some o.complaint := by
  cases o with
  | failed error => rfl
  | ended ending stdout stderr =>
    rw [IsFailure] at hFailure
    have hBlank : (Utf8.decodeLossy stderr).trim.isEmpty =
        (Utf8.decodeLossy stderr).isAllBlank := by
      rw [Bool.eq_iff_iff, List.isEmpty_iff, Text.trim_eq_nil_iff]
    rw [result, complaint, hFailure, if_neg Bool.false_ne_true, if_neg Bool.false_ne_true, hBlank]
    rfl

theorem result_of_isSuccess {ending : Ending} {stdout stderr : Bytes}
    (hSuccess : ending.isSuccess = true) :
    (ended ending stdout stderr).result =
      { stdout := Utf8.decodeLossy stdout, stderr := Utf8.decodeLossy stderr } := by
  rw [result, if_pos hSuccess]

theorem mentions_stdout (stdout : Bytes) :
    (Utf8.decodeLossy stdout).mentions "Error".toList = true ↔
      Utf8.encode "Error".toList <:+: stdout := by
  have hAscii : ("Error".toList.all fun c => c.toNat < 0x80) = true := by decide
  refine Utf8.mentions_decodeLossy (fun c hc => ?_) (by decide) stdout
  simpa using List.all_eq_true.mp hAscii c hc

theorem errorText?_of_isClean (hClean : o.IsClean) : o.result.errorText? = none := by
  cases o with
  | failed error => exact absurd hClean id
  | ended ending stdout stderr =>
    obtain ⟨hSuccess, hStderr, hQuiet⟩ := hClean
    rw [← mentions_stdout] at hQuiet
    rw [result_of_isSuccess hSuccess,
      RunResult.errorText?_of_stdout rfl ((Utf8.decodeLossy_eq_nil_iff stderr).mpr hStderr)]
    exact if_neg hQuiet

theorem errorText?_of_not_isClean (hArises : o.Arises) (hClean : ¬ o.IsClean) :
    o.result.errorText? = some o.complaint := by
  by_cases hFailure : o.IsFailure
  · exact RunResult.errorText?_of_failure (failure_result hFailure)
      (complaint_not_blank hArises hFailure)
  · cases o with
    | failed error => exact absurd trivial hFailure
    | ended ending stdout stderr =>
      have hSuccess : ending.isSuccess = true := by simpa [IsFailure] using hFailure
      rw [result_of_isSuccess hSuccess, complaint, if_pos hSuccess]
      by_cases hStderr : stderr = []
      · have hWord : Utf8.encode "Error".toList <:+: stdout := by
          by_contra hWord
          exact hClean ⟨hSuccess, hStderr, hWord⟩
        rw [← mentions_stdout] at hWord
        rw [if_pos hStderr,
          RunResult.errorText?_of_stdout rfl ((Utf8.decodeLossy_eq_nil_iff stderr).mpr hStderr)]
        exact if_pos hWord
      · rw [if_neg hStderr]
        exact RunResult.errorText?_of_stderr rfl
          (mt (Utf8.decodeLossy_eq_nil_iff stderr).mp hStderr)

/-- Output is shown without an alert exactly for a run that went well in every respect. -/
theorem shows_output_iff (colors : Colors) (fallback : Nat) (hArises : o.Arises) :
    (Verdict.ofResult colors o.result fallback).note.kind = .output ∧
      (Verdict.ofResult colors o.result fallback).alert = none ↔ o.IsClean := by
  refine ⟨fun ⟨hKind, _⟩ => ?_,
    fun hClean => Verdict.ofResult_output _ _ (errorText?_of_isClean hClean)⟩
  by_contra hClean
  have hError := Verdict.ofResult_error colors fallback (errorText?_of_not_isClean hArises hClean)
  exact absurd (hKind.symm.trans hError.1) (by decide)

end Outcome

variable {r : Runner} {around : Surroundings} {files : FileTree}

/-- Every run comes to an outcome that arises. -/
theorem run_arises (r : Runner) (around : Surroundings) (request : Request) :
    (r.run around request).outcome.Arises := by
  cases hSave : r.save around request around.files with
  | error e =>
    rw [run_of_save_error hSave]
    trivial
  | ok files =>
    rw [outcome_run_of_save hSave, invoke]
    split
    · trivial
    · split <;> trivial

/-- The interpreter does well just if it starts and its process is waited for, ends in time and with
success, and writes nothing that tells of an error. -/
theorem isClean_invoke_iff : (r.invoke around files).1.IsClean ↔
    ∃ p, (r.launch around files).run = .ok p ∧ p.ending = .ok (some (.exited 0)) ∧
      p.stderr = [] ∧ ¬ Utf8.encode "Error".toList <:+: p.stdout := by
  rw [invoke]
  cases hRun : (r.launch around files).run with
  | error e => simp [Outcome.IsClean]
  | ok p =>
    cases hEnding : p.ending with
    | error e => simp [Outcome.IsClean, hEnding]
    | ok ending =>
      cases ending with
      | none => simp [Outcome.IsClean, hEnding]
      | some ending => simp [Outcome.IsClean, Ending.isSuccess, hEnding]

theorem isClean_run_iff (r : Runner) (around : Surroundings) (request : Request) :
    (r.run around request).outcome.IsClean ↔
      ∃ files p, r.save around request around.files = .ok files ∧
        (r.launch around files).run = .ok p ∧ p.ending = .ok (some (.exited 0)) ∧
        p.stderr = [] ∧ ¬ Utf8.encode "Error".toList <:+: p.stdout := by
  cases hSave : r.save around request around.files with
  | error e =>
    rw [run_of_save_error hSave]
    simp [Outcome.IsClean]
  | ok files =>
    rw [outcome_run_of_save hSave, isClean_invoke_iff]
    simp

/-- **What is shown for a run.**  It is output without an alert just if the snippet was written, and
the interpreter started, ended in time and with success, wrote nothing on its error stream and
mentioned no error.  For every other run it is an error, with an alert that has the complete
text. -/
theorem verdict_run (r : Runner) (around : Surroundings) (request : Request) (colors : Colors) :
    let v := Verdict.ofResult colors (r.run around request).result request.targetLine
    (v.note.kind = .output ∧ v.alert = none ↔
      ∃ files p, r.save around request around.files = .ok files ∧
        (r.launch around files).run = .ok p ∧ p.ending = .ok (some (.exited 0)) ∧
        p.stderr = [] ∧ ¬ Utf8.encode "Error".toList <:+: p.stdout) ∧
    (¬ (v.note.kind = .output ∧ v.alert = none) →
      v.note.kind = .error ∧ v.alert = some (r.run around request).outcome.complaint) := by
  intro v
  have hArises := run_arises r around request
  have hOutput := Outcome.shows_output_iff colors request.targetLine hArises
  refine ⟨hOutput.trans (isClean_run_iff r around request), fun hOther => ?_⟩
  have hClean := mt hOutput.mpr hOther
  obtain ⟨hKind, -, hAlert⟩ := Verdict.ofResult_error colors request.targetLine
    (Outcome.errorText?_of_not_isClean hArises hClean)
  exact ⟨hKind, hAlert⟩

end Runner

end LiveLine
