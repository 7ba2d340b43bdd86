import LiveLine.Annotation
import LiveLine.Text.Blank
import LiveLine.Text.Digit

/-!
# Verdicts on runs

The failure message comes first, then the error stream, then output that mentions an error; all
else is output. Only the last line of a message is shown beside the code.
-/

namespace LiveLine

/-- What a run leaves behind. -/
structure RunResult where
  stdout : Text := []
  stderr : Text := []
  failure : Option Text := none
  deriving DecidableEq, Repr

structure Colors where
  output : Text := "grey".toList
  error : Text := "red".toList
  deriving DecidableEq, Repr

/-- An annotation, and the full text of the error if it is one. -/
structure Verdict where
  note : Annotation
  alert : Option Text
  deriving DecidableEq, Repr

/-- The text shown for a run that writes nothing but blanks. -/
def noOutput : Text := "<No Output>".toList

/-- The full text of the error, if the result is one. -/
def RunResult.errorText? (r : RunResult) : Option Text :=
  match r.failure.filter (!·.isEmpty) with
  | some message => some message
  | none =>
    if !r.stderr.isEmpty then some r.stderr
    else if r.stdout.mentions "Error".toList then some r.stdout
    else none

/-- The last line of the trimmed text, without the carriage returns at its end. -/
def lastLine (t : Text) : Text :=
  Text.dropTailWhile (· == '\r') (((Text.splitOn '\n' t.trim).getLast?).getD [])

/-- The digits after the first place where the text has `line ` and a digit. -/
def lineReference? : Text → Option Text
  | [] => none
  | c :: r =>
    match Text.dropLead? "line ".toList (c :: r) with
    | some (d :: rest) =>
      if isDigit d then some ((d :: rest).takeWhile isDigit) else lineReference? r
    | _ => lineReference? r

/-- The line that an error text refers to, counted from zero. -/
def referencedLine? (t : Text) : Option Nat :=
  ((lineReference? t).bind Text.wordNumeral?).bind fun n => if n = 0 then none else some (n - 1)

/-- The annotation for a result whose request came from line `fallback`. -/
def Verdict.ofResult (colors : Colors) (r : RunResult) (fallback : Nat) : Verdict :=
  match r.errorText? with
  | some message =>
    { note :=
        ⟨.error, (referencedLine? message).getD fallback, "Error: ".toList ++ lastLine message,
          colors.error⟩
      alert := some message }
  | none =>
    { note :=
        ⟨.output, fallback,
          if r.stdout.isAllBlank then noOutput else "Output: ".toList ++ lastLine r.stdout,
          colors.output⟩
      alert := none }

end LiveLine
