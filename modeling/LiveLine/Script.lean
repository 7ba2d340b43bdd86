import LiveLine.Document
import LiveLine.Text.Utf8

/-!
# The script as an editor

A script file is read anew for every snapshot. Its cursor stands on a pinned line, or else on the
last line that is not blank.
-/

namespace LiveLine

/-- The document in a file; a file that is missing or is not UTF-8 reads as the empty document. -/
def Document.ofFile (content : Option Bytes) : Document :=
  ((content.bind Utf8.decode?).map Document.mk).getD Document.empty

/-- The line that the cursor of a script stands on. -/
def Document.cursor (d : Document) (pinned : Option Nat) : Nat :=
  (pinned.or d.lastNonBlank?).getD 0

/-- What the editor of a script shows. -/
def Snapshot.ofFile (content : Option Bytes) (pinned : Option Nat) : Snapshot :=
  let d := Document.ofFile content
  ⟨d, d.cursor pinned⟩

end LiveLine
