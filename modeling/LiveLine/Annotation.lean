import LiveLine.Text.Basic

/-!
# Annotations, decorations and calls to the surface

An annotation is what a run has to say about one line. It is drawn as decorations on a surface,
which the program drives by calls.
-/

namespace LiveLine

/-- The identity of an open editor. -/
abbrev EditorId := Nat

/-- The name of an editor in messages. -/
def EditorId.name (id : EditorId) : Text := "editor#".toList ++ Text.ofNat id

/-- The slot that an annotation takes; the kind `clear` empties both slots. -/
inductive Annotation.Kind where
  | output
  | error
  | clear
  deriving DecidableEq, Repr

structure Annotation where
  kind : Annotation.Kind
  line : Nat
  text : Text
  color : Text
  deriving DecidableEq, Repr

namespace Annotation

/-- The directive that removes every annotation. -/
def clear (line : Nat) : Annotation := ⟨.clear, line, [], []⟩

end Annotation

/-- The identity of a decoration on a surface. -/
abbrev Decoration.Id := Nat

inductive Decoration where
  /-- Text drawn at `column` of a line. -/
  | inlineText (line column : Nat) (text color : Text)
  /-- A background behind the characters from `start` to before `stop` of a line. -/
  | highlight (line start stop : Nat) (color : Text)
  deriving DecidableEq, Repr

namespace Decoration

def line : Decoration → Nat
  | inlineText line .. => line
  | highlight line .. => line

def isHighlight : Decoration → Bool
  | inlineText .. => false
  | highlight .. => true

end Decoration

/-- What a surface is asked to do. -/
inductive SurfaceCall where
  | apply (id : Decoration.Id) (decoration : Decoration)
  | remove (id : Decoration.Id)
  | alert (message : Text)
  deriving DecidableEq, Repr

end LiveLine
