import LiveLine.Annotation
import LiveLine.Document

/-!
# Presenting annotations

A presenter holds at most one annotation of each kind together with the decorations that draw it.
A new annotation first removes the decorations of the one that it replaces.
-/

namespace LiveLine

/-- An annotation on the surface, with the decorations that draw it in order of drawing. -/
structure Shown where
  note : Annotation
  decorations : List Decoration.Id
  deriving DecidableEq, Repr

structure Presenter where
  output : Option Shown := none
  error : Option Shown := none
  deriving DecidableEq, Repr

/-- What became of an annotation handed to a presenter. -/
inductive Fate where
  | shown
  | dropped
  | cleared
  deriving DecidableEq, Repr

/-- A presenter after a step, the calls it made in order, and the number of decorations that the
surface has issued since it was made. -/
structure Presentation where
  presenter : Presenter
  calls : List SurfaceCall
  issued : Nat
  fate : Fate
  deriving DecidableEq, Repr

/-- The decorations that draw an annotation on a document: a highlight over the whole line for an
error, and the text behind the line unless it is blank. -/
def Annotation.decorations (a : Annotation) (d : Document) : List Decoration :=
  let length := d.lineLength a.line
  (if a.kind = .error then [.highlight a.line 0 length a.color] else []) ++
    (if a.text.isAllBlank then []
      else [.inlineText a.line length (" # ".toList ++ a.text.trim) a.color])

/-- The calls that apply decorations, numbered on from `issued`; the surface names the `n`-th one
`ids n`. -/
def applyCalls (ids : Nat → Decoration.Id) (issued : Nat) : List Decoration → List SurfaceCall
  | [] => []
  | d :: ds => .apply (ids (issued + 1)) d :: applyCalls ids (issued + 1) ds

/-- The calls that remove what draws an annotation. -/
def Shown.removeCalls : Option Shown → List SurfaceCall
  | none => []
  | some s => s.decorations.map .remove

namespace Presenter

/-- The annotation shown of a kind. -/
def shown? (p : Presenter) : Annotation.Kind → Option Shown
  | .output => p.output
  | .error => p.error
  | .clear => none

def active? (p : Presenter) (kind : Annotation.Kind) : Option Annotation :=
  (p.shown? kind).map Shown.note

/-- Puts an annotation into the slot of a kind. -/
def put (p : Presenter) (kind : Annotation.Kind) (s : Option Shown) : Presenter :=
  match kind with
  | .output => { p with output := s }
  | .error => { p with error := s }
  | .clear => p

/-- Every decoration that the presenter has on the surface. -/
def decorations (p : Presenter) : List Decoration.Id :=
  (p.output.map Shown.decorations).getD [] ++ (p.error.map Shown.decorations).getD []

def decorationCount (p : Presenter) : Nat := p.decorations.length

/-- The calls that remove everything, output first. -/
def clearCalls (p : Presenter) : List SurfaceCall :=
  Shown.removeCalls p.output ++ Shown.removeCalls p.error

/-- Hands an annotation to the presenter, which checks its line against the document. The `n`-th
decoration that is applied to the surface, counted from one, gets the identity `ids n`. -/
def present (p : Presenter) (d : Document) (issued : Nat) (a : Annotation)
    (ids : Nat → Decoration.Id := fun n => n) : Presentation :=
  if a.kind = .clear then ⟨{}, p.clearCalls, issued, .cleared⟩
  else
    let removals := Shown.removeCalls (p.shown? a.kind)
    if d.hasLine a.line then
      let drawn := a.decorations d
      { presenter :=
          p.put a.kind (some ⟨a, (List.range' (issued + 1) drawn.length).map ids⟩)
        calls := removals ++ applyCalls ids issued drawn
        issued := issued + drawn.length
        fate := .shown }
    else ⟨p.put a.kind none, removals, issued, .dropped⟩

end Presenter

end LiveLine
