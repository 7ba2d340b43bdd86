import LiveLine.Presenter

/-!
# One presenter on its surface

A replay takes steps with a presenter and keeps the calls that each step makes to the surface.
-/

namespace LiveLine.Presenter

/-- What a presenter can be asked to do. -/
inductive Step where
  | present (note : Annotation) (document : Document)
  | clear
  | alert (message : Text)
  deriving DecidableEq, Repr

/-- What a presenter makes of a step: the presenter afterwards, the number of decorations that the
surface has issued by then, and the calls in order. -/
def respond (p : Presenter) (issued : Nat) (ids : Nat → Decoration.Id) :
    Step → Presenter × Nat × List SurfaceCall
  | .present note document =>
    let q := p.present document issued note ids
    (q.presenter, q.issued, q.calls)
  | .clear => ({}, issued, p.clearCalls)
  | .alert message => (p, issued, [.alert message])

/-- A presenter, what it has drawn on, and all calls in order, each with the number of the step that
made it. -/
structure Replay where
  presenter : Presenter := {}
  issued : Nat := 0
  /-- How many steps were taken. -/
  taken : Nat := 0
  log : List (Nat × SurfaceCall) := []
  deriving Repr

namespace Replay

/-- Takes a step; the surface names the `n`-th decoration that is applied to it `ids n`. -/
def step (ids : Nat → Decoration.Id) (r : Replay) (s : Step) : Replay :=
  let (presenter, issued, calls) := r.presenter.respond r.issued ids s
  { presenter, issued
    taken := r.taken + 1
    log := r.log ++ calls.map (r.taken, ·) }

def run (ids : Nat → Decoration.Id) (steps : List Step) : Replay := steps.foldl (step ids) {}

end Replay

end LiveLine.Presenter
