import LiveLine.Presenter
import LiveLine.Verdict

/-!
# What a presenter makes of an annotation

The annotation of a verdict takes one of the two slots and has something to draw.  A presenter that
is handed it empties the slot, and fills it again if the line is there; the other slot stays.
-/

namespace LiveLine

namespace Verdict

theorem kind_eq (colors : Colors) (r : RunResult) (fallback : Nat) :
    (ofResult colors r fallback).note.kind = .output ∨
      (ofResult colors r fallback).note.kind = .error := by
  unfold ofResult
  split
  · exact Or.inr rfl
  · exact Or.inl rfl

theorem kind_ne_clear (colors : Colors) (r : RunResult) (fallback : Nat) :
    (ofResult colors r fallback).note.kind ≠ .clear := by
  rcases kind_eq colors r fallback with hKind | hKind <;> simp [hKind]

/-- Whatever a run leaves behind, there is something to say about it. -/
theorem text_not_isAllBlank (colors : Colors) (r : RunResult) (fallback : Nat) :
    (ofResult colors r fallback).note.text.isAllBlank = false := by
  unfold ofResult
  split
  · exact Text.isAllBlank_append_left (by decide) _
  · dsimp only
    split
    · decide
    · exact Text.isAllBlank_append_left (by decide) _

end Verdict

namespace Presenter

variable {p : Presenter} {d : Document} {issued : Nat} {a : Annotation}
  {ids : Nat → Decoration.Id} {kind other : Annotation.Kind}

theorem active?_empty (kind : Annotation.Kind) : ({} : Presenter).active? kind = none := by
  cases kind <;> rfl

theorem shown?_put_self (hKind : kind ≠ .clear) (s : Option Shown) :
    (p.put kind s).shown? kind = s := by
  cases kind with
  | output => rfl
  | error => rfl
  | clear => exact absurd rfl hKind

theorem shown?_put_of_ne (hOther : other ≠ kind) (s : Option Shown) :
    (p.put kind s).shown? other = p.shown? other := by
  cases kind <;> cases other <;> first | rfl | exact absurd rfl hOther

/-- Where the line is there, the annotation takes its slot. -/
theorem present_shown (hKind : a.kind ≠ .clear) (hLine : d.hasLine a.line = true) :
    p.present d issued a ids =
      { presenter := p.put a.kind
          (some ⟨a, (List.range' (issued + 1) (a.decorations d).length).map ids⟩)
        calls := Shown.removeCalls (p.shown? a.kind) ++ applyCalls ids issued (a.decorations d)
        issued := issued + (a.decorations d).length
        fate := .shown } := by
  simp [present, hKind, hLine]

/-- Where the line is not there, the slot is emptied. -/
theorem present_dropped (hKind : a.kind ≠ .clear) (hLine : d.hasLine a.line = false) :
    p.present d issued a ids =
      ⟨p.put a.kind none, Shown.removeCalls (p.shown? a.kind), issued, .dropped⟩ := by
  simp [present, hKind, hLine]

theorem fate_present (hKind : a.kind ≠ .clear) :
    (p.present d issued a ids).fate = if d.hasLine a.line then .shown else .dropped := by
  cases hLine : d.hasLine a.line with
  | true => rw [present_shown hKind hLine]; rfl
  | false => rw [present_dropped hKind hLine]; rfl

theorem active?_present_self (hKind : a.kind ≠ .clear) :
    (p.present d issued a ids).presenter.active? a.kind =
      if d.hasLine a.line then some a else none := by
  cases hLine : d.hasLine a.line with
  | true => rw [present_shown hKind hLine, active?, shown?_put_self hKind]; rfl
  | false => rw [present_dropped hKind hLine, active?, shown?_put_self hKind]; rfl

theorem active?_present_of_ne (hKind : a.kind ≠ .clear) (hOther : other ≠ a.kind) :
    (p.present d issued a ids).presenter.active? other = p.active? other := by
  cases hLine : d.hasLine a.line with
  | true => rw [present_shown hKind hLine, active?, shown?_put_of_ne hOther, active?]
  | false => rw [present_dropped hKind hLine, active?, shown?_put_of_ne hOther, active?]

end Presenter

end LiveLine
