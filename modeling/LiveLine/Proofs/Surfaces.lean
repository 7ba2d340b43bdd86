import LiveLine.Presenter.Replay
import LiveLine.Proofs.Ledgers

/-!
# What steps say and what calls leave

What a presenter should show can be told from the steps that it was asked to take, and what is on a
surface from the calls that were made to it.  Neither looks at the presenter.

* `Annotation.drawing`: what an annotation is drawn with.
* `activeOf?`: the annotation of a kind that is active, told from the steps.
* `surface`: the decorations that are on a surface after some calls.
-/

namespace LiveLine

/-- What an annotation is drawn with on a document: a highlight over the whole line for an error,
and behind the line its text without blanks around it, unless nothing is left of that. -/
def Annotation.drawing (a : Annotation) (d : Document) : List Decoration :=
  let text : List Decoration :=
    if a.text.trim = [] then []
    else [.inlineText a.line (d.lineLength a.line) (" # ".toList ++ a.text.trim) a.color]
  match a.kind with
  | .error => .highlight a.line 0 (d.lineLength a.line) a.color :: text
  | .output => text
  | .clear => []

theorem Annotation.decorations_eq {a : Annotation} (hKind : a.kind ≠ .clear) (d : Document) :
    a.decorations d = a.drawing d := by
  have hBlank : (a.text.isAllBlank = true) = (a.text.trim = []) :=
    propext (Text.trim_eq_nil_iff a.text).symm
  cases hk : a.kind with
  | clear => exact absurd hk hKind
  | output | error => simp [hk, hBlank, Annotation.decorations, Annotation.drawing]

namespace Presenter

/-- A decoration on a surface, and the number of the step that applied it. -/
structure Placed where
  step : Nat
  id : Decoration.Id
  decoration : Decoration
  deriving DecidableEq, Repr

def place (on : List Placed) : Nat × SurfaceCall → List Placed
  | (n, .apply id d) => on ++ [⟨n, id, d⟩]
  | (_, .remove id) => on.filter (·.id ≠ id)
  | (_, .alert _) => on

/-- What is on a surface after some calls. -/
def surface (log : List (Nat × SurfaceCall)) : List Placed := log.foldl place []

/-! ### What the steps say -/

/-- An annotation that was presented on a document by the step with some number. -/
structure Presented where
  note : Annotation
  document : Document
  step : Nat
  deriving DecidableEq, Repr

/-- What a presented annotation is drawn with, each decoration with the number of the step. -/
def Presented.drawing (x : Presented) : List (Nat × Decoration) :=
  (x.note.drawing x.document).map (x.step, ·)

/-- Whether a step lets go of everything. -/
def Step.clears : Step → Bool
  | present note _ => note.kind = .clear
  | clear => true
  | alert _ => false

def Step.kind? : Step → Option Annotation.Kind
  | present note _ => some note.kind
  | clear | alert _ => none

/-- What the step with number `n` presents, if it presents an annotation of some kind. -/
def Step.presented? (kind : Annotation.Kind) (n : Nat) : Step → Option Presented
  | present note document => if note.kind = kind then some ⟨note, document, n⟩ else none
  | clear | alert _ => none

/-- The steps since all was let go of for the last time, the last one first, with their numbers. -/
def sinceClear (steps : List Step) : List (Step × Nat) :=
  steps.zipIdx.reverse.takeWhile (!·.1.clears)

/-- What was last presented of a kind since all was let go of. -/
def lastOf? (kind : Annotation.Kind) (steps : List Step) : Option Presented :=
  (sinceClear steps).findSome? fun s => s.1.presented? kind s.2

/-- What was last presented of a kind, if its line was in the document that it was presented on. -/
def activeOf? (kind : Annotation.Kind) (steps : List Step) : Option Presented :=
  (lastOf? kind steps).filter fun x => x.document.hasLine x.note.line

section

variable {kind : Annotation.Kind} {steps : List Step} {s : Step} {x : Presented}
  {a : Annotation} {d : Document}

theorem sinceClear_concat (steps : List Step) (s : Step) :
    sinceClear (steps ++ [s]) =
      if s.clears then [] else (s, steps.length) :: sinceClear steps := by
  rw [sinceClear, List.zipIdx_append, List.reverse_append, Nat.zero_add]
  cases hClears : s.clears with
  | true => simp [hClears]
  | false => simp [hClears, sinceClear]

theorem activeOf?_of_clears (hClears : s.clears = true) : activeOf? kind (steps ++ [s]) = none := by
  rw [activeOf?, lastOf?, sinceClear_concat, if_pos hClears]
  rfl

theorem activeOf?_of_other (hClears : s.clears = false) (hKind : s.kind? ≠ some kind) :
    activeOf? kind (steps ++ [s]) = activeOf? kind steps := by
  have hNone : s.presented? kind steps.length = none := by
    cases s with
    | present note document => exact if_neg fun h => hKind (congrArg some h)
    | clear | alert => rfl
  rw [activeOf?, lastOf?, sinceClear_concat, hClears, if_neg Bool.false_ne_true,
    List.findSome?_cons_of_isNone (by rw [hNone]; rfl), activeOf?, lastOf?]

theorem activeOf?_present (hKind : a.kind ≠ .clear) :
    activeOf? a.kind (steps ++ [.present a d]) =
      if d.hasLine a.line then some ⟨a, d, steps.length⟩ else none := by
  have hSome : Step.presented? a.kind steps.length (.present a d) = some ⟨a, d, steps.length⟩ :=
    if_pos rfl
  have hClears : (Step.present a d).clears = false := by simpa [Step.clears] using hKind
  rw [activeOf?, lastOf?, sinceClear_concat, hClears, if_neg Bool.false_ne_true,
    List.findSome?_cons_of_isSome (by rw [hSome]; rfl), hSome, Option.filter_some]

/-- What is active was presented by the step with its number. -/
theorem of_activeOf? (hActive : activeOf? kind steps = some x) :
    steps[x.step]? = some (.present x.note x.document) ∧ x.note.kind = kind := by
  obtain ⟨⟨s, n⟩, hMem, hSome⟩ :=
    List.exists_of_findSome?_eq_some (Option.filter_eq_some_iff.mp hActive).1
  have hStep : steps[n]? = some s :=
    List.mem_zipIdx_iff_getElem?.mp
      (List.mem_reverse.mp ((List.takeWhile_sublist _).mem hMem))
  cases s with
  | present note document =>
    obtain ⟨hKind, hSome⟩ := Option.ite_none_right_eq_some.mp hSome
    obtain rfl := Option.some.inj hSome
    exact ⟨hStep, hKind⟩
  | clear | alert => exact absurd hSome (by simp [Step.presented?])

end

/-! ### What the calls leave -/

section

variable {log more : List (Nat × SurfaceCall)} {on : List Placed} {x : Placed} {n issued : Nat}
  {ids : Nat → Decoration.Id} {drawn : List Decoration}

theorem surface_append (log more : List (Nat × SurfaceCall)) :
    surface (log ++ more) = more.foldl place (surface log) := List.foldl_append

theorem foldl_place_removes (names : List Decoration.Id) (n : Nat) (on : List Placed) :
    ((names.map .remove).map (n, ·)).foldl place on = on.filter (·.id ∉ names) := by
  induction names generalizing on with
  | nil => simp
  | cons id names ih =>
    simp only [List.map_cons, List.foldl_cons, place, ih, List.filter_filter]
    refine List.filter_congr fun x _ => ?_
    simp [Bool.and_comm]

/-- What is drawn with the names of a list. -/
def placed (n : Nat) (names : List Decoration.Id) (drawn : List Decoration) : List Placed :=
  (names.zip drawn).map fun x => ⟨n, x.1, x.2⟩

theorem foldl_place_applies (drawn : List Decoration) (n issued : Nat) (on : List Placed) :
    ((applyCalls ids issued drawn).map (n, ·)).foldl place on =
      on ++ placed n ((List.range' (issued + 1) drawn.length).map ids) drawn := by
  induction drawn generalizing issued on with
  | nil => simp [applyCalls, placed]
  | cons d drawn ih =>
    simp only [applyCalls, List.map_cons, List.foldl_cons, place, ih, List.length_cons,
      List.range'_succ, placed, List.zip_cons_cons, List.append_assoc, List.singleton_append]

/-- What is on a surface after some more calls was there before, or one of them applied it. -/
theorem mem_foldl_place (hMem : x ∈ more.foldl place on) :
    x ∈ on ∨ (x.step, .apply x.id x.decoration) ∈ more := by
  induction more generalizing on with
  | nil => exact Or.inl hMem
  | cons call more ih =>
    rcases ih hMem with hOn | hMore
    · obtain ⟨n, call⟩ := call
      cases call with
      | apply id d =>
        rcases List.mem_append.mp hOn with hOn | hNew
        · exact Or.inl hOn
        · obtain rfl := List.mem_singleton.mp hNew
          exact Or.inr (List.mem_cons_self ..)
      | remove id => exact Or.inl (List.mem_filter.mp hOn).1
      | alert message => exact Or.inl hOn
    · exact Or.inr (List.mem_cons_of_mem _ hMore)

theorem exists_apply_of_mem_surface (hMem : x ∈ surface log) :
    (x.step, .apply x.id x.decoration) ∈ log :=
  (mem_foldl_place hMem).resolve_left List.not_mem_nil

/-- Calls that apply nothing leave a part of what was there. -/
theorem surface_subset (hNone : ∀ n id d, (n, .apply id d) ∉ more) :
    surface (log ++ more) ⊆ surface log := fun _ hx =>
  (mem_foldl_place (surface_append log more ▸ hx)).resolve_right (hNone _ _ _)

/-- A part of calls that apply nothing applies nothing. -/
theorem apply_not_mem_part {calls : List SurfaceCall} (hPrefix : more <+: calls.map (n, ·))
    (hNone : ∀ id d, .apply id d ∉ calls) : ∀ m id d, (m, .apply id d) ∉ more := by
  intro m id d hMem
  obtain ⟨c, hc, hSame⟩ := List.mem_map.mp (hPrefix.subset hMem)
  exact hNone id d ((Prod.mk.inj hSame).2 ▸ hc)

theorem mem_of_apply_mem_applyCalls {id : Decoration.Id} {d : Decoration}
    (hMem : .apply id d ∈ applyCalls ids issued drawn) : d ∈ drawn := by
  induction drawn generalizing issued with
  | nil => exact absurd hMem (by simp [applyCalls])
  | cons e drawn ih =>
    rcases List.mem_cons.mp hMem with hSame | hMem
    · exact (SurfaceCall.apply.inj hSame).2 ▸ List.mem_cons_self ..
    · exact List.mem_cons_of_mem e (ih hMem)

/-- What a numbered call applies is drawn under the next names. -/
theorem of_apply_mem_applies {m : Nat} {id : Decoration.Id} {d : Decoration}
    (hMem : (m, .apply id d) ∈ (applyCalls ids issued drawn).map (n, ·)) :
    m = n ∧ id ∈ (List.range' (issued + 1) drawn.length).map ids ∧ d ∈ drawn := by
  obtain ⟨c, hc, hSame⟩ := List.mem_map.mp hMem
  obtain ⟨rfl, rfl⟩ := Prod.mk.inj hSame
  exact ⟨rfl, exists_mem_applyCalls.mp ⟨d, hc⟩, mem_of_apply_mem_applyCalls hc⟩

theorem map_id_placed {names : List Decoration.Id} (hLength : names.length = drawn.length) :
    (placed n names drawn).map Placed.id = names := by
  rw [placed, List.map_map]
  exact List.map_fst_zip (Nat.le_of_eq hLength)

theorem map_drawn_placed {names : List Decoration.Id} (hLength : names.length = drawn.length) :
    (placed n names drawn).map (fun x => (x.step, x.decoration)) = drawn.map (n, ·) := by
  have hSnd : drawn.map (n, ·) = ((names.zip drawn).map Prod.snd).map (n, ·) := by
    rw [List.map_snd_zip (Nat.le_of_eq hLength.symm)]
  rw [placed, List.map_map, hSnd, List.map_map]
  rfl

theorem of_mem_placed {names : List Decoration.Id} (hMem : x ∈ placed n names drawn) :
    x.step = n ∧ x.id ∈ names ∧ x.decoration ∈ drawn := by
  obtain ⟨⟨id, d⟩, hPair, rfl⟩ := List.mem_map.mp hMem
  exact ⟨rfl, List.of_mem_zip hPair⟩

end

end Presenter

end LiveLine
