import LiveLine.Proofs.Surfaces
import Mathlib.Data.List.Induction

/-!
# What a presenter has on its surface

After every step a presenter shows what the steps say, and the surface has the decorations of that.
Between two calls of a step the surface lacks some of them, but never has two annotations of a kind.

* `Faithful`: the surface has the decorations of the annotations that stand, one of a kind at most.
* `Faithful.empty`, `Faithful.fill`, `Faithful.step`: what a slot and a step do to it.
* `Single`, `Faithful.single_between`: what is there of a kind is from one step at any moment.
* `Replay.run_faithful`: all of it, for every list of steps.
-/

namespace LiveLine

namespace Presenter

/-! ### A presenter and its surface -/

/-- A presented annotation that has its decorations on the surface, each with its name. -/
structure Standing extends Presented where
  names : List Decoration.Id
  drawn : names.length = (note.drawing document).length

namespace Standing

def shown (x : Standing) : Shown := ⟨x.note, x.names⟩

def placed (x : Standing) : List Placed :=
  Presenter.placed x.step x.names (x.note.drawing x.document)

end Standing

/-- What the step with number `n` puts on the surface when it presents an annotation. -/
def standingOf (ids : Nat → Decoration.Id) (issued n : Nat) (note : Annotation)
    (document : Document) : Standing where
  note := note
  document := document
  step := n
  names := (List.range' (issued + 1) (note.drawing document).length).map ids
  drawn := by simp

/-- What is on the surface of the annotations that stand, one of each kind at most. -/
def standings (standing : Annotation.Kind → Option Standing) : List Placed :=
  (standing .output).elim [] Standing.placed ++ (standing .error).elim [] Standing.placed

/-- The surface has the decorations of the annotations that stand, and these are what the presenter
holds.  What was applied has a name of its own. -/
structure Faithful (ids : Nat → Decoration.Id) (p : Presenter) (issued : Nat)
    (log : List (Nat × SurfaceCall)) (standing : Annotation.Kind → Option Standing) : Prop where
  shown : ∀ kind, kind ≠ .clear → p.shown? kind = (standing kind).map Standing.shown
  perm : (surface log).Perm (standings standing)
  nodup : ((surface log).map Placed.id).Nodup
  named : ∀ n id d, (n, .apply id d) ∈ log → ∃ m ≤ issued, ids m = id
  once : ∀ n n' id d d', (n, .apply id d) ∈ log → (n', .apply id d') ∈ log → n = n'

section

variable {standing : Annotation.Kind → Option Standing} {kind : Annotation.Kind} {x : Placed}

open Function (update)

/-- What stands of one kind, and what stands of the other. -/
theorem standings_update (standing : Annotation.Kind → Option Standing) (hKind : kind ≠ .clear)
    (y : Option Standing) :
    (standings (update standing kind y)).Perm
      (y.elim [] Standing.placed ++ standings (update standing kind none)) := by
  cases kind with
  | output => simp [standings]
  | error =>
    simp only [standings, Function.update_self, Option.elim_none, List.append_nil, ne_eq,
      reduceCtorEq, not_false_eq_true, Function.update_of_ne]
    exact List.perm_append_comm
  | clear => exact absurd rfl hKind

/-- What is on the surface of a slot goes by the names that the slot keeps. -/
theorem map_id_slot (y : Option Standing) : (y.elim [] Standing.placed).map Placed.id =
    ((y.map Standing.shown).map Shown.decorations).getD [] := by
  cases y with
  | none => rfl
  | some y => exact map_id_placed y.drawn

theorem of_mem_standings (hMem : x ∈ standings standing) :
    ∃ kind y, kind ≠ .clear ∧ standing kind = some y ∧ x ∈ y.placed := by
  rcases List.mem_append.mp hMem with hOutput | hError
  · cases hy : standing .output with
    | none => exact absurd (hy ▸ hOutput) List.not_mem_nil
    | some y => exact ⟨_, y, by decide, hy, by simpa [hy] using hOutput⟩
  · cases hy : standing .error with
    | none => exact absurd (hy ▸ hError) List.not_mem_nil
    | some y => exact ⟨_, y, by decide, hy, by simpa [hy] using hError⟩

end

namespace Faithful

variable {ids : Nat → Decoration.Id} {p : Presenter} {issued : Nat}
  {log : List (Nat × SurfaceCall)} {standing : Annotation.Kind → Option Standing}
  {kind : Annotation.Kind} {note : Annotation}

open Function (update)

theorem initial : Faithful ids {} 0 [] fun _ => none where
  shown kind _ := by cases kind <;> rfl
  perm := .refl _
  nodup := .nil
  named := by simp
  once := by simp

/-- Calls that neither apply nor remove leave the surface as it is. -/
theorem alert (hf : Faithful ids p issued log standing) (n : Nat) (message : Text) :
    Faithful ids p issued (log ++ [(n, .alert message)]) standing where
  shown := hf.shown
  perm := by
    rw [surface_append]
    exact hf.perm
  nodup := by
    rw [surface_append]
    exact hf.nodup
  named m id d hApply := hf.named m id d (by simpa using hApply)
  once m m' id d d' hApply hApply' :=
    hf.once m m' id d d' (by simpa using hApply) (by simpa using hApply')

theorem shown_put (hf : Faithful ids p issued log standing) (hKind : kind ≠ .clear)
    (y : Option Standing) (other : Annotation.Kind) (hOther : other ≠ .clear) :
    (p.put kind (y.map Standing.shown)).shown? other =
      (update standing kind y other).map Standing.shown := by
  by_cases hSame : other = kind
  · subst hSame
    rw [shown?_put_self hKind, Function.update_self]
  · rw [shown?_put_of_ne hSame, Function.update_of_ne hSame, hf.shown other hOther]

/-- What is on the surface of one kind, and what is there of the other. -/
theorem perm_kind (hf : Faithful ids p issued log standing) (hKind : kind ≠ .clear) :
    (surface log).Perm
      ((standing kind).elim [] Standing.placed ++ standings (update standing kind none)) := by
  have hSplit := standings_update standing hKind (standing kind)
  rw [Function.update_eq_self] at hSplit
  exact hf.perm.trans hSplit

/-- A slot is emptied. -/
theorem empty (hf : Faithful ids p issued log standing) (hKind : kind ≠ .clear) (n : Nat) :
    Faithful ids (p.put kind none) issued
      (log ++ (Shown.removeCalls (p.shown? kind)).map (n, ·)) (update standing kind none) := by
  have hPerm := hf.perm_kind hKind
  have hNodup := List.map_append ▸ (hPerm.map Placed.id).nodup_iff.mp hf.nodup
  obtain ⟨-, hRest, hApart⟩ := List.nodup_append.mp hNodup
  have hSurface : (surface (log ++ (Shown.removeCalls (p.shown? kind)).map (n, ·))).Perm
      (standings (update standing kind none)) := by
    rw [removeCalls_eq, hf.shown kind hKind, ← map_id_slot, surface_append, foldl_place_removes]
    refine (hPerm.filter _).trans ?_
    rw [List.filter_append, List.filter_eq_nil_iff.mpr, List.nil_append,
      List.filter_eq_self.mpr]
    · intro x hx
      refine decide_eq_true fun hIn => ?_
      exact hApart _ hIn _ (List.mem_map_of_mem hx) rfl
    · intro x hx
      simpa using ⟨x, hx, rfl⟩
  have hOld : ∀ {m id d}, (m, .apply id d) ∈ log ++ (Shown.removeCalls (p.shown? kind)).map (n, ·) →
      (m, .apply id d) ∈ log := fun hMem =>
    (List.mem_append.mp hMem).resolve_right
      (apply_not_mem_part (List.prefix_refl _) (fun _ => apply_not_mem_removeCalls _) _ _ _)
  exact ⟨hf.shown_put hKind none, hSurface, (hSurface.map Placed.id).nodup_iff.mpr hRest,
    fun m id d hMem => hf.named m id d (hOld hMem),
    fun m m' id d d' hMem hMem' => hf.once m m' id d d' (hOld hMem) (hOld hMem')⟩

/-- The next names have not been given yet. -/
theorem not_mem_of_new (hIds : Function.Injective ids) (hf : Faithful ids p issued log standing)
    {id : Decoration.Id} {k : Nat} (hNew : id ∈ (List.range' (issued + 1) k).map ids) (n : Nat)
    (d : Decoration) : (n, .apply id d) ∉ log := by
  intro hMem
  obtain ⟨m, hm, hId⟩ := List.mem_map.mp hNew
  obtain ⟨m', hm', hId'⟩ := hf.named n id d hMem
  have hSame : m = m' := hIds (hId.trans hId'.symm)
  have hBounds := List.mem_range'_1.mp hm
  omega

/-- An empty slot is filled with what is drawn under new names. -/
theorem fill (hIds : Function.Injective ids) (hf : Faithful ids p issued log standing)
    (hKind : note.kind ≠ .clear) (hEmpty : standing note.kind = none) (document : Document)
    (n : Nat) :
    Faithful ids
      (p.put note.kind
        (some ⟨note, (List.range' (issued + 1) (note.drawing document).length).map ids⟩))
      (issued + (note.drawing document).length)
      (log ++ (applyCalls ids issued (note.drawing document)).map (n, ·))
      (update standing note.kind (some (standingOf ids issued n note document))) := by
  have hSurface : surface (log ++ (applyCalls ids issued (note.drawing document)).map (n, ·)) =
      surface log ++ (standingOf ids issued n note document).placed := by
    rw [surface_append, foldl_place_applies]
    rfl
  constructor
  · exact hf.shown_put hKind (some (standingOf ids issued n note document))
  · have hPerm := standings_update standing hKind (some (standingOf ids issued n note document))
    rw [← hEmpty, Function.update_eq_self] at hPerm
    rw [hSurface]
    exact ((hf.perm.append_right _).trans List.perm_append_comm).trans hPerm.symm
  · have hNames : (standingOf ids issued n note document).placed.map Placed.id =
        (List.range' (issued + 1) (note.drawing document).length).map ids :=
      map_id_placed (standingOf ids issued n note document).drawn
    rw [hSurface, List.map_append, hNames]
    refine List.nodup_append.mpr
      ⟨hf.nodup, (List.nodup_range' ..).map hIds, fun id hid id' hid' hSame => ?_⟩
    obtain ⟨y, hy, rfl⟩ := List.mem_map.mp hid
    exact hf.not_mem_of_new hIds hid' _ _ (hSame ▸ exists_apply_of_mem_surface hy)
  · intro m id d hMem
    rcases List.mem_append.mp hMem with hOld | hMem
    · obtain ⟨k, hk, hId⟩ := hf.named m id d hOld
      exact ⟨k, by omega, hId⟩
    · obtain ⟨k, hk, hId⟩ := List.mem_map.mp (of_apply_mem_applies hMem).2.1
      have hBounds := List.mem_range'_1.mp hk
      exact ⟨k, by omega, hId⟩
  · intro m m' id d d' hMem hMem'
    rcases List.mem_append.mp hMem with hOld | hMem <;>
      rcases List.mem_append.mp hMem' with hOld' | hMem'
    · exact hf.once m m' id d d' hOld hOld'
    · exact absurd hOld (hf.not_mem_of_new hIds (of_apply_mem_applies hMem').2.1 m d)
    · exact absurd hOld' (hf.not_mem_of_new hIds (of_apply_mem_applies hMem).2.1 m' d')
    · rw [(of_apply_mem_applies hMem).1, (of_apply_mem_applies hMem').1]

/-- Both slots are emptied. -/
theorem clear (hf : Faithful ids p issued log standing) (n : Nat) :
    Faithful ids {} issued (log ++ p.clearCalls.map (n, ·))
      (update (update standing .output none) .error none) := by
  have hOutput : Annotation.Kind.output ≠ .clear := by decide
  have hError : Annotation.Kind.error ≠ .clear := by decide
  have hBoth := (hf.empty hOutput n).empty hError n
  rw [shown?_put_of_ne (by decide), List.append_assoc, ← List.map_append] at hBoth
  exact hBoth

end Faithful

/-- What stands of a kind is what the steps say is active. -/
def Follows (standing : Annotation.Kind → Option Standing) (steps : List Step) : Prop :=
  ∀ kind, kind ≠ .clear → (standing kind).map Standing.toPresented = activeOf? kind steps

section

variable {ids : Nat → Decoration.Id} {p : Presenter} {issued : Nat}
  {log : List (Nat × SurfaceCall)} {standing : Annotation.Kind → Option Standing}
  {steps : List Step} {s : Step} {note : Annotation} {document : Document}

open Function (update)

theorem Follows.of_clears (standing : Annotation.Kind → Option Standing)
    (hClears : s.clears = true) :
    Follows (update (update standing .output none) .error none) (steps ++ [s]) := by
  intro kind hKind
  rw [activeOf?_of_clears hClears]
  cases kind with
  | output | error => rfl
  | clear => exact absurd rfl hKind

theorem Follows.alert (hFollows : Follows standing steps) (message : Text) :
    Follows standing (steps ++ [.alert message]) := fun kind hKind => by
  rw [activeOf?_of_other rfl (by simp [Step.kind?]), hFollows kind hKind]

/-- A step that presents puts what it presents into its slot, if the line is there. -/
theorem Follows.present (hFollows : Follows standing steps) (hKind : note.kind ≠ .clear)
    {x : Option Standing}
    (hx : x.map Standing.toPresented =
      if document.hasLine note.line then some ⟨note, document, steps.length⟩ else none) :
    Follows (update standing note.kind x) (steps ++ [.present note document]) := by
  intro kind hOther
  by_cases hSame : kind = note.kind
  · subst hSame
    rw [Function.update_self, activeOf?_present hKind, hx]
  · have hClears : (Step.present note document).clears = false := by simpa [Step.clears] using hKind
    have hNot : (Step.present note document).kind? ≠ some kind :=
      fun h => hSame (Option.some.inj h).symm
    rw [Function.update_of_ne hSame, activeOf?_of_other hClears hNot, hFollows kind hOther]

/-- After every step the surface has what the steps say. -/
theorem Faithful.step (hIds : Function.Injective ids)
    (hf : Faithful ids p issued log standing) (hFollows : Follows standing steps) (s : Step) :
    ∃ standing', Follows standing' (steps ++ [s]) ∧
      Faithful ids (p.respond issued ids s).1 (p.respond issued ids s).2.1
        (log ++ (p.respond issued ids s).2.2.map (steps.length, ·)) standing' := by
  cases s with
  | clear => exact ⟨_, .of_clears standing rfl, hf.clear _⟩
  | alert message => exact ⟨_, hFollows.alert message, hf.alert _ message⟩
  | present note document =>
    by_cases hKind : note.kind = .clear
    · have hClears : (Step.present note document).clears = true := by
        simpa [Step.clears] using hKind
      have hClear := hf.clear steps.length
      refine ⟨_, .of_clears standing hClears, ?_⟩
      simpa only [respond, Presenter.present, hKind, if_true] using hClear
    cases hLine : document.hasLine note.line with
    | false =>
      refine ⟨_, hFollows.present (x := none) hKind (by simp [hLine]), ?_⟩
      simp only [respond, present_dropped hKind hLine]
      exact hf.empty hKind _
    | true =>
      refine ⟨_, hFollows.present (x := some (standingOf ids issued steps.length note document))
        hKind (by simp [hLine, standingOf]), ?_⟩
      have hFill := (hf.empty hKind steps.length).fill hIds hKind (Function.update_self ..) document
        steps.length
      rw [put_put, Function.update_idem, List.append_assoc, ← List.map_append] at hFill
      simpa only [respond, present_shown hKind hLine, Annotation.decorations_eq hKind] using hFill

end

/-! ### Between two calls -/

/-- The kind that the step with number `n` presents. -/
def kindAt? (steps : List Step) (n : Nat) : Option Annotation.Kind := steps[n]?.bind Step.kind?

/-- All that is on the surface was drawn by a step that presented it, and what is there of one kind
was drawn by one step. -/
def Single (steps : List Step) (on : List Placed) : Prop :=
  (∀ x ∈ on, ∃ note document, steps[x.step]? = some (.present note document) ∧
    x.decoration ∈ note.drawing document) ∧
  ∀ x ∈ on, ∀ y ∈ on, kindAt? steps x.step = kindAt? steps y.step → x.step = y.step

section

variable {ids : Nat → Decoration.Id} {p : Presenter} {issued n : Nat}
  {log mid : List (Nat × SurfaceCall)} {standing : Annotation.Kind → Option Standing}
  {steps : List Step} {s : Step} {note : Annotation} {document : Document} {on old : List Placed}
  {kind : Annotation.Kind} {x : Placed} {y : Standing} {id : Decoration.Id}

open Function (update)

theorem kindAt?_of_present (hStep : steps[n]? = some (.present note document)) :
    kindAt? steps n = some note.kind := by
  rw [kindAt?, hStep]
  rfl

namespace Single

theorem subset (hs : Single steps old) (hSub : on ⊆ old) : Single steps on :=
  ⟨fun x hx => hs.1 x (hSub hx), fun x hx y hy => hs.2 x (hSub hx) y (hSub hy)⟩

theorem kindAt?_concat (hs : Single steps old) (hMem : x ∈ old) (s : Step) :
    kindAt? (steps ++ [s]) x.step = kindAt? steps x.step := by
  obtain ⟨note, document, hStep, -⟩ := hs.1 x hMem
  rw [kindAt?, kindAt?, List.getElem?_append_left (List.getElem?_eq_some_iff.mp hStep).1]

theorem concat (hs : Single steps on) (s : Step) : Single (steps ++ [s]) on := by
  refine ⟨fun x hx => ?_, fun x hx y hy hKind => ?_⟩
  · obtain ⟨note, document, hStep, hDrawn⟩ := hs.1 x hx
    exact ⟨note, document, List.getElem?_append_left (List.getElem?_eq_some_iff.mp hStep).1 ▸ hStep,
      hDrawn⟩
  · rw [hs.kindAt?_concat hx, hs.kindAt?_concat hy] at hKind
    exact hs.2 x hx y hy hKind

/-- A step draws its annotation where nothing of the kind is left. -/
theorem concat_present (hs : Single steps old)
    (hOther : ∀ x ∈ old, kindAt? steps x.step ≠ some note.kind)
    (hOn : ∀ x ∈ on, x ∈ old ∨ x.step = steps.length ∧ x.decoration ∈ note.drawing document) :
    Single (steps ++ [.present note document]) on := by
  have hOld := hs.concat (.present note document)
  have hLast : (steps ++ [.present note document])[steps.length]? =
      some (.present note document) := List.getElem?_concat_length
  have hApart : ∀ x ∈ old, kindAt? (steps ++ [.present note document]) x.step ≠
      kindAt? (steps ++ [.present note document]) steps.length := fun x hx => by
    rw [hs.kindAt?_concat hx, kindAt?_of_present hLast]
    exact hOther x hx
  refine ⟨fun x hx => ?_, fun x hx y hy hKind => ?_⟩
  · rcases hOn x hx with hx | ⟨hStep, hDrawn⟩
    · exact hOld.1 x hx
    · exact ⟨note, document, hStep ▸ hLast, hDrawn⟩
  · rcases hOn x hx with hx | ⟨hStep, -⟩ <;> rcases hOn y hy with hy | ⟨hStep', -⟩
    · exact hOld.2 x hx y hy hKind
    · exact absurd (hStep' ▸ hKind) (hApart x hx)
    · exact absurd (hStep ▸ hKind).symm (hApart y hy)
    · rw [hStep, hStep']

end Single

/-- What stands on the surface was drawn by the step that the steps say. -/
theorem Follows.of_mem_placed (hFollows : Follows standing steps) (hKind : kind ≠ .clear)
    (hy : standing kind = some y) (hMem : x ∈ y.placed) :
    x.step = y.step ∧ steps[x.step]? = some (.present y.note y.document) ∧
      kindAt? steps x.step = some kind ∧ x.decoration ∈ y.note.drawing y.document := by
  obtain ⟨hStep, -, hDrawn⟩ := Presenter.of_mem_placed hMem
  obtain ⟨hAt, hSame⟩ := of_activeOf? (x := y.toPresented)
    (by rw [← hFollows kind hKind, hy, Option.map_some])
  rw [← hStep] at hAt
  exact ⟨hStep, hAt, hSame ▸ kindAt?_of_present hAt, hDrawn⟩

theorem Follows.single (hFollows : Follows standing steps) : Single steps (standings standing) := by
  refine ⟨fun x hx => ?_, fun x hx x' hx' hKinds => ?_⟩
  · obtain ⟨kind, y, hKind, hy, hMem⟩ := of_mem_standings hx
    obtain ⟨-, hAt, -, hDrawn⟩ := hFollows.of_mem_placed hKind hy hMem
    exact ⟨_, _, hAt, hDrawn⟩
  · obtain ⟨kind, y, hKind, hy, hMem⟩ := of_mem_standings hx
    obtain ⟨kind', y', hKind', hy', hMem'⟩ := of_mem_standings hx'
    obtain ⟨hStep, -, hAt, -⟩ := hFollows.of_mem_placed hKind hy hMem
    obtain ⟨hStep', -, hAt', -⟩ := hFollows.of_mem_placed hKind' hy' hMem'
    obtain rfl := Option.some.inj (hAt.symm.trans (hKinds.trans hAt'))
    obtain rfl := Option.some.inj (hy.symm.trans hy')
    rw [hStep, hStep']

/-- What is left when a slot is emptied is of the other kind. -/
theorem Follows.kindAt?_ne (hFollows : Follows standing steps)
    (hMem : x ∈ standings (update standing kind none)) : kindAt? steps x.step ≠ some kind := by
  obtain ⟨other, y, hOther, hy, hPlaced⟩ := of_mem_standings hMem
  have hne : other ≠ kind := by
    rintro rfl
    exact absurd (Function.update_self (f := standing) .. ▸ hy) (by simp)
  rw [Function.update_of_ne hne] at hy
  obtain ⟨-, -, hAt, -⟩ := hFollows.of_mem_placed hOther hy hPlaced
  rw [hAt]
  exact fun h => hne (Option.some.inj h)

/-- In the middle of a step the surface is single, too. -/
theorem Faithful.single_between (hf : Faithful ids p issued log standing)
    (hFollows : Follows standing steps) (s : Step)
    (hPrefix : mid <+: (p.respond issued ids s).2.2.map (steps.length, ·)) :
    Single (steps ++ [s]) (surface (log ++ mid)) := by
  have hSingle : Single steps (surface log) := hFollows.single.subset hf.perm.subset
  -- Calls that apply nothing leave a part of what was there.
  have hRemoving : (∀ m id d, (m, .apply id d) ∉ mid) →
      Single (steps ++ [s]) (surface (log ++ mid)) := fun hNone =>
    (hSingle.subset (surface_subset hNone)).concat s
  cases s with
  | clear => exact hRemoving (apply_not_mem_part hPrefix fun _ _ => apply_not_mem_clearCalls)
  | alert message => exact hRemoving (apply_not_mem_part hPrefix (by simp [respond]))
  | present note document =>
    by_cases hKind : note.kind = .clear
    · refine hRemoving (apply_not_mem_part hPrefix fun _ _ => ?_)
      simp only [respond, Presenter.present, hKind, if_true]
      exact apply_not_mem_clearCalls
    cases hLine : document.hasLine note.line with
    | false =>
      refine hRemoving (apply_not_mem_part hPrefix fun _ d => ?_)
      simp only [respond, present_dropped hKind hLine]
      exact apply_not_mem_removeCalls _ d
    | true =>
      simp only [respond, present_shown hKind hLine, Annotation.decorations_eq hKind,
        List.map_append] at hPrefix
      rcases List.prefix_or_prefix_of_prefix hPrefix (List.prefix_append _ _) with hRemoves | hAll
      · exact hRemoving (apply_not_mem_part hRemoves fun _ => apply_not_mem_removeCalls _)
      · obtain ⟨applied, rfl⟩ := hAll
        have hApplied := (List.prefix_append_right_inj _).mp hPrefix
        have hEmpty := hf.empty hKind steps.length
        have hLeft : Single steps (surface
            (log ++ (Shown.removeCalls (p.shown? note.kind)).map (steps.length, ·))) :=
          hSingle.subset (surface_subset
            (apply_not_mem_part (List.prefix_refl _) fun _ => apply_not_mem_removeCalls _))
        refine hLeft.concat_present
          (fun x hx => hFollows.kindAt?_ne (hEmpty.perm.subset hx)) fun x hx => ?_
        rw [← List.append_assoc, surface_append] at hx
        refine (mem_foldl_place hx).imp_right fun hMem => ?_
        obtain ⟨hStep, -, hDrawn⟩ := of_apply_mem_applies (hApplied.subset hMem)
        exact ⟨hStep, hDrawn⟩

/-- What a presenter removes for a new annotation is what it held of the kind. -/
theorem remove_mem_present (hKind : note.kind ≠ .clear)
    (hMem : .remove id ∈ (p.present document issued note ids).calls) :
    .remove id ∈ Shown.removeCalls (p.shown? note.kind) := by
  cases hLine : document.hasLine note.line with
  | false => rwa [present_dropped hKind hLine] at hMem
  | true =>
    rw [present_shown hKind hLine] at hMem
    exact (List.mem_append.mp hMem).resolve_right (remove_not_mem_applyCalls _)

/-- Presenting touches nothing that was ever applied for the other kind. -/
theorem Faithful.apart (hIds : Function.Injective ids) (hf : Faithful ids p issued log standing)
    (hFollows : Follows standing steps) (hKind : note.kind ≠ .clear) {d : Decoration}
    (hApply : (n, .apply id d) ∈ log) (hOther : kindAt? steps n ≠ some note.kind) :
    .remove id ∉ (p.present document issued note ids).calls ∧
      ∀ e, .apply id e ∉ (p.present document issued note ids).calls := by
  constructor
  · intro hMem
    have hRemove := remove_mem_present hKind hMem
    rw [hf.shown _ hKind] at hRemove
    cases hy : standing note.kind with
    | none => exact absurd (hy ▸ hRemove) List.not_mem_nil
    | some y =>
      rw [hy] at hRemove
      obtain ⟨_, hName, hSame⟩ := List.mem_map.mp hRemove
      obtain rfl := SurfaceCall.remove.inj hSame
      have hNames : y.placed.map Placed.id = y.shown.decorations := map_id_placed y.drawn
      obtain ⟨x, hx, rfl⟩ := List.mem_map.mp (hNames ▸ hName)
      have hOn : x ∈ surface log := by
        refine (hf.perm_kind hKind).symm.subset (List.mem_append_left _ ?_)
        rw [hy]
        exact hx
      have hStep := hf.once n x.step x.id d x.decoration hApply (exists_apply_of_mem_surface hOn)
      exact hOther (hStep ▸ (hFollows.of_mem_placed hKind hy hx).2.2.1)
  · intro e hMem
    obtain ⟨m, hm, hId⟩ := exists_of_apply_mem_calls hMem
    obtain ⟨m', hm', hId'⟩ := hf.named n id d hApply
    exact Nat.not_lt.mpr hm' (hIds (hId.trans hId'.symm) ▸ hm)

theorem map_id_standings (hShown : ∀ kind, kind ≠ .clear →
    p.shown? kind = (standing kind).map Standing.shown) :
    (standings standing).map Placed.id = p.decorations := by
  have hOutput : p.output = (standing .output).map Standing.shown := hShown .output (by decide)
  have hError : p.error = (standing .error).map Standing.shown := hShown .error (by decide)
  rw [standings, List.map_append, map_id_slot, map_id_slot, ← hOutput, ← hError, decorations]

theorem map_drawn_standings (hFollows : Follows standing steps) :
    (standings standing).map (fun x => (x.step, x.decoration)) =
      (activeOf? .output steps).elim [] Presented.drawing ++
        (activeOf? .error steps).elim [] Presented.drawing := by
  have hSlot : ∀ z : Option Standing,
      (z.elim [] Standing.placed).map (fun x => (x.step, x.decoration)) =
        (z.map Standing.toPresented).elim [] Presented.drawing := by
    rintro (_ | y)
    · rfl
    · exact map_drawn_placed y.drawn
  rw [standings, List.map_append, hSlot, hSlot, hFollows .output (by decide),
    hFollows .error (by decide)]

end

/-! ### All steps -/

namespace Replay

section

variable {ids : Nat → Decoration.Id}

theorem run_concat (steps : List Step) (s : Step) :
    run ids (steps ++ [s]) = (run ids steps).step ids s := by
  rw [run, List.foldl_append]
  rfl

@[simp] theorem taken_run (steps : List Step) : (run ids steps).taken = steps.length := by
  induction steps using List.reverseRecOn with
  | nil => rfl
  | append_singleton steps s ih => rw [run_concat, List.length_append, ← ih]; rfl

theorem log_concat (steps : List Step) (s : Step) :
    (run ids (steps ++ [s])).log = (run ids steps).log ++
      ((run ids steps).presenter.respond (run ids steps).issued ids s).2.2.map
        (steps.length, ·) := by
  rw [run_concat, ← taken_run steps]
  rfl

theorem exists_faithful (hIds : Function.Injective ids) (steps : List Step) :
    ∃ standing, Follows standing steps ∧
      Faithful ids (run ids steps).presenter (run ids steps).issued (run ids steps).log
        standing := by
  induction steps using List.reverseRecOn with
  | nil => exact ⟨_, fun kind _ => rfl, .initial⟩
  | append_singleton steps s ih =>
    obtain ⟨standing, hFollows, hf⟩ := ih
    obtain ⟨standing', hFollows', hf'⟩ := hf.step hIds hFollows s
    refine ⟨standing', hFollows', ?_⟩
    rw [log_concat, run_concat]
    exact hf'

/-- At every moment, also in the middle of a step, the surface is single. -/
theorem single_before (hIds : Function.Injective ids) (steps : List Step)
    {before : List (Nat × SurfaceCall)} (hBefore : before <+: (run ids steps).log) :
    Single steps (surface before) := by
  induction steps using List.reverseRecOn generalizing before with
  | nil =>
    obtain rfl := List.prefix_nil.mp hBefore
    exact ⟨by simp [surface], by simp [surface]⟩
  | append_singleton steps s ih =>
    rw [log_concat] at hBefore
    rcases List.prefix_or_prefix_of_prefix hBefore (List.prefix_append _ _) with hEarlier | hLater
    · exact (ih hEarlier).concat s
    · obtain ⟨mid, rfl⟩ := hLater
      obtain ⟨standing, hFollows, hf⟩ := exists_faithful hIds steps
      exact hf.single_between hFollows s ((List.prefix_append_right_inj _).mp hBefore)

/-- **A presenter shows what the steps say, and its surface has the decorations of that**, each
drawn on the document that was presented with it.  At no moment are two annotations of a kind on the
surface, and presenting one touches nothing of the other kind.  An alert changes nothing, and all
that is cleared is what is on the surface. -/
theorem run_faithful (hIds : Function.Injective ids) (steps : List Step) :
    let r := run ids steps
    (∀ kind, kind ≠ .clear →
      r.presenter.active? kind = (activeOf? kind steps).map Presented.note) ∧
    ((surface r.log).map fun x => (x.step, x.decoration)).Perm
      ((activeOf? .output steps).elim [] Presented.drawing ++
        (activeOf? .error steps).elim [] Presented.drawing) ∧
    r.presenter.decorationCount = (surface r.log).length ∧
    (∀ before, before <+: r.log → Single steps (surface before)) ∧
    (∀ note document, note.kind ≠ .clear → ∀ n id d, (n, .apply id d) ∈ r.log →
      kindAt? steps n ≠ some note.kind →
        .remove id ∉ (r.presenter.present document r.issued note ids).calls ∧
        ∀ e, .apply id e ∉ (r.presenter.present document r.issued note ids).calls) ∧
    (∀ message, (run ids (steps ++ [.alert message])).presenter = r.presenter ∧
      (run ids (steps ++ [.alert message])).log = r.log ++ [(steps.length, .alert message)]) ∧
    ∃ removed : List Decoration.Id, removed.Perm ((surface r.log).map Placed.id) ∧
      (run ids (steps ++ [.clear])).log =
        r.log ++ removed.map fun id => (steps.length, .remove id) := by
  intro r
  obtain ⟨standing, hFollows, hf⟩ := exists_faithful hIds steps
  have hNames : ((surface r.log).map Placed.id).Perm r.presenter.decorations :=
    map_id_standings hf.shown ▸ hf.perm.map Placed.id
  refine ⟨fun kind hKind => ?_, ?_, ?_, fun before => single_before hIds steps,
    fun note document hKind n id d => hf.apart hIds hFollows hKind, fun message => ?_,
    r.presenter.decorations, hNames.symm, ?_⟩
  · rw [active?, hf.shown kind hKind, ← hFollows kind hKind, Option.map_map, Option.map_map]
    rfl
  · exact map_drawn_standings hFollows ▸ hf.perm.map _
  · rw [decorationCount, ← hNames.length_eq, List.length_map]
  · rw [log_concat, run_concat]
    exact ⟨rfl, rfl⟩
  · rw [log_concat, respond, clearCalls, removeCalls_eq, removeCalls_eq, ← List.map_append,
      List.map_map]
    rfl

end

/-- A failure, a result, a message, a failure without a text, a result for a line that is not there
and another result; the document has fewer lines in the end. -/
def redrawn : List Step :=
  [.present ⟨.error, 0, " boom ".toList, "red".toList⟩ ⟨"ab\nc".toList⟩,
    .present ⟨.output, 1, "3".toList, "green".toList⟩ ⟨"ab\nc".toList⟩,
    .alert "boom".toList,
    .present ⟨.error, 0, "  ".toList, "red".toList⟩ ⟨"x".toList⟩,
    .present ⟨.output, 1, "4".toList, "green".toList⟩ ⟨"x".toList⟩,
    .present ⟨.output, 0, "5".toList, "green".toList⟩ ⟨"xyz".toList⟩]

theorem run_faithful_redrawn :
    Function.Injective (· + 100) ∧
    (run (· + 100) redrawn).presenter.active? .error =
      some ⟨.error, 0, "  ".toList, "red".toList⟩ ∧
    ((surface (run (· + 100) redrawn).log).map fun x => (x.step, x.decoration)).Perm
      [(5, .inlineText 0 3 " # 5".toList "green".toList),
        (3, .highlight 0 0 1 "red".toList)] ∧
    (run (· + 100) redrawn).presenter.decorationCount = 2 ∧
    Single redrawn (surface ((run (· + 100) redrawn).log.take 5)) := by
  have hIds : Function.Injective (· + 100) := fun m n hSame => Nat.add_right_cancel hSame
  obtain ⟨hActive, hDrawn, hCount, hSingle, -⟩ := run_faithful hIds redrawn
  refine ⟨hIds, ?_, ?_, ?_, ?_⟩
  · rw [hActive .error (by decide)]
    decide
  · exact hDrawn
  · rw [hCount]
    decide
  · exact hSingle _ (List.take_prefix _ _)

end Replay

end Presenter

end LiveLine
