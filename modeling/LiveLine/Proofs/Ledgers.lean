import LiveLine.Proofs.Presenting
import Mathlib.Data.List.Nodup
import Mathlib.Logic.Function.Basic

/-!
# Ledgers of decorations

What a presenter has on the surface can be read off the calls that it has made.  Calls are listed
with the last one first, and the surface names the `n`-th decoration that is applied to it `ids n`,
never giving a name twice.

* `IsLive`: a decoration was applied and not removed.
* `Orderly`: nothing is applied twice, and what is removed is live.
* `Keeps`: the live decorations of an orderly list of calls are those that the presenter keeps.
* `Keeps.clear`, `Keeps.present`: a presenter goes on to keep what is live.
-/

namespace LiveLine

def IsLive (calls : List SurfaceCall) (id : Decoration.Id) : Prop :=
  (∃ d, .apply id d ∈ calls) ∧ .remove id ∉ calls

/-- Nothing is applied twice, and what is removed is live. -/
def Orderly : List SurfaceCall → Prop
  | [] => True
  | .apply id _ :: calls => (∀ d, .apply id d ∉ calls) ∧ Orderly calls
  | .remove id :: calls => IsLive calls id ∧ Orderly calls
  | .alert _ :: calls => Orderly calls

section

variable {calls : List SurfaceCall} {id : Decoration.Id} {ids : Nat → Decoration.Id} {issued : Nat}

theorem isLive_removes (removed : List Decoration.Id) :
    IsLive ((removed.map .remove).reverse ++ calls) id ↔ IsLive calls id ∧ id ∉ removed := by
  simp only [IsLive, List.mem_append, List.mem_reverse, List.mem_map, reduceCtorEq, and_false,
    exists_false, false_or, SurfaceCall.remove.injEq, exists_eq_right, not_or]
  exact ⟨fun h => ⟨⟨h.1, h.2.2⟩, h.2.1⟩, fun h => ⟨h.1.1, h.2, h.1.2⟩⟩

namespace Orderly

theorem of_append {before : List SurfaceCall} (ho : Orderly (before ++ calls)) : Orderly calls := by
  induction before with
  | nil => exact ho
  | cons c before ih =>
    cases c with
    | apply id d => exact ih ho.2
    | remove id => exact ih ho.2
    | alert message => exact ih ho

/-- What is removed was applied before. -/
theorem exists_apply (ho : Orderly calls) (hRemove : .remove id ∈ calls) :
    ∃ d, .apply id d ∈ calls := by
  obtain ⟨before, after, rfl⟩ := List.append_of_mem hRemove
  obtain ⟨d, hd⟩ := (of_append ho).1.1
  exact ⟨d, List.mem_append_right _ (List.mem_cons_of_mem _ hd)⟩

theorem removes (ho : Orderly calls) {removed : List Decoration.Id} (hNodup : removed.Nodup)
    (hLive : ∀ id ∈ removed, IsLive calls id) :
    Orderly ((removed.map .remove).reverse ++ calls) := by
  induction removed generalizing calls with
  | nil => exact ho
  | cons id removed ih =>
    obtain ⟨hNew, hNodup⟩ := List.nodup_cons.mp hNodup
    rw [List.map_cons, List.reverse_cons, List.append_assoc, List.singleton_append]
    refine ih ⟨hLive id (List.mem_cons_self ..), ho⟩ hNodup fun j hj => ?_
    obtain ⟨⟨d, hd⟩, hRemove⟩ := hLive j (List.mem_cons_of_mem id hj)
    refine ⟨⟨d, List.mem_cons_of_mem _ hd⟩, fun hMem => ?_⟩
    rcases List.mem_cons.mp hMem with hSame | hMem
    · exact hNew (SurfaceCall.remove.inj hSame ▸ hj)
    · exact hRemove hMem

end Orderly

theorem exists_mem_applyCalls {drawn : List Decoration} :
    (∃ d, .apply id d ∈ applyCalls ids issued drawn) ↔
      id ∈ (List.range' (issued + 1) drawn.length).map ids := by
  induction drawn generalizing issued with
  | nil => simp [applyCalls]
  | cons d drawn ih =>
    simp only [applyCalls, List.mem_cons, SurfaceCall.apply.injEq, List.length_cons,
      List.range'_succ, List.map_cons, ← ih, exists_or]
    simp

theorem remove_not_mem_applyCalls (drawn : List Decoration) :
    .remove id ∉ applyCalls ids issued drawn := by
  induction drawn generalizing issued with
  | nil => simp [applyCalls]
  | cons d drawn ih => simp [applyCalls, ih]

theorem apply_not_mem_removeCalls (s : Option Shown) (d : Decoration) :
    .apply id d ∉ Shown.removeCalls s := by
  cases s <;> simp [Shown.removeCalls]

theorem apply_not_mem_clearCalls {p : Presenter} {d : Decoration} : .apply id d ∉ p.clearCalls := by
  simp [Presenter.clearCalls, apply_not_mem_removeCalls]

/-- Decorations whose names are new are applied. -/
theorem Orderly.applies (hIds : Function.Injective ids) (ho : Orderly calls)
    (hNew : ∀ n d, issued < n → .apply (ids n) d ∉ calls) (drawn : List Decoration) :
    Orderly ((applyCalls ids issued drawn).reverse ++ calls) := by
  induction drawn generalizing issued calls with
  | nil => exact ho
  | cons d drawn ih =>
    rw [applyCalls, List.reverse_cons, List.append_assoc, List.singleton_append]
    refine ih ⟨fun d => hNew _ d (Nat.lt_succ_self _), ho⟩ fun n e hn hMem => ?_
    rcases List.mem_cons.mp hMem with hSame | hMem
    · exact Nat.ne_of_gt hn (hIds (SurfaceCall.apply.inj hSame).1)
    · exact hNew n e (Nat.lt_of_succ_lt hn) hMem

theorem isLive_applies (hNew : ∀ n, issued < n → .remove (ids n) ∉ calls)
    (drawn : List Decoration) :
    IsLive ((applyCalls ids issued drawn).reverse ++ calls) id ↔
      IsLive calls id ∨ id ∈ (List.range' (issued + 1) drawn.length).map ids := by
  rw [← exists_mem_applyCalls]
  simp only [IsLive, List.mem_append, List.mem_reverse, remove_not_mem_applyCalls, false_or,
    exists_or]
  constructor
  · rintro ⟨hApply | hApply, hRemove⟩
    · exact Or.inr hApply
    · exact Or.inl ⟨hApply, hRemove⟩
  · rintro (⟨hApply, hRemove⟩ | hApply)
    · exact ⟨Or.inr hApply, hRemove⟩
    · refine ⟨Or.inl hApply, ?_⟩
      obtain ⟨n, hn, rfl⟩ := List.mem_map.mp (exists_mem_applyCalls.mp hApply)
      exact hNew n (Nat.lt_of_succ_le (List.mem_range'_1.mp hn).1)

end

/-! ### Presenters -/

/-- The decorations that draw an annotation of a kind: a highlight and a text for an error, a text
for an output. -/
def Draws (calls : List SurfaceCall) : Annotation.Kind → List Decoration.Id → Prop
  | .error, ids => ∃ i j, ids = [i, j] ∧ (∃ d, d.isHighlight = true ∧ .apply i d ∈ calls) ∧
      ∃ d, d.isHighlight = false ∧ .apply j d ∈ calls
  | .output, ids => ∃ j, ids = [j] ∧ ∃ d, d.isHighlight = false ∧ .apply j d ∈ calls
  | .clear, _ => False

theorem Draws.mono {calls calls' : List SurfaceCall} {kind : Annotation.Kind}
    {ids : List Decoration.Id} (hSub : calls ⊆ calls') (hd : Draws calls kind ids) :
    Draws calls' kind ids := by
  cases kind with
  | output =>
    obtain ⟨j, hj, d, hText, hApply⟩ := hd
    exact ⟨j, hj, d, hText, hSub hApply⟩
  | error =>
    obtain ⟨i, j, hij, ⟨d, hHighlight, hd⟩, e, hText, he⟩ := hd
    exact ⟨i, j, hij, ⟨d, hHighlight, hSub hd⟩, e, hText, hSub he⟩
  | clear => exact hd

/-- A new annotation of a verdict is drawn as its kind is. -/
theorem draws_applyCalls (ids : Nat → Decoration.Id) (issued : Nat) (d : Document) {a : Annotation}
    (hKind : a.kind ≠ .clear) (hText : a.text.isAllBlank = false) :
    Draws (applyCalls ids issued (a.decorations d)) a.kind
      ((List.range' (issued + 1) (a.decorations d).length).map ids) := by
  cases hk : a.kind with
  | output =>
    simp only [hk, hText, Annotation.decorations]
    exact ⟨_, rfl, _, rfl, List.mem_cons_self ..⟩
  | error =>
    simp only [hk, hText, Annotation.decorations]
    exact ⟨_, _, rfl, ⟨_, rfl, List.mem_cons_self ..⟩, _, rfl,
      List.mem_cons_of_mem _ (List.mem_cons_self ..)⟩
  | clear => exact absurd hk hKind

/-- The live decorations of an orderly list of calls are those that a presenter keeps, each once,
and each of its slots is drawn. -/
structure Keeps (ids : Nat → Decoration.Id) (issued : Nat) (p : Presenter)
    (calls : List SurfaceCall) : Prop where
  orderly : Orderly calls
  applied : ∀ id d, .apply id d ∈ calls → ∃ n ≤ issued, ids n = id
  live : ∀ id, IsLive calls id ↔ id ∈ p.decorations
  nodup : p.decorations.Nodup
  draws : ∀ kind x, p.shown? kind = some x → Draws calls kind x.decorations

namespace Presenter

variable {p : Presenter} {kind : Annotation.Kind}

theorem put_shown? (p : Presenter) (kind : Annotation.Kind) : p.put kind (p.shown? kind) = p := by
  cases kind <;> rfl

theorem put_put (p : Presenter) (kind : Annotation.Kind) (s t : Option Shown) :
    (p.put kind s).put kind t = p.put kind t := by
  cases kind <;> rfl

/-- What a presenter keeps in one slot, and what it keeps in the other. -/
theorem decorations_put (hKind : kind ≠ .clear) (s : Option Shown) :
    (p.put kind s).decorations.Perm
      ((s.map Shown.decorations).getD [] ++ (p.put kind none).decorations) := by
  cases kind with
  | output => exact .refl _
  | error =>
    simp only [decorations, put, Option.map_none, Option.getD_none, List.append_nil]
    exact List.perm_append_comm
  | clear => exact absurd rfl hKind

/-- What a presenter applies has a new name. -/
theorem exists_of_apply_mem_calls {d : Document} {issued : Nat} {a : Annotation}
    {ids : Nat → Decoration.Id} {id : Decoration.Id} {e : Decoration}
    (hApply : .apply id e ∈ (p.present d issued a ids).calls) : ∃ n, issued < n ∧ ids n = id := by
  unfold present at hApply
  split at hApply
  · exact absurd hApply apply_not_mem_clearCalls
  · dsimp only at hApply
    split at hApply
    · have hNew := (List.mem_append.mp hApply).resolve_left (apply_not_mem_removeCalls _ e)
      obtain ⟨n, hn, hId⟩ := List.mem_map.mp (exists_mem_applyCalls.mp ⟨e, hNew⟩)
      exact ⟨n, Nat.lt_of_succ_le (List.mem_range'_1.mp hn).1, hId⟩
    · exact absurd hApply (apply_not_mem_removeCalls _ e)

end Presenter

theorem removeCalls_eq (s : Option Shown) :
    Shown.removeCalls s = ((s.map Shown.decorations).getD []).map .remove := by
  cases s <;> rfl

namespace Keeps

variable {ids : Nat → Decoration.Id} {issued : Nat} {p : Presenter} {calls : List SurfaceCall}
  {kind : Annotation.Kind}

theorem initial : Keeps ids issued {} [] := by
  constructor
  · trivial
  · simp
  · simp [IsLive, Presenter.decorations]
  · simp [Presenter.decorations]
  · intro kind x hx
    cases kind <;> simp [Presenter.shown?] at hx

theorem mono (hk : Keeps ids issued p calls) {issued' : Nat} (hle : issued ≤ issued') :
    Keeps ids issued' p calls :=
  { hk with
    applied := fun id d hd => by
      obtain ⟨n, hn, hId⟩ := hk.applied id d hd
      exact ⟨n, Nat.le_trans hn hle, hId⟩ }

theorem alert (hk : Keeps ids issued p calls) (message : Text) :
    Keeps ids issued p (.alert message :: calls) where
  orderly := hk.orderly
  applied := fun id d hd => hk.applied id d (by simpa using hd)
  live := fun id => by
    rw [← hk.live id]
    simp [IsLive]
  nodup := hk.nodup
  draws := fun kind x hx => (hk.draws kind x hx).mono (List.subset_cons_self ..)

/-- A slot is emptied. -/
theorem empty (hk : Keeps ids issued p calls) (hKind : kind ≠ .clear) :
    Keeps ids issued (p.put kind none) ((Shown.removeCalls (p.shown? kind)).reverse ++ calls) := by
  have hPerm := Presenter.decorations_put (p := p) hKind (p.shown? kind)
  rw [Presenter.put_shown?] at hPerm
  have hNodup := hPerm.nodup_iff.mp hk.nodup
  obtain ⟨hSlot, hRest, hApart⟩ := List.nodup_append.mp hNodup
  have hLive : ∀ id, IsLive calls id ↔
      id ∈ ((p.shown? kind).map Shown.decorations).getD [] ∨ id ∈ (p.put kind none).decorations :=
    fun id => by rw [hk.live id, hPerm.mem_iff, List.mem_append]
  have hSub : calls ⊆ (Shown.removeCalls (p.shown? kind)).reverse ++ calls :=
    List.subset_append_right ..
  rw [removeCalls_eq] at hSub ⊢
  refine ⟨hk.orderly.removes hSlot fun id hid => (hLive id).mpr (Or.inl hid), fun id d hd => ?_,
    fun id => ?_, hRest, fun other x hx => ?_⟩
  · exact hk.applied id d (by simpa using hd)
  · rw [isLive_removes, hLive id]
    constructor
    · rintro ⟨hid | hid, hOut⟩
      · exact absurd hid hOut
      · exact hid
    · exact fun hid => ⟨Or.inr hid, fun hIn => hApart _ hIn _ hid rfl⟩
  · by_cases hOther : other = kind
    · subst hOther
      rw [Presenter.shown?_put_self hKind] at hx
      exact absurd hx (by simp)
    · rw [Presenter.shown?_put_of_ne hOther] at hx
      exact (hk.draws other x hx).mono hSub

/-- An empty slot is filled with an annotation that is drawn with new decorations. -/
theorem fill (hIds : Function.Injective ids) (hk : Keeps ids issued p calls) {a : Annotation}
    (hKind : a.kind ≠ .clear) (hText : a.text.isAllBlank = false) (hEmpty : p.shown? a.kind = none)
    (d : Document) :
    Keeps ids (issued + (a.decorations d).length)
      (p.put a.kind (some ⟨a, (List.range' (issued + 1) (a.decorations d).length).map ids⟩))
      ((applyCalls ids issued (a.decorations d)).reverse ++ calls) := by
  have hRest : p.put a.kind none = p := by rw [← hEmpty, Presenter.put_shown?]
  have hPerm := Presenter.decorations_put (p := p) hKind
    (some ⟨a, (List.range' (issued + 1) (a.decorations d).length).map ids⟩)
  rw [hRest, Option.map_some, Option.getD_some] at hPerm
  have hNew : ∀ n e, issued < n → .apply (ids n) e ∉ calls := by
    intro n e hn hMem
    obtain ⟨m, hm, hSame⟩ := hk.applied _ e hMem
    exact Nat.not_lt.mpr hm (hIds hSame ▸ hn)
  have hNewRemove : ∀ n, issued < n → .remove (ids n) ∉ calls := by
    intro n hn hMem
    obtain ⟨e, he⟩ := hk.orderly.exists_apply hMem
    exact hNew n e hn he
  refine ⟨hk.orderly.applies hIds hNew _, fun id e he => ?_, fun id => ?_, ?_, fun other x hx => ?_⟩
  · rcases List.mem_append.mp he with he | he
    · obtain ⟨n, hn, hId⟩ := List.mem_map.mp
        (exists_mem_applyCalls.mp ⟨e, List.mem_reverse.mp he⟩)
      have hlt := (List.mem_range'_1.mp hn).2
      exact ⟨n, by omega, hId⟩
    · exact (hk.mono (Nat.le_add_right ..)).applied id e he
  · rw [isLive_applies hNewRemove, hk.live id, hPerm.mem_iff, List.mem_append, or_comm]
  · refine hPerm.nodup_iff.mpr (List.nodup_append.mpr
      ⟨(List.nodup_range' ..).map hIds, hk.nodup, fun id hid id' hid' hSame => ?_⟩)
    obtain ⟨n, hn, rfl⟩ := List.mem_map.mp hid
    obtain ⟨⟨e, he⟩, -⟩ := (hk.live id').mpr hid'
    exact hNew n e (Nat.lt_of_succ_le (List.mem_range'_1.mp hn).1) (hSame ▸ he)
  · by_cases hOther : other = a.kind
    · subst hOther
      rw [Presenter.shown?_put_self hKind] at hx
      obtain rfl := Option.some.inj hx
      refine (draws_applyCalls ids issued d hKind hText).mono fun c hc => ?_
      exact List.mem_append_left _ (List.mem_reverse.mpr hc)
    · rw [Presenter.shown?_put_of_ne hOther] at hx
      exact (hk.draws other x hx).mono (List.subset_append_right ..)

/-- A presenter lets go of everything. -/
theorem clear (hk : Keeps ids issued p calls) :
    Keeps ids issued {} (p.clearCalls.reverse ++ calls) := by
  have hOutput : Annotation.Kind.output ≠ .clear := by decide
  have hError : Annotation.Kind.error ≠ .clear := by decide
  have hBoth := (hk.empty hOutput).empty hError
  rw [Presenter.shown?_put_of_ne (by decide), ← List.append_assoc, ← List.reverse_append] at hBoth
  exact hBoth

/-- A presenter goes on to keep what is live when it is handed an annotation that draws. -/
theorem present (hIds : Function.Injective ids) (hk : Keeps ids issued p calls) {a : Annotation}
    (hKind : a.kind ≠ .clear) (hText : a.text.isAllBlank = false) (d : Document) :
    Keeps ids (p.present d issued a ids).issued (p.present d issued a ids).presenter
      ((p.present d issued a ids).calls.reverse ++ calls) := by
  have hEmpty := hk.empty hKind
  cases hLine : d.hasLine a.line with
  | false =>
    rw [Presenter.present_dropped hKind hLine]
    exact hEmpty
  | true =>
    have hFill := hEmpty.fill hIds hKind hText (Presenter.shown?_put_self hKind none) d
    rw [Presenter.put_put, ← List.append_assoc, ← List.reverse_append] at hFill
    rw [Presenter.present_shown hKind hLine]
    exact hFill

end Keeps

end LiveLine
