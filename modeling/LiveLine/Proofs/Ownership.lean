import LiveLine.Proofs.Disposal
import LiveLine.Proofs.Ledgers

/-!
# Who owns the decorations

On a surface that never gives a name twice, the decorations that were applied and not removed are
those that the presenters of the sessions in the host hold, each in one slot of one session.

* `Host.Move.effect`: what a move does to the decorations of a session.
* `Owned`: a session holds what is live of its own calls.
* `Host.Reachable.decorations_owned`: what that says of all calls to the surface.
-/

namespace LiveLine

/-- The call to the surface that an entry tells of. -/
def Happening.call? : Happening → Option SurfaceCall
  | called call => some call
  | _ => none

theorem filterMap_called (calls : List SurfaceCall) :
    (calls.map .called).filterMap Happening.call? = calls := by
  rw [List.filterMap_map]
  exact List.filterMap_some

theorem filterMap_supersededBy (s : Session) :
    (Host.supersededBy s).filterMap Happening.call? = [] := by
  unfold Host.supersededBy
  split <;> rfl

theorem filterMap_hearing (w : Setup) (issued : Nat) (s : Session) (f : Flight) :
    (s.hearing w issued f).filterMap Happening.call? =
      (s.presentation w issued f).calls ++ ((f.verdict w).alert.map .alert).toList := by
  unfold Session.hearing Host.fateEntries
  rw [List.cons_append, List.filterMap_cons_none rfl, List.filterMap_append, filterMap_called]
  congr 1
  cases (s.presentation w issued f).fate <;> cases (f.verdict w).alert <;> rfl

namespace Life

variable {l : Life}

/-- The calls that a session has made, the last one first. -/
def calls (l : Life) : List SurfaceCall := l.history.filterMap Happening.call?

/-- What a session has on the surface; nothing once it is gone. -/
def presenter (l : Life) : Presenter := (l.session.map Session.presenter).getD {}

@[simp] theorem calls_hold (s : Session) : (l.hold s).calls = l.calls := rfl
@[simp] theorem calls_leave : l.leave.calls = l.calls := rfl
@[simp] theorem calls_launch (f : Flight) : (l.launch f).calls = l.calls := rfl

theorem calls_record (es : List Happening) :
    (l.record es).calls = (es.filterMap Happening.call?).reverse ++ l.calls := by
  rw [calls, history_record, List.filterMap_append, List.filterMap_reverse, calls]

@[simp] theorem calls_supersede (w : Setup) (s : Session) : (l.supersede w s).calls = l.calls := by
  unfold supersede
  split
  · split <;> rfl
  · rfl

theorem calls_release (s : Session) :
    (l.release s).calls = s.presenter.clearCalls.reverse ++ l.calls := by
  have hParting : (parting s (l.newest? s)).filterMap Happening.call? =
      s.presenter.clearCalls := by
    unfold parting
    rw [List.filterMap_append, List.filterMap_append, List.filterMap_append,
      filterMap_supersededBy, filterMap_called]
    cases l.newest? s <;> simp [List.filterMap_cons, Happening.call?]
  rw [calls, history_release, ← history_record, ← calls, calls_record, hParting]

end Life

/-- What a move does to the decorations of a session: nothing, or they are removed, or a completed
run is presented. -/
inductive Effect (w : Setup) (h h' : Host) (l l' : Life) : Prop
  | same (hPresenter : l'.presenter = l.presenter) (hCalls : l'.calls = l.calls)
  | cleared (hPresenter : l'.presenter = {})
      (hCalls : l'.calls = l.presenter.clearCalls.reverse ++ l.calls)
  | heard {s : Session} (hs : l.session = some s) (f : Flight)
      (hPresenter : l'.presenter = (s.presentation w h.issued f).presenter)
      (hCalls : l'.calls = ((f.verdict w).alert.map SurfaceCall.alert).toList ++
        ((s.presentation w h.issued f).calls.reverse ++ l.calls))
      (hCount : h'.issued = (s.presentation w h.issued f).issued)

namespace Host.Move

variable {w : Setup} {h h' : Host} {l l' : Life}

theorem effect (hMove : Move w h h' l l') : Effect w h h' l l' := by
  have hHeld : ∀ {s : Session}, l.session = some s → l.presenter = s.presenter := by
    intro s hs
    rw [Life.presenter, hs]
    rfl
  cases hMove with
  | opened id snapshot => exact .same rfl rfl
  | edited hs snapshot => exact .same (hHeld hs).symm rfl
  | notified hs hDisposed =>
    refine .same (hHeld hs).symm ?_
    rw [Life.calls_hold, Life.calls_record, List.filterMap_append, filterMap_supersededBy]
    rfl
  | @fired l l' s hs pre hPre hFire =>
    have hCalls : (l.record pre).calls = l.calls := by
      rcases hPre with ⟨rfl, -⟩ | rfl
      · rfl
      · rw [Life.calls_record, filterMap_supersededBy]
        rfl
    cases hFire with
    | off => exact .same (hHeld hs).symm hCalls
    | started =>
      refine .same (hHeld hs).symm ?_
      rw [Life.calls_hold, Life.calls_launch, Life.calls_record, Life.calls_supersede]
      exact hCalls
    | rejected =>
      refine .cleared rfl ?_
      rw [Life.calls_hold, Life.calls_record, Life.calls_supersede, ← List.singleton_append,
        List.filterMap_append, filterMap_called, hHeld hs]
      exact congrArg _ hCalls
  | @completed l l' f hf hLanding =>
    cases hLanding with
    | ignored => exact .same rfl rfl
    | presented hs hDisposed hHeard hCount =>
      refine .heard hs f rfl ?_ hCount
      rw [Life.calls_hold, Life.calls_record, filterMap_hearing, List.reverse_append,
        List.append_assoc]
      cases (f.verdict w).alert <;> rfl
  | disposed hs =>
    refine .cleared rfl ?_
    rw [Life.calls_hold, Life.calls_release, hHeld hs]
  | left hs =>
    refine .cleared (by simp [Life.presenter]) ?_
    rw [Life.calls_leave, Life.calls_release, hHeld hs]

end Host.Move

/-- What a session holds is what is live of its calls. -/
abbrev Owned (w : Setup) (issued : Nat) (l : Life) : Prop :=
  Keeps w.ids issued l.presenter l.calls

namespace Effect

variable {w : Setup} {h h' : Host} {l l' : Life}

theorem owned (hIds : Function.Injective w.ids) (hIssued : h.issued ≤ h'.issued)
    (ho : Owned w h.issued l) (hEffect : Effect w h h' l l') : Owned w h'.issued l' := by
  cases hEffect with
  | same hPresenter hCalls =>
    rw [Owned, hPresenter, hCalls]
    exact ho.mono hIssued
  | cleared hPresenter hCalls =>
    rw [Owned, hPresenter, hCalls]
    exact ho.clear.mono hIssued
  | @heard s hs f hPresenter hCalls hCount =>
    rw [Owned, Life.presenter, hs] at ho
    rw [Owned, hPresenter, hCalls, hCount]
    have hKeeps := Keeps.present (p := s.presenter) hIds ho
      (Verdict.kind_ne_clear w.colors f.result f.request.targetLine)
      (Verdict.text_not_isAllBlank w.colors f.result f.request.targetLine) s.snapshot.document
    cases (f.verdict w).alert with
    | none => exact hKeeps
    | some message => exact hKeeps.alert message

/-- What is applied by a move has a new name. -/
theorem fresh (hEffect : Effect w h h' l l') {id : Decoration.Id} {d : Decoration}
    (hApply : .apply id d ∈ l'.calls) :
    .apply id d ∈ l.calls ∨ ∃ n, h.issued < n ∧ w.ids n = id := by
  cases hEffect with
  | same hPresenter hCalls => exact Or.inl (hCalls ▸ hApply)
  | cleared hPresenter hCalls =>
    rw [hCalls] at hApply
    refine Or.inl ((List.mem_append.mp hApply).resolve_left fun hMem => ?_)
    exact apply_not_mem_clearCalls (List.mem_reverse.mp hMem)
  | heard hs f hPresenter hCalls hCount =>
    rw [hCalls] at hApply
    rcases List.mem_append.mp hApply with hMem | hMem
    · cases hAlert : (f.verdict w).alert <;> simp [hAlert] at hMem
    · rcases List.mem_append.mp hMem with hMem | hMem
      · exact Or.inr (Presenter.exists_of_apply_mem_calls (List.mem_reverse.mp hMem))
      · exact Or.inl hMem

end Effect

/-! ### All sessions of a host -/

/-- The calls that entries tell of, of one session. -/
def callsOf (n : Nat) (entries : List Entry) : List SurfaceCall :=
  ((entries.filter (·.session = n)).map (·.event)).filterMap Happening.call?

theorem mem_callsOf {n : Nat} {entries : List Entry} {call : SurfaceCall} :
    call ∈ callsOf n entries ↔ ∃ x ∈ entries, x.session = n ∧ x.event = .called call := by
  have hCall : ∀ e : Happening, e.call? = some call ↔ e = .called call := by
    intro e
    cases e <;> simp [Happening.call?]
  simp [callsOf, hCall, and_assoc]

theorem mem_surfaceCalls {entries : List Entry} {id : EditorId} {call : SurfaceCall} :
    (id, call) ∈ surfaceCalls entries ↔
      ∃ x ∈ entries, x.editor = id ∧ x.event = .called call := by
  simp only [surfaceCalls, List.mem_filterMap]
  refine exists_congr fun x => and_congr_right fun _ => ?_
  cases hEvent : x.event <;> simp

/-- The entry that tells of a call, and those before and after it. -/
theorem exists_entry_of_surfaceCalls {entries : List Entry} {editor : EditorId}
    {call : SurfaceCall} {before after : List (EditorId × SurfaceCall)}
    (hCalls : surfaceCalls entries = before ++ (editor, call) :: after) :
    ∃ pre x post, entries = pre ++ x :: post ∧ surfaceCalls pre = before ∧ x.editor = editor ∧
      x.event = .called call := by
  obtain ⟨es, rest, rfl, hBefore, hRest⟩ := List.filterMap_eq_append_iff.mp hCalls
  obtain ⟨silent, x, post, rfl, hSilent, hx, -⟩ := List.filterMap_eq_cons_iff.mp hRest
  refine ⟨es ++ silent, x, post, (List.append_assoc ..).symm, ?_, ?_⟩
  · rw [surfaceCalls, List.filterMap_append, List.filterMap_eq_nil_iff.mpr hSilent,
      List.append_nil]
    exact hBefore
  · cases hEvent : x.event <;> simp_all

/-- A decoration that was applied for an editor and not removed. -/
def Live (calls : List (EditorId × SurfaceCall)) (editor : EditorId) (id : Decoration.Id) : Prop :=
  (∃ d, (editor, .apply id d) ∈ calls) ∧ ∀ other, (other, .remove id) ∉ calls

namespace Host

/-- All calls to the surface, in order, with the editor of each. -/
def calls (h : Host) : List (EditorId × SurfaceCall) := surfaceCalls h.journal.reverse

/-- No decoration is applied by two sessions. -/
def Apart (h : Host) : Prop :=
  ∀ n m id d d', .apply id d ∈ (h.life n).calls → .apply id d' ∈ (h.life m).calls → n = m

section

variable {owner : Nat → EditorId} {w : Setup} {h h' : Host} {s : Session}

theorem Turn.owned (hIds : Function.Injective w.ids) (hTurn : Turn w h h')
    (ho : ∀ n, Owned w h.issued (h.life n)) (ha : h.Apart) :
    (∀ n, Owned w h'.issued (h'.life n)) ∧ h'.Apart := by
  rcases hTurn.life with hSame | ⟨n, l', hMove, hLife⟩
  · simp only [Apart, hSame]
    exact ⟨fun n => (ho n).mono hTurn.issued, ha⟩
  · have hEffect := hMove.effect
    have hOther : ∀ m, m ≠ n → ∀ id d d', .apply id d ∈ l'.calls →
        .apply id d' ∉ (h.life m).calls := by
      intro m hm id d d' hd hd'
      rcases hEffect.fresh hd with hd | ⟨k, hk, hId⟩
      · exact hm (ha m n id d' d hd' hd)
      · obtain ⟨k', hk', hId'⟩ := (ho m).applied id d' hd'
        exact Nat.not_lt.mpr hk' (hIds (hId.trans hId'.symm) ▸ hk)
    refine ⟨fun m => ?_, fun m₁ m₂ id d d' hd hd' => ?_⟩
    · rw [hLife]
      by_cases hm : m = n
      · subst hm
        rw [Function.update_self]
        exact hEffect.owned hIds hTurn.issued (ho m)
      · rw [Function.update_of_ne hm]
        exact (ho m).mono hTurn.issued
    · rw [hLife] at hd hd'
      by_cases h₁ : m₁ = n <;> by_cases h₂ : m₂ = n
      · exact h₁.trans h₂.symm
      · rw [h₁, Function.update_self] at hd
        rw [Function.update_of_ne h₂] at hd'
        exact absurd hd' (hOther m₂ h₂ id d d' hd)
      · rw [Function.update_of_ne h₁] at hd
        rw [h₂, Function.update_self] at hd'
        exact absurd hd (hOther m₁ h₁ id d' d hd')
      · rw [Function.update_of_ne h₁] at hd
        rw [Function.update_of_ne h₂] at hd'
        exact ha m₁ m₂ id d d' hd hd'

/-- In every reachable state each session holds what is live of its calls, and no decoration is
applied by two sessions. -/
theorem Reachable.owned (hIds : Function.Injective w.ids) (hr : Reachable w h) :
    (∀ n, Owned w h.issued (h.life n)) ∧ h.Apart :=
  Leads.induct (I := fun h => (∀ n, Owned w h.issued (h.life n)) ∧ h.Apart)
    ⟨fun _ => 0, Sound.initial⟩
    ⟨fun _ => Keeps.initial, fun _ _ _ _ _ hd => absurd hd List.not_mem_nil⟩
    (fun _ ho hTurn => hTurn.owned hIds ho.1 ho.2) hr

theorem Reachable.presenter_of_disposed (hr : Reachable w h) (hm : s ∈ h.sessions)
    (hDisposed : s.disposed = true) : s.presenter = {} := by
  rw [← hr.closed_of_disposed hm hDisposed]
  rfl

/-- The calls for an editor are those of its sessions. -/
theorem Sound.mem_calls (hs : Sound owner h) {id : EditorId} {call : SurfaceCall} :
    (id, call) ∈ h.calls ↔ ∃ n, owner n = id ∧ call ∈ (h.life n).calls := by
  rw [calls, mem_surfaceCalls]
  constructor
  · rintro ⟨x, hx, rfl, hEvent⟩
    have hEntry := List.mem_reverse.mp hx
    exact ⟨x.session, (hs.entry x hEntry).2.symm, mem_callsOf.mpr ⟨x, hEntry, rfl, hEvent⟩⟩
  · rintro ⟨n, rfl, hCall⟩
    obtain ⟨x, hx, rfl, hEvent⟩ := mem_callsOf.mp hCall
    exact ⟨x, List.mem_reverse.mpr hx, (hs.entry x hx).2, hEvent⟩

/-- A session that is gone holds nothing. -/
theorem mem_presenter_life {n : Nat} {id : Decoration.Id} :
    id ∈ (h.life n).presenter.decorations ↔
      ∃ s, h.numbered? n = some s ∧ id ∈ s.presenter.decorations := by
  rw [Life.presenter, show (h.life n).session = h.numbered? n from rfl]
  cases h.numbered? n with
  | none => simp [Presenter.decorations]
  | some s => simp

/-- What is removed by one session is not applied by another. -/
theorem Sound.live_iff (hs : Sound owner h) (ho : ∀ n, Owned w h.issued (h.life n)) (ha : h.Apart)
    {editor : EditorId} {id : Decoration.Id} :
    Live h.calls editor id ↔ ∃ n, owner n = editor ∧ IsLive (h.life n).calls id := by
  constructor
  · rintro ⟨⟨d, hd⟩, hRemove⟩
    obtain ⟨n, hn, hd⟩ := hs.mem_calls.mp hd
    exact ⟨n, hn, ⟨d, hd⟩, fun hMem => hRemove (owner n) (hs.mem_calls.mpr ⟨n, rfl, hMem⟩)⟩
  · rintro ⟨n, hn, ⟨d, hd⟩, hRemove⟩
    refine ⟨⟨d, hs.mem_calls.mpr ⟨n, hn, hd⟩⟩, fun other hMem => ?_⟩
    obtain ⟨m, -, hMem⟩ := hs.mem_calls.mp hMem
    obtain ⟨d', hd'⟩ := (ho m).orderly.exists_apply hMem
    exact hRemove (ha m n id d' d hd' hd ▸ hMem)

theorem Reachable.live_iff (hIds : Function.Injective w.ids) (hr : Reachable w h)
    {editor : EditorId} {id : Decoration.Id} :
    Live h.calls editor id ↔
      ∃ s ∈ h.sessions, s.editor = editor ∧ id ∈ s.presenter.decorations := by
  obtain ⟨owner, hs⟩ := hr.sound
  obtain ⟨ho, ha⟩ := hr.owned hIds
  rw [hs.live_iff ho ha]
  constructor
  · rintro ⟨n, rfl, hLive⟩
    obtain ⟨s, hSome, hMem⟩ := mem_presenter_life.mp (((ho n).live id).mp hLive)
    obtain ⟨hm, rfl⟩ := hs.numbered?_eq_some.mp hSome
    exact ⟨s, hm, (hs.known s hm).editor_eq, hMem⟩
  · rintro ⟨s, hm, rfl, hMem⟩
    refine ⟨s.number, (hs.known s hm).editor_eq.symm, ((ho s.number).live id).mpr ?_⟩
    exact mem_presenter_life.mpr ⟨s, hs.life_session hm, hMem⟩

/-- Each decoration is held in one slot of one session. -/
theorem Reachable.nodup_decorations (hIds : Function.Injective w.ids) (hr : Reachable w h) :
    (h.sessions.flatMap (·.presenter.decorations)).Nodup := by
  obtain ⟨owner, hs⟩ := hr.sound
  obtain ⟨ho, ha⟩ := hr.owned hIds
  have hLive : ∀ s ∈ h.sessions, ∀ id ∈ s.presenter.decorations,
      IsLive (h.life s.number).calls id := fun s hm id hid =>
    ((ho s.number).live id).mpr (mem_presenter_life.mpr ⟨s, hs.life_session hm, hid⟩)
  refine List.nodup_flatMap.mpr ⟨fun s hm => ?_, hs.sorted.imp_of_mem ?_⟩
  · have hNodup := (ho s.number).nodup
    rwa [Life.presenter, hs.life_session hm] at hNodup
  · intro s t hm ht hlt id hid hid'
    obtain ⟨⟨d, hd⟩, -⟩ := hLive s hm id hid
    obtain ⟨⟨d', hd'⟩, -⟩ := hLive t ht id hid'
    have hSame := hs.eq_of_number hm ht (ha _ _ id d d' hd hd')
    exact absurd (congrArg Session.editor hSame) (Nat.ne_of_lt hlt)

/-- A call to the surface among the calls of the session that makes it.  Earlier calls are earlier
calls of this session, or those of another one. -/
theorem Sound.exists_life_split (hs : Sound owner h)
    {before after : List (EditorId × SurfaceCall)} {editor : EditorId} {call : SurfaceCall}
    (hCalls : h.calls = before ++ (editor, call) :: after) :
    ∃ n earlier later, (h.life n).calls = later ++ call :: earlier ∧
      (∀ c ∈ earlier, (editor, c) ∈ before) ∧
      ∀ other c, (other, c) ∈ before → c ∈ earlier ∨ ∃ m, m ≠ n ∧ c ∈ (h.life m).calls := by
  obtain ⟨pre, x, post, hEntries, rfl, rfl, hEvent⟩ := exists_entry_of_surfaceCalls hCalls
  have hJournal : h.journal = post.reverse ++ x :: pre.reverse := by
    rw [← List.reverse_reverse h.journal, hEntries]
    simp
  have hLife : (h.life x.session).calls =
      callsOf x.session post.reverse ++ call :: callsOf x.session pre.reverse := by
    rw [show (h.life x.session).calls = callsOf x.session h.journal from rfl, hJournal]
    simp [callsOf, List.filter_append, hEvent, Happening.call?]
  have hMem : ∀ y ∈ pre.reverse, y ∈ h.journal := fun y hy =>
    hJournal ▸ List.mem_append_right _ (List.mem_cons_of_mem x hy)
  refine ⟨x.session, _, _, hLife, fun c hc => ?_, fun other c hc => ?_⟩
  · obtain ⟨y, hy, hOwn, hCall⟩ := mem_callsOf.mp hc
    refine mem_surfaceCalls.mpr ⟨y, List.mem_reverse.mp hy, ?_, hCall⟩
    rw [(hs.entry y (hMem y hy)).2, hOwn, (hs.entry x (by simp [hJournal])).2]
  · obtain ⟨y, hy, -, hCall⟩ := mem_surfaceCalls.mp hc
    have hy := List.mem_reverse.mpr hy
    by_cases hOwn : y.session = x.session
    · exact Or.inl (mem_callsOf.mpr ⟨y, hy, hOwn, hCall⟩)
    · exact Or.inr ⟨y.session, hOwn, mem_callsOf.mpr ⟨y, hMem y hy, rfl, hCall⟩⟩

/-- What is removed was live, for the same editor. -/
theorem Reachable.live_of_remove (hIds : Function.Injective w.ids) (hr : Reachable w h)
    {before after : List (EditorId × SurfaceCall)} {editor : EditorId} {id : Decoration.Id}
    (hCalls : h.calls = before ++ (editor, .remove id) :: after) : Live before editor id := by
  obtain ⟨owner, hs⟩ := hr.sound
  obtain ⟨ho, ha⟩ := hr.owned hIds
  obtain ⟨n, earlier, later, hLife, hEarlier, hBefore⟩ := hs.exists_life_split hCalls
  have hOrderly := (ho n).orderly
  rw [hLife] at hOrderly
  obtain ⟨⟨d, hd⟩, hOnce⟩ := hOrderly.of_append.1
  refine ⟨⟨d, hEarlier _ hd⟩, fun other hMem => ?_⟩
  rcases hBefore other _ hMem with hMem | ⟨m, hm, hMem⟩
  · exact hOnce hMem
  · -- a session that has removed the decoration has applied it, so it is this session
    obtain ⟨d', hd'⟩ := (ho m).orderly.exists_apply hMem
    refine hm (ha m n id d' d hd' ?_)
    rw [hLife]
    exact List.mem_append_right _ (List.mem_cons_of_mem _ hd)

/-- What is applied was not applied before, for any editor. -/
theorem Reachable.not_mem_of_apply (hIds : Function.Injective w.ids) (hr : Reachable w h)
    {before after : List (EditorId × SurfaceCall)} {editor : EditorId} {id : Decoration.Id}
    {d : Decoration} (hCalls : h.calls = before ++ (editor, .apply id d) :: after)
    (other : EditorId) (d' : Decoration) : (other, .apply id d') ∉ before := by
  obtain ⟨owner, hs⟩ := hr.sound
  obtain ⟨ho, ha⟩ := hr.owned hIds
  obtain ⟨n, earlier, later, hLife, -, hBefore⟩ := hs.exists_life_split hCalls
  have hOrderly := (ho n).orderly
  rw [hLife] at hOrderly
  intro hMem
  rcases hBefore other _ hMem with hMem | ⟨m, hm, hMem⟩
  · exact hOrderly.of_append.1 d' hMem
  · refine hm (ha m n id d' d hMem ?_)
    rw [hLife]
    exact List.mem_append_right _ (List.mem_cons_self ..)

/-- After its end a session holds nothing, and nothing of it is live. -/
theorem Disposal.holds_nothing (hIds : Function.Injective w.ids) (hr : Reachable w h)
    (hm : s ∈ h.sessions) (hd : Disposal w h s.editor h') {g : Host} (hl : Leads w h' g) :
    (∀ t ∈ g.sessions, t.number = s.number → t.presenter.decorations = []) ∧
      ∀ id, ¬ IsLive (g.life s.number).calls id := by
  obtain ⟨owner, hs⟩ := hr.sound
  have hs' : ∃ owner, Sound owner h' := (hd.leads hs).sound ⟨owner, hs⟩
  have hg : Reachable w g := (hr.trans (hd.leads hs)).trans hl
  have hEnded : Ended (g.life s.number) := hl.ended hs' (hd.remains hs hm).ended
  obtain ⟨owner', hg'⟩ := hg.sound
  have hNothing : ∀ t ∈ g.sessions, t.number = s.number → t.presenter.decorations = [] := by
    intro t ht hn
    rw [hg.presenter_of_disposed ht (hEnded.disposed t (hn ▸ hg'.life_session ht))]
    rfl
  refine ⟨hNothing, fun id hLive => ?_⟩
  obtain ⟨t, hSome, hMem⟩ := mem_presenter_life.mp ((((hg.owned hIds).1 s.number).live id).mp hLive)
  obtain ⟨ht, hn⟩ := hg'.numbered?_eq_some.mp hSome
  rw [hNothing t ht hn] at hMem
  exact List.not_mem_nil hMem

/-- **The decorations on the surface are those that sessions hold.**  On a surface that never gives
a name twice, a decoration is live just where a session of its editor holds it, and it is held in
one slot of one session.  What is removed was live, for the same editor.  An error is drawn with a
highlight and a text, and an output with a text.  After the end of a session nothing of it is
live. -/
theorem Reachable.decorations_owned (hIds : Function.Injective w.ids) (hr : Reachable w h) :
    (∀ editor id, Live h.calls editor id ↔
      ∃ s ∈ h.sessions, s.editor = editor ∧ id ∈ s.presenter.decorations) ∧
    (h.sessions.flatMap (·.presenter.decorations)).Nodup ∧
    (∀ before after editor id, h.calls = before ++ (editor, .remove id) :: after →
      Live before editor id) ∧
    (∀ s ∈ h.sessions, ∀ kind shown, s.presenter.shown? kind = some shown →
      Draws (h.life s.number).calls kind shown.decorations) ∧
    (∀ s ∈ h.sessions, ∀ h' g, Disposal w h s.editor h' → Leads w h' g →
      (∀ t ∈ g.sessions, t.number = s.number → t.presenter.decorations = []) ∧
        ∀ id, ¬ IsLive (g.life s.number).calls id) := by
  refine ⟨fun _ _ => hr.live_iff hIds, hr.nodup_decorations hIds,
    fun _ _ _ _ hCalls => hr.live_of_remove hIds hCalls, fun s hm kind shown hShown => ?_,
    fun _ hm _ _ hd hl => hd.holds_nothing hIds hr hm hl⟩
  obtain ⟨owner, hs⟩ := hr.sound
  refine ((hr.owned hIds).1 s.number).draws kind shown ?_
  rw [Life.presenter, hs.life_session hm]
  exact hShown

/-- Two overlapping runs have completed, and the text of the second has replaced that of the
first. -/
def replaced : Host := overlapping.step (sample fun _ => 1000) (.advance 1000)

theorem decorations_owned_replaced :
    Function.Injective (sample fun _ => 1000).ids ∧ ∃ s ∈ replaced.sessions,
      Live replaced.calls s.editor 2 ∧ ¬ Live replaced.calls s.editor 1 ∧
        ∀ id, ¬ IsLive ((replaced.dispose s.editor).life s.number).calls id := by
  have hIds : Function.Injective (sample fun _ => 1000).ids := fun _ _ h => h
  have hr : Reachable (sample fun _ => 1000) replaced :=
    reachable_overlapping.trans (.step (Reachable.sound reachable_overlapping) _)
  obtain ⟨hLive, -, -, -, hEnd⟩ := Reachable.decorations_owned hIds hr
  obtain ⟨s, hm, hHeld⟩ : ∃ s ∈ replaced.sessions, s.presenter.decorations = [2] := by decide
  have hOnly : ∀ t ∈ replaced.sessions, t.presenter.decorations = [2] := by decide
  refine ⟨hIds, s, hm, (hLive _ _).mpr ⟨s, hm, rfl, by simp [hHeld]⟩, fun hFirst => ?_,
    (hEnd s hm _ _ .disposed .refl).2⟩
  obtain ⟨t, ht, -, hMem⟩ := (hLive _ _).mp hFirst
  simp [hOnly t ht] at hMem

end

end Host

end LiveLine
