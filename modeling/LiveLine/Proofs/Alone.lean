import LiveLine.Proofs.Starts
import LiveLine.Proofs.Timing
import LiveLine.Proofs.Views

/-!
# An editor by itself

What can be told without names of the part of an editor changes in a host that has other editors as
it does in a host that has this editor alone, as long as the runs of the editor come out the same.

* `Sound.view_treat`: the same is made of equal views by what is done to the editor.
* `Sound.view_perform`: the same is made of them by what is due for the editor.
* `Sound.view_advanceTo`: the same is made of them by the passing of time.
-/

namespace LiveLine

/-- What is done to an editor. -/
inductive Treatment where
  | opened (snapshot : Snapshot)
  | edited (text : Option Text) (cursor : Option Nat)
  | notified
  /-- Evaluated at once, in place of a pending timer. -/
  | evaluated
  | disposed
  /-- Closed, or shut down with all other editors. -/
  | closed
  deriving DecidableEq, Repr

namespace Host

def treat (w : Setup) (id : EditorId) (h : Host) : Treatment → Host
  | .opened snapshot => h.openEditor w id snapshot
  | .edited text cursor => h.edit id text cursor
  | .notified => h.notify id
  | .evaluated => h.begin w id
  | .disposed => h.dispose id
  | .closed => h.evict id

variable {owner owner' : Nat → EditorId} {w w' : Setup} {h h' g g' : Host} {s t : Session}
  {id : EditorId} {f f' : Flight} {plan : Nat → RunPlan}

/-! ### Evaluations -/

/-- A rejected line changes nothing about the runs in flight: under the cancel policy, the run that
the session lets go of was aborted before. -/
theorem Life.sights_rejected (w : Setup) (l : Life) (s : Session) :
    (l.supersede w s).flights.map
        (Flight.sight (some { s.evaluated w with phase := .idle, presenter := {} })) =
      (l.supersede w s).flights.map (Flight.sight (some s)) := by
  refine Life.map_sight_eq rfl fun f hf => ?_
  obtain ⟨-, hOther⟩ := Life.mem_flights_supersede.mp hf
  unfold Session.evaluated
  dsimp only
  split
  · rename_i hCancel
    exact iff_of_false (by simp) (hOther hCancel)
  · rfl

/-- Equal views stay equal when a line is looked at and the run that starts does the same. -/
theorem Fire.view {l l' k k' : Life} (hFire : Fire w h h' s l l') (hFire' : Fire w' g g' t k k')
    (hw : w.Agrees w') (hView : l.view = k.view) (hs : l.session = some s)
    (ht : k.session = some t) (hNow : h.now = g.now) (hFresh : ∀ f ∈ l.flights, f.run ≠ h.started)
    (hFresh' : ∀ f ∈ k.flights, f.run ≠ g.started)
    (hPlan : s.disposed = false → w.evaluates s.snapshot.cursorText = true →
      w.plan h.started s.request = w'.plan g.started t.request) : l'.view = k'.view := by
  have hAlike := Life.alike_of_view hView hs ht
  have hSupersede := Life.view_supersede hw hView hs ht
  have hs' : (l.supersede w s).session = some s := by rw [Life.session_supersede, hs]
  have ht' : (k.supersede w' t).session = some t := by rw [Life.session_supersede, ht]
  have hRequest := hAlike.request
  have hDisposed := hAlike.disposed
  have hSnapshot := hAlike.snapshot
  have hEvaluates := hw.evaluates
  cases hFire with
  | off hOff =>
    cases hFire' with
    | off => exact Life.view_hold_same hView hs ht hAlike rfl rfl rfl rfl
    | started hOn => simp_all
    | rejected hOn => simp_all
  | started hOn hLine =>
    cases hFire' with
    | off => simp_all
    | started =>
      have hPlan := hPlan hOn hLine
      have hEntries : [Happening.started h.started s.request].map Happening.anonymous =
          [Happening.started g.started t.request].map Happening.anonymous := by
        rw [List.map_singleton, List.map_singleton, Happening.anonymous, hRequest]
        rfl
      have hRecord := Life.view_record hSupersede hEntries
      have hEvaluated : (s.evaluated w).Alike (t.evaluated w') := hAlike.evaluated
      refine Life.view_launch hRecord hs' ht'
        ⟨hEvaluated.editor, hEvaluated.snapshot, hEvaluated.timer, rfl, hEvaluated.presenter,
          hEvaluated.generation, hEvaluated.disposed⟩ rfl rfl rfl rfl ?_ ?_ ?_
      · exact fun f hf => hFresh f (Life.mem_flights_supersede.mp hf).1
      · exact fun f hf => hFresh' f (Life.mem_flights_supersede.mp hf).1
      · have hPlan' : w.plan h.started (s.evaluated w).request =
            w'.plan g.started (t.evaluated w').request := hPlan
        simp only [Flight.sight, takeoff, Sight.mk.injEq, Option.any_some]
        exact ⟨hEvaluated.generation, hEvaluated.request, by rw [hPlan', hNow], by rw [hPlan'],
          by simp, by simp⟩
    | rejected => simp_all
  | rejected hOn hLine =>
    cases hFire' with
    | off => simp_all
    | started => simp_all
    | rejected =>
      have hEvaluated : (s.evaluated w).Alike (t.evaluated w') := hAlike.evaluated
      have hEntries : (Happening.rejected s.snapshot.cursor ::
          s.presenter.clearCalls.map .called).map Happening.anonymous =
            (Happening.rejected t.snapshot.cursor ::
              t.presenter.clearCalls.map .called).map Happening.anonymous := by
        rw [List.map_cons, List.map_cons, hAlike.clearCalls, hSnapshot]
      refine Life.view_hold (Life.view_record hSupersede hEntries)
        ⟨hEvaluated.editor, hEvaluated.snapshot, hEvaluated.timer, rfl, rfl, hEvaluated.generation,
          hEvaluated.disposed⟩ ?_
      exact (Life.sights_rejected w l s).trans
        ((Life.sights_of_view hSupersede hs' ht').trans (Life.sights_rejected w' k t).symm)

theorem Sound.run_ne_started (hs : Sound owner h) :
    ∀ f ∈ (h.part id).flights, f.run ≠ h.started :=
  fun f hf => Nat.ne_of_lt (hs.flight f (mem_flights_part.mp hf).1).1

theorem Sound.nodup_part (hs : Sound owner h) (id : EditorId) :
    ((h.part id).flights.map Flight.run).Nodup :=
  hs.runs.sublist (List.filter_sublist.map _)

/-- An evaluation after the timer has elapsed or was dropped. -/
theorem Sound.view_fired (hs : Sound owner h) (hg : Sound owner' g) (hw : w.Agrees w')
    (hView : (h.part id).view = (g.part id).view) (hNow : h.now = g.now)
    (hf : h.session? id = some s) (hf' : g.session? id = some t) {pre pre' : List Happening}
    (hPre : pre.map Happening.anonymous = pre'.map Happening.anonymous)
    (hPlan : s.disposed = false → w.evaluates s.snapshot.cursorText = true →
      w.plan h.started s.request = w'.plan g.started t.request) :
    ((((h.log s pre).put { s with timer := s.timer.cancel }).fire w id).part id).view =
      ((((g.log t pre').put { t with timer := t.timer.cancel }).fire w' id).part id).view := by
  obtain ⟨l', hFire, hPart⟩ := hs.part_fired (w := w) hf pre
  obtain ⟨k', hFire', hPart'⟩ := hg.part_fired (w := w') hf' pre'
  have hAlike := Life.alike_of_view hView hf hf'
  have hTimers : Session.Alike { s with timer := s.timer.cancel }
      { t with timer := t.timer.cancel } :=
    ⟨hAlike.editor, hAlike.snapshot, congrArg Debouncer.cancel hAlike.timer, hAlike.phase,
      hAlike.presenter, hAlike.generation, hAlike.disposed⟩
  have hHold := Life.view_hold_same (Life.view_record hView hPre) hf hf' hTimers rfl rfl rfl rfl
  rw [hPart, hPart', Function.update_self, Function.update_self]
  refine hFire.view hFire' hw hHold rfl rfl hNow hs.run_ne_started hg.run_ne_started ?_
  exact hPlan

/-! ### A host that has one editor alone -/

/-- A host in which no other editor was ever opened. -/
structure Alone (id : EditorId) (g : Host) : Prop where
  sound : Sound (fun _ => id) g
  counts : g.Counts id

theorem Alone.initial (id : EditorId) : Alone id {} := ⟨Sound.initial, rfl⟩

theorem Alone.act (hg : Alone id g) {a : Act} (possible : a.Possible g)
    (ha : a.editor? = some id ∨ a.editor? = none) : Alone id (g.act w a) := by
  refine ⟨?_, hg.sound.counts_act hg.counts possible ha⟩
  have hs := hg.sound
  cases a with
  | openEditor other snapshot =>
    obtain rfl : other = id := ha.elim Option.some.inj fun h => absurd h (Option.some_ne_none _)
    have hOpen := hs.openEditor (w := w) possible snapshot
    rwa [Function.update_eq_self_iff.mpr rfl] at hOpen
  | edit other text cursor => exact hs.edit other text cursor
  | notify other => exact hs.notify other
  | begin other => exact (hs.cancelTimer other).fire other
  | elapse other => exact hs.elapse other
  | complete f => exact hs.complete possible
  | dispose other => exact hs.dispose other
  | evict other => exact hs.evict other
  | focus focused => exact hs.aside g.now focused g.issued
  | tick now => exact hs.aside now g.focused g.issued

theorem Alone.editor_of_mem (hg : Alone id g) (hs : s ∈ g.sessions) : s.editor = id :=
  (hg.sound.known s hs).editor_eq

theorem Alone.editor_of_flight (hg : Alone id g) (hf : f ∈ g.flights) : f.editor = id :=
  (hg.sound.flight f hf).2.2

theorem Alone.treat (hg : Alone id g) (x : Treatment) : Alone id (g.treat w id x) := by
  cases x with
  | opened snapshot =>
    show Alone id (g.openEditor w id snapshot)
    rw [← openEditor_evict hg.sound.sorted]
    exact (hg.act (w := w) (a := .evict id) trivial (Or.inl rfl)).act
      (a := .openEditor id snapshot) (session?_evict g id) (Or.inl rfl)
  | edited text cursor => exact hg.act (w := w) (a := .edit id text cursor) trivial (Or.inl rfl)
  | notified => exact hg.act (w := w) (a := .notify id) trivial (Or.inl rfl)
  | evaluated => exact hg.act (a := .begin id) trivial (Or.inl rfl)
  | disposed => exact hg.act (w := w) (a := .dispose id) trivial (Or.inl rfl)
  | closed => exact hg.act (w := w) (a := .evict id) trivial (Or.inl rfl)

/-! ### What is done to an editor -/

theorem length_starts_of_view {l k : Life} (hView : l.view = k.view) :
    l.starts.length = k.starts.length := by
  have hRead : ∀ es : List Happening, (es.map Happening.anonymous).filterMap Happening.start? =
      (es.filterMap Happening.start?).map fun x => (0, x.2) := by
    intro es
    rw [List.filterMap_map, List.map_filterMap]
    refine List.filterMap_congr fun e _ => ?_
    cases e <;> rfl
  have hHistory := congrArg (List.filterMap Happening.start?) (Life.view_eq_iff.mp hView).2.2
  rw [hRead, hRead] at hHistory
  have hLength := congrArg List.length hHistory
  rw [List.length_map, List.length_map] at hLength
  rw [Life.starts, Life.starts, List.length_reverse, List.length_reverse, hLength]

/-- The next run of the editor does the same alone. -/
theorem Sound.plan_alone (hs : Sound owner h) (hg : Alone id g)
    (hView : (h.part id).view = (g.part id).view) (hf : h.session? id = some s)
    {pre : List Happening} (hPre : Happening.Quiet pre)
    (hGets : Gets w id plan (((h.log s pre).put { s with timer := s.timer.cancel }).fire w id))
    (hAlone : ∀ run request, w'.plan run request = plan run) (request : Request)
    (hDisposed : s.disposed = false) (hLine : w.evaluates s.snapshot.cursorText = true) :
    w.plan h.started s.request = w'.plan g.started request := by
  obtain ⟨l', hFire, hPart⟩ := hs.part_fired (w := w) hf pre
  have hPart' := congrFun hPart id
  rw [Function.update_self] at hPart'
  have hPlan := hGets.plan_eq hPart' hFire hDisposed hLine
  rw [Life.starts_hold, Life.starts_record_of_quiet hPre, length_starts_of_view hView,
    ← hg.counts] at hPlan
  rw [hAlone]
  exact hPlan

theorem Sound.view_evict (hs : Sound owner h) (hg : Sound owner' g)
    (hView : (h.part id).view = (g.part id).view) :
    ((h.evict id).part id).view = ((g.evict id).part id).view := by
  cases hf : h.session? id with
  | none =>
    have hf' : g.session? id = none := Life.session_eq_none_of_view hView hf
    rwa [Host.evict, Host.evict, hf, hf']
  | some s =>
    obtain ⟨t, hf', -⟩ := Life.exists_session_of_view hView hf
    rw [hs.part_evict hf, hg.part_evict hf', Function.update_self, Function.update_self]
    exact Life.view_leave (Life.view_release hView hf hf')

theorem Sound.view_openEditor (hs : Sound owner h) (hg : Sound owner' g) (hw : w.Agrees w')
    (hView : (h.part id).view = (g.part id).view) (snapshot : Snapshot) :
    ((h.openEditor w id snapshot).part id).view = ((g.openEditor w' id snapshot).part id).view := by
  have hs' := hs.evict id
  have hg' := hg.evict id
  have hFresh : ∀ {owner : Nat → EditorId} {h : Host}, Sound owner h →
      ∀ f ∈ (h.part id).flights, f.session ≠ h.opened :=
    fun hs f hf => Nat.ne_of_lt (hs.flight f (mem_flights_part.mp hf).1).2.1
  rw [← openEditor_evict hs.sorted, ← openEditor_evict hg.sorted,
    hs'.part_openEditor (session?_evict h id), hg'.part_openEditor (session?_evict g id),
    Function.update_self, Function.update_self]
  refine Life.view_record (Life.view_opened (hs.view_evict hg hView) ?_ (hFresh hs') (hFresh hg')
    rfl rfl) rfl
  exact ⟨rfl, rfl, congrArg (Debouncer.mk · none) hw.debounce, rfl, rfl, rfl, rfl⟩

theorem Sound.view_edit (hs : Sound owner h) (hg : Sound owner' g)
    (hView : (h.part id).view = (g.part id).view) (text : Option Text) (cursor : Option Nat) :
    ((h.edit id text cursor).part id).view = ((g.edit id text cursor).part id).view := by
  cases hf : h.session? id with
  | none =>
    have hf' : g.session? id = none := Life.session_eq_none_of_view hView hf
    simpa only [Host.edit, hf, hf'] using hView
  | some s =>
    obtain ⟨t, hf', hAlike⟩ := Life.exists_session_of_view hView hf
    rw [hs.part_edit hf, hg.part_edit hf', Function.update_self, Function.update_self]
    refine Life.view_hold_same hView hf hf' ⟨hAlike.editor, ?_, hAlike.timer, hAlike.phase,
      hAlike.presenter, hAlike.generation, hAlike.disposed⟩ rfl rfl rfl rfl
    simp only [hAlike.snapshot]

theorem Sound.view_notify (hs : Sound owner h) (hg : Sound owner' g)
    (hView : (h.part id).view = (g.part id).view) (hNow : h.now = g.now) :
    ((h.notify id).part id).view = ((g.notify id).part id).view := by
  cases hf : h.session? id with
  | none =>
    have hf' : g.session? id = none := Life.session_eq_none_of_view hView hf
    simpa only [Host.notify, hf, hf'] using hView
  | some s =>
    obtain ⟨t, hf', hAlike⟩ := Life.exists_session_of_view hView hf
    cases hDisposed : s.disposed with
    | true =>
      have hKeep : h.notify id = h := by simp [Host.notify, hf, hDisposed]
      have hKeep' : g.notify id = g := by
        simp [Host.notify, show g.session? id = some t from hf', ← hAlike.disposed, hDisposed]
      rw [hKeep, hKeep', hView]
    | false =>
      rw [hs.part_notify hf hDisposed, hg.part_notify hf' (hAlike.disposed ▸ hDisposed),
        Function.update_self, Function.update_self]
      refine Life.view_hold_same (Life.view_record hView ?_) hf hf'
        ⟨hAlike.editor, hAlike.snapshot, ?_, rfl, hAlike.presenter, hAlike.generation,
          hAlike.disposed⟩ rfl rfl rfl rfl
      · rw [List.map_append, List.map_append, hAlike.supersededBy]
      · simp only [hAlike.timer, hNow]

theorem Sound.view_begin (hs : Sound owner h) (hg : Alone id g) (hw : w.Agrees w')
    (hAlone : ∀ run request, w'.plan run request = plan run) (hNow : h.now = g.now)
    (hView : (h.part id).view = (g.part id).view) (hGets : Gets w id plan (h.begin w id)) :
    ((h.begin w id).part id).view = ((g.begin w' id).part id).view := by
  cases hf : h.session? id with
  | none =>
    have hf' : g.session? id = none := Life.session_eq_none_of_view hView hf
    simpa only [Host.begin, Host.cancelTimer, Host.fire, hf, hf'] using hView
  | some s =>
    obtain ⟨t, hf', hAlike⟩ := Life.exists_session_of_view hView hf
    have hf' : g.session? id = some t := hf'
    rw [show h.begin w id = _ from act_begin hf] at hGets ⊢
    rw [show g.begin w' id = _ from act_begin hf']
    exact hs.view_fired hg.sound hw hView hNow hf hf' hAlike.supersededBy
      (hs.plan_alone hg hView hf (Happening.quiet_supersededBy s) hGets hAlone _)

theorem Sound.view_dispose (hs : Sound owner h) (hg : Sound owner' g)
    (hView : (h.part id).view = (g.part id).view) :
    ((h.dispose id).part id).view = ((g.dispose id).part id).view := by
  cases hf : h.session? id with
  | none =>
    have hf' : g.session? id = none := Life.session_eq_none_of_view hView hf
    simpa only [Host.dispose, hf, hf'] using hView
  | some s =>
    obtain ⟨t, hf', -⟩ := Life.exists_session_of_view hView hf
    rw [hs.part_dispose hf, hg.part_dispose hf', Function.update_self, Function.update_self]
    exact Life.view_closed hView hf hf'

/-- **The same is made of equal views by what is done to the editor.** -/
theorem Sound.view_treat (hs : Sound owner h) (hg : Alone id g) (hw : w.Agrees w')
    (hAlone : ∀ run request, w'.plan run request = plan run) (hNow : h.now = g.now)
    (hView : (h.part id).view = (g.part id).view) (x : Treatment)
    (hGets : Gets w id plan (h.treat w id x)) :
    ((h.treat w id x).part id).view = ((g.treat w' id x).part id).view := by
  cases x with
  | opened snapshot => exact hs.view_openEditor hg.sound hw hView snapshot
  | edited text cursor => exact hs.view_edit hg.sound hView text cursor
  | notified => exact hs.view_notify hg.sound hView hNow
  | evaluated => exact hs.view_begin hg hw hAlone hNow hView hGets
  | disposed => exact hs.view_dispose hg.sound hView
  | closed => exact hs.view_evict hg.sound hView

end Host

end LiveLine
