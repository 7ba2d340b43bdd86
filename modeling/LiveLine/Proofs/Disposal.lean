import LiveLine.Proofs.Histories
import LiveLine.Proofs.Scripts

/-!
# Disposal and the runs in flight

A session that is disposed aborts the last run that it started, and no other.  Under the cancel
policy there is no other; under the finish policy the runs that it has left to finish outlive it.

* `Handled`: of the runs in flight, the one that a session can abort is the last one it started.
* `Disposal`: the four ways in which a session comes to its end.
* `Host.Sound.life_shutdown`: the order in which a shutdown disposes the sessions does not matter.
* `Host.Reachable.disposal_exact`: which runs outlive a session, and when none finishes after it.
-/

namespace LiveLine

/-- Of the runs of a session in flight, the one that it can abort is the last one it started; under
the cancel policy there is no other. -/
structure Handled (w : Setup) (s : Session) (l : Life) : Prop where
  last : ∀ f ∈ l.flights, s.newest = some f.run ↔ l.lastStarted? = some f.run
  only : w.onSupersede = .cancel → ∀ f ∈ l.flights, s.newest = some f.run

namespace Handled

variable {w : Setup} {h h' : Host} {s : Session} {l l' : Life}

/-- Fewer runs in flight make no difference. -/
theorem anti (ht : Handled w s l) {s' : Session} (hNewest : s'.newest = s.newest)
    (hFlights : ∀ f ∈ l'.flights, f ∈ l.flights)
    (hStarted : l'.lastStarted? = l.lastStarted?) : Handled w s' l' := by
  constructor
  · intro f hf
    rw [hNewest, hStarted]
    exact ht.last f (hFlights f hf)
  · intro hCancel f hf
    rw [hNewest]
    exact ht.only hCancel f (hFlights f hf)

theorem hold (ht : Handled w s l) (t : Session) : Handled w s (l.hold t) :=
  ht.anti rfl (fun _ hf => hf) rfl

/-- Under the cancel policy an evaluation leaves no run in flight. -/
theorem not_mem_supersede (ht : Handled w s l) (hCancel : w.onSupersede = .cancel) (f : Flight) :
    f ∉ (l.supersede w s).flights := fun hf =>
  (Life.mem_flights_supersede.mp hf).2 hCancel
    (ht.only hCancel f (Life.mem_flights_supersede.mp hf).1)

theorem started (ht : Handled w s l) :
    Handled w { s.evaluated w with phase := .running, newest := some h.started }
      (((l.supersede w s).record [.started h.started s.request]).launch
        (h.takeoff w (s.evaluated w))) := by
  have hStarted : (((l.supersede w s).record [.started h.started s.request]).launch
      (h.takeoff w (s.evaluated w))).lastStarted? = some h.started := by
    rw [Life.lastStarted?, Life.last?_launch, Life.last?_started Happening.reading_started?]
    rfl
  constructor
  · intro f _
    rw [hStarted]
  · intro hCancel f hf
    rcases Life.mem_flights_launch.mp hf with hf | rfl
    · exact absurd hf (ht.not_mem_supersede hCancel f)
    · rfl

theorem rejected (ht : Handled w s l) (calls : List SurfaceCall) :
    Handled w { s.evaluated w with phase := .idle, presenter := {} }
      ((l.supersede w s).record (.rejected s.snapshot.cursor :: calls.map .called)) := by
  have hStarted : ((l.supersede w s).record
      (.rejected s.snapshot.cursor :: calls.map .called)).lastStarted? = l.lastStarted? := by
    rw [Life.lastStarted?, Life.last?_rejected Happening.reading_started?]
    rfl
  refine ⟨fun f hf => ?_, fun hCancel f hf => absurd hf (ht.not_mem_supersede hCancel f)⟩
  rw [hStarted, ← ht.last f (Life.mem_flights_supersede.mp hf).1]
  cases hPolicy : w.onSupersede with
  | cancel => exact absurd hf (ht.not_mem_supersede hPolicy f)
  | finish => simp [Session.evaluated, hPolicy]

theorem disposed (ht : Handled w s l) : Handled w s.closed (l.release s) := by
  constructor
  · intro f hf
    obtain ⟨hf, hNewest⟩ := Life.mem_flights_release.mp hf
    rw [Life.lastStarted?, Life.last?_release Happening.reading_started? s]
    exact iff_of_false (by simp [Session.closed]) (mt (ht.last f hf).mpr hNewest)
  · intro hCancel f hf
    obtain ⟨hf, hNewest⟩ := Life.mem_flights_release.mp hf
    exact absurd (ht.only hCancel f hf) hNewest

/-- Every move of a life keeps the handle of its session on the last run. -/
theorem move (ht : ∀ s, l.session = some s → Handled w s l) (hMove : Host.Move w h h' l l') :
    ∀ s, l'.session = some s → Handled w s l' := by
  cases hMove with
  | opened id snapshot =>
    rintro s ⟨⟩
    exact ⟨by simp, by simp⟩
  | edited hs snapshot =>
    rintro s ⟨⟩
    exact (ht _ hs).anti rfl (fun _ hf => hf) rfl
  | notified hs hDisposed =>
    rintro s ⟨⟩
    exact (ht _ hs).anti rfl (fun _ hf => hf)
      (Life.last?_record Happening.reading_started? (Happening.quiet_scheduled _))
  | @fired l l' s hs pre hPre hFire =>
    have hQuiet := Happening.quiet_of_firing hPre
    have hRest : Handled w { s with timer := s.timer.cancel }
        ((l.record pre).hold { s with timer := s.timer.cancel }) :=
      (ht s hs).anti rfl (fun _ hf => hf) (Life.last?_record Happening.reading_started? hQuiet)
    cases hFire with
    | off =>
      rintro t ⟨⟩
      exact hRest.hold _
    | started =>
      rintro t ⟨⟩
      exact hRest.started.hold _
    | rejected =>
      rintro t ⟨⟩
      exact (hRest.rejected _).hold _
  | @completed l l' f hf hLanding =>
    cases hLanding with
    | ignored =>
      intro s hs
      exact (ht s hs).anti rfl (fun g hg => (Life.mem_flights_land.mp hg).1)
        (Life.last?_finished f)
    | presented hs =>
      rintro s ⟨⟩
      exact (ht _ hs).anti rfl (fun g hg => (Life.mem_flights_land.mp hg).1)
        (Life.last?_hearing Happening.reading_started? ..)
  | disposed hs =>
    rintro s ⟨⟩
    exact (ht _ hs).disposed.hold _
  | left => exact fun s hs => absurd hs (by simp)

end Handled

/-- A session that is disposed stays closed: it has let go of its timer, its annotations and its
handle on a run. -/
theorem Host.Move.closed_of_disposed {w : Setup} {h h' : Host} {l l' : Life}
    (ht : ∀ s, l.session = some s → s.disposed = true → s.closed = s)
    (hMove : Host.Move w h h' l l') :
    ∀ s, l'.session = some s → s.disposed = true → s.closed = s := by
  have hOpen : ∀ {s : Session}, s.disposed = false → s.disposed = true → s.closed = s :=
    fun hOpen hDisposed => absurd (hOpen.symm.trans hDisposed) (by decide)
  cases hMove with
  | opened id snapshot =>
    rintro s ⟨⟩
    exact hOpen rfl
  | @edited l s hs snapshot =>
    rintro t ⟨⟩ hDisposed
    have hSame := ht s hs hDisposed
    exact congrArg (fun s : Session => { s with snapshot }) hSame
  | notified hs hDisposed =>
    rintro s ⟨⟩
    exact hOpen hDisposed
  | @fired l l' s hs pre hPre hFire =>
    cases hFire with
    | off =>
      rintro t ⟨⟩ hDisposed
      have hSame := ht s hs hDisposed
      exact congrArg (fun s : Session => { s with timer := s.timer.cancel }) hSame
    | started hDisposed =>
      rintro s ⟨⟩
      exact hOpen hDisposed
    | rejected hDisposed =>
      rintro s ⟨⟩
      exact hOpen hDisposed
  | completed hf hLanding =>
    cases hLanding with
    | ignored => exact ht
    | presented hs hDisposed =>
      rintro s ⟨⟩
      exact hOpen hDisposed
  | disposed hs =>
    rintro s ⟨⟩
    exact fun _ => rfl
  | left hs => exact fun s hs => absurd hs (by simp)

/-- A session that has come to its end: it is gone or disposed. -/
structure Ended (l : Life) : Prop where
  disposed : ∀ s, l.session = some s → s.disposed = true
  history : .disposed ∈ l.history

/-- A session that has come to its end stays so, and none of its runs starts; where none is in
flight, none completes. -/
theorem Ended.move {w : Setup} {h h' : Host} {l l' : Life} (he : Ended l)
    (hMove : Host.Move w h h' l l') :
    Ended l' ∧ (l.flights = [] → l'.flights = [] ∧ l'.finished = l.finished) := by
  have hReleased : ∀ s, l.flights = [] →
      (l.release s).flights = [] ∧ (l.release s).finished = l.finished := by
    intro s hFlights
    refine ⟨List.eq_nil_iff_forall_not_mem.mpr fun f hf => ?_, Life.finished_release s⟩
    exact absurd (hFlights ▸ (Life.mem_flights_release.mp hf).1) List.not_mem_nil
  have hKept : ∀ s, .disposed ∈ (l.release s).history := by
    intro s
    rw [Life.history_release]
    exact List.mem_append_right _ he.history
  cases hMove with
  | opened => exact absurd he.history List.not_mem_nil
  | @edited l s hs =>
    refine ⟨⟨?_, he.history⟩, fun hFlights => ⟨hFlights, rfl⟩⟩
    rintro t ⟨⟩
    exact he.disposed s hs
  | notified hs hDisposed => exact absurd ((he.disposed _ hs).symm.trans hDisposed) (by decide)
  | @fired l l' s hs pre hPre hFire =>
    have hQuiet := Happening.quiet_of_firing hPre
    have hEnd := he.disposed s hs
    cases hFire with
    | off =>
      refine ⟨⟨?_, List.mem_append_right _ he.history⟩,
        fun hFlights => ⟨hFlights, Life.finished_record hQuiet⟩⟩
      rintro t ⟨⟩
      exact hEnd
    | started hDisposed => exact absurd (hEnd.symm.trans hDisposed) (by decide)
    | rejected hDisposed => exact absurd (hEnd.symm.trans hDisposed) (by decide)
  | completed hf hLanding =>
    refine ⟨?_, fun hFlights => absurd (hFlights ▸ hf) List.not_mem_nil⟩
    cases hLanding with
    | ignored => exact ⟨he.disposed, List.mem_append_right _ he.history⟩
    | presented hs hDisposed => exact absurd ((he.disposed _ hs).symm.trans hDisposed) (by decide)
  | @disposed l s hs =>
    refine ⟨⟨?_, hKept s⟩, hReleased s⟩
    rintro t ⟨⟩
    rfl
  | @left l s hs => exact ⟨⟨fun t ht => absurd ht (by simp), hKept s⟩, hReleased s⟩

namespace Host

/-- The ways in which the session of an editor comes to its end. -/
inductive Disposal (w : Setup) (h : Host) (id : EditorId) : Host → Prop
  | disposed : Disposal w h id (h.dispose id)
  | closed {e : EditorEvent} (hKind : e.kind = .closed) (hEditor : e.editor = id) :
      Disposal w h id (h.handle e)
  | reopened (snapshot : Snapshot) : Disposal w h id (h.openEditor w id snapshot)
  | shutdown : Disposal w h id h.shutdown

section

variable {owner : Nat → EditorId} {w : Setup} {h h' : Host} {s : Session}

theorem Disposal.leads (hs : Sound owner h) {id : EditorId} (hd : Disposal w h id h') :
    Leads w h h' := by
  cases hd with
  | disposed => exact .single (.dispose id) trivial
  | closed => exact .handle _
  | reopened snapshot => exact .openEditor hs.sorted id snapshot
  | shutdown => exact .shutdown hs.sorted

/-- What is left of the life of a session that has come to its end. -/
structure Remains (l : Life) (s : Session) (l' : Life) : Prop where
  disposed : ∀ t, l'.session = some t → t.disposed = true
  flights : l'.flights = (l.release s).flights
  history : l'.history = (l.release s).history

theorem Remains.leave (l : Life) (s : Session) : Remains l s (l.release s).leave where
  disposed := fun t ht => absurd ht (by simp)
  flights := rfl
  history := rfl

theorem Sound.remains_evict (hs : Sound owner h) (hm : s ∈ h.sessions) :
    Remains (h.life s.number) s ((h.evict s.editor).life s.number) := by
  rw [hs.life_evict hm, Function.update_self]
  exact .leave _ s

/-- Forgetting an editor is of no concern to a session of another one, or that is gone. -/
theorem Sound.life_evict_of_ne (hs : Sound owner h) {id : EditorId} {n : Nat}
    (hOther : ∀ t ∈ h.sessions, t.editor = id → t.number ≠ n) :
    (h.evict id).life n = h.life n := by
  cases hf : h.session? id with
  | none => simp only [Host.evict, hf]
  | some t =>
    obtain ⟨hm, rfl⟩ := hs.mem_of_session? hf
    rw [hs.life_evict hm, Function.update_of_ne (hOther t hm rfl).symm]

theorem Sound.foldl_evict_of_gone (hs : Sound owner h) (ids : List EditorId) {n : Nat}
    (hGone : ∀ t ∈ h.sessions, t.number ≠ n) :
    (ids.foldl Host.evict h).life n = h.life n := by
  induction ids generalizing h with
  | nil => rfl
  | cons id ids ih =>
    rw [List.foldl_cons, ih (hs.evict id) fun t ht => hGone t (mem_sessions_evict.mp ht).1]
    exact hs.life_evict_of_ne fun t ht _ => hGone t ht

theorem Sound.foldl_evict_remains (hs : Sound owner h) (ids : List EditorId) (hm : s ∈ h.sessions)
    (hId : s.editor ∈ ids) :
    Remains (h.life s.number) s ((ids.foldl Host.evict h).life s.number) := by
  induction ids generalizing h with
  | nil => exact absurd hId List.not_mem_nil
  | cons id ids ih =>
    rw [List.foldl_cons]
    by_cases hSelf : s.editor = id
    · subst hSelf
      have hGone : ∀ t ∈ (h.evict s.editor).sessions, t.number ≠ s.number := fun t ht hn =>
        (mem_sessions_evict.mp ht).2
          (congrArg Session.editor (hs.eq_of_number (mem_sessions_evict.mp ht).1 hm hn))
      rw [(hs.evict s.editor).foldl_evict_of_gone ids hGone]
      exact hs.remains_evict hm
    · have hSame : (h.evict id).life s.number = h.life s.number :=
        hs.life_evict_of_ne fun t ht he hn =>
          hSelf ((congrArg Session.editor (hs.eq_of_number hm ht hn.symm)).trans he)
      rw [← hSame]
      exact ih (hs.evict id) (mem_sessions_evict.mpr ⟨hm, hSelf⟩)
        ((List.mem_cons.mp hId).resolve_left hSelf)

theorem mem_sessions_foldl_evict (ids : List EditorId) :
    s ∈ (ids.foldl Host.evict h).sessions ↔ s ∈ h.sessions ∧ s.editor ∉ ids := by
  induction ids generalizing h with
  | nil => simp
  | cons id ids ih =>
    rw [List.foldl_cons, ih, mem_sessions_evict, List.mem_cons, not_or, and_assoc]

/-- A session that is forgotten among others is released, as if it were alone. -/
theorem Sound.life_foldl_evict (hs : Sound owner h) {ids : List EditorId} (hm : s ∈ h.sessions)
    (hId : s.editor ∈ ids) :
    (ids.foldl Host.evict h).life s.number = ((h.life s.number).release s).leave := by
  have hRemains := hs.foldl_evict_remains ids hm hId
  have hNone : ((ids.foldl Host.evict h).life s.number).session = none := by
    refine List.find?_eq_none.mpr fun t ht hNumber => ?_
    obtain ⟨ht, hNot⟩ := (mem_sessions_foldl_evict ids).mp ht
    exact hNot (hs.eq_of_number ht hm (of_decide_eq_true hNumber) ▸ hId)
  calc (ids.foldl Host.evict h).life s.number
      = ⟨none, ((h.life s.number).release s).flights, ((h.life s.number).release s).history⟩ := by
        rw [← hNone, ← hRemains.flights, ← hRemains.history]
    _ = ((h.life s.number).release s).leave := rfl

/-- **A shutdown may dispose the sessions in any order.**  What is left of each of them is the same,
and only the entries of different sessions come in another order. -/
theorem Sound.life_shutdown (hs : Sound owner h) {ids : List EditorId}
    (hAll : ∀ s ∈ h.sessions, s.editor ∈ ids) (n : Nat) :
    (ids.foldl Host.evict h).life n = h.shutdown.life n := by
  have hShutdown : h.shutdown.life n =
      ((h.sessions.map (·.editor)).foldl Host.evict h).life n := by
    rw [shutdown_eq hs.sorted]
    rfl
  rw [hShutdown]
  by_cases hOpen : ∃ s ∈ h.sessions, s.number = n
  · obtain ⟨s, hm, rfl⟩ := hOpen
    rw [hs.life_foldl_evict hm (hAll s hm), hs.life_foldl_evict hm (List.mem_map_of_mem hm)]
  · push Not at hOpen
    rw [hs.foldl_evict_of_gone ids hOpen, hs.foldl_evict_of_gone _ hOpen]

/-- However a session comes to its end, it is released. -/
theorem Disposal.remains (hs : Sound owner h) (hm : s ∈ h.sessions)
    (hd : Disposal w h s.editor h') :
    Remains (h.life s.number) s (h'.life s.number) := by
  have hf := (session?_eq_some hs.sorted).mpr ⟨hm, rfl⟩
  cases hd with
  | disposed =>
    rw [hs.life_dispose hm, Function.update_self]
    refine ⟨?_, rfl, rfl⟩
    rintro t ⟨⟩
    rfl
  | @closed e hKind hEditor =>
    have hRoute : h.route e = .disposed := by
      simp only [route, hEditor, hf, hKind, Option.isNone_some, Bool.false_eq_true, if_false]
    have hClose : h.handle e = h.close s.editor := by
      simp only [handle, hRoute, hEditor]
    rw [hClose, close_eq]
    exact hs.remains_evict hm
  | reopened snapshot =>
    have hNew : (h.evict s.editor).session? s.editor = none := session?_evict h s.editor
    have hOpened : (h.evict s.editor).opened = h.opened := by
      obtain ⟨flights, journal, hRelease⟩ := exists_release_eq h s
      simp only [evict, hf, hRelease]
      rfl
    rw [← openEditor_evict hs.sorted, (hs.evict s.editor).life_openEditor hNew, hOpened,
      Function.update_of_ne (Nat.ne_of_lt (hs.known s hm).number_lt)]
    exact hs.remains_evict hm
  | shutdown =>
    rw [shutdown_eq hs.sorted]
    exact hs.foldl_evict_remains _ hm (List.mem_map_of_mem hm)

theorem Remains.ended {l l' : Life} (hr : Remains l s l') : Ended l' where
  disposed := hr.disposed
  history := by
    rw [hr.history, Life.history_release]
    simp [Life.parting]

theorem Leads.ended {n : Nat} (hs : ∃ owner, Sound owner h) (he : Ended (h.life n))
    (hl : Leads w h h') : Ended (h'.life n) :=
  Leads.life (P := Ended) hs he (fun _ he hMove => (he.move hMove).1) hl

theorem Reachable.closed_of_disposed (hr : Reachable w h) (hm : s ∈ h.sessions)
    (hDisposed : s.disposed = true) : s.closed = s :=
  Reachable.session (P := fun s _ => s.disposed = true → s.closed = s)
    (fun _ ht hMove => hMove.closed_of_disposed ht) hr hm hDisposed

theorem Reachable.handled (hr : Reachable w h) (hm : s ∈ h.sessions) :
    Handled w s (h.life s.number) :=
  Reachable.session (P := Handled w) (fun _ ht hMove => Handled.move ht hMove) hr hm

/-- Of the runs in flight, the last one that the session started does not outlive it. -/
theorem Disposal.mem_flights (hr : Reachable w h) (hm : s ∈ h.sessions)
    (hd : Disposal w h s.editor h') {f : Flight} (hOwn : f.session = s.number) :
    f ∈ h'.flights ↔ f ∈ h.flights ∧ (h.life s.number).lastStarted? ≠ some f.run := by
  obtain ⟨owner, hs⟩ := hr.sound
  have hLeft : f ∈ (h'.life s.number).flights ↔ f ∈ h'.flights := by simp [hOwn]
  rw [← hLeft, (hd.remains hs hm).flights, Life.mem_flights_release, mem_flights_life]
  constructor
  · rintro ⟨hf, hNewest⟩
    exact ⟨hf.1, mt ((hr.handled hm).last f (mem_flights_life.mpr hf)).mpr hNewest⟩
  · rintro ⟨hf, hLast⟩
    exact ⟨⟨hf, hOwn⟩, mt ((hr.handled hm).last f (mem_flights_life.mpr ⟨hf, hOwn⟩)).mp hLast⟩

/-- After the end of a session that has no run in flight, none finishes. -/
theorem Leads.finished_of_ended {n : Nat} (hs : ∃ owner, Sound owner h) (he : Ended (h.life n))
    (hFlights : (h.life n).flights = []) (hl : Leads w h h') :
    (h'.life n).finished = (h.life n).finished := by
  have hKeep := Leads.life
    (P := fun l => Ended l ∧ l.flights = [] ∧ l.finished = (h.life n).finished) hs
    ⟨he, hFlights, rfl⟩ (fun _ ht hMove => ?_) hl
  · exact hKeep.2.2
  · obtain ⟨he, hFlights, hFinished⟩ := ht
    obtain ⟨he', hNone⟩ := he.move hMove
    exact ⟨he', (hNone hFlights).1, (hNone hFlights).2.trans hFinished⟩

/-- A run in flight can finish. -/
theorem Sound.finished_complete (hs : Sound owner h) {f : Flight} (hf : f ∈ h.flights) :
    ((h.complete w f).life f.session).finished = f.run :: (h.life f.session).finished := by
  obtain ⟨l', hLanding, hLife⟩ := hs.life_complete (w := w) hf
  rw [hLife, Function.update_self]
  cases hLanding with
  | ignored => exact Life.finished_land f
  | presented => exact Life.finished_hearing ..

/-- **Which runs outlive a session.**  Of the runs that a session has in flight at its end, just
the last one it started is aborted.  None finishes afterwards, whatever happens, just where there
is no other; under the cancel policy there never is. -/
theorem Reachable.disposal_exact (hr : Reachable w h) (hm : s ∈ h.sessions)
    (hd : Disposal w h s.editor h') :
    (∀ f ∈ h.flights, f.session = s.number →
      (f ∉ h'.flights ↔ (h.life s.number).lastStarted? = some f.run)) ∧
    ((∀ g, Leads w h' g → (g.life s.number).finished = (h'.life s.number).finished) ↔
      ∀ f ∈ h.flights, f.session = s.number →
        (h.life s.number).lastStarted? = some f.run) ∧
    (w.onSupersede = .cancel → ∀ f ∈ h.flights, f.session = s.number →
      (h.life s.number).lastStarted? = some f.run) := by
  obtain ⟨owner, hs⟩ := hr.sound
  have hs' : ∃ owner, Sound owner h' := (hd.leads hs).sound ⟨owner, hs⟩
  refine ⟨fun f hf hOwn => ?_, ⟨fun hNone f hf hOwn => ?_, fun hLast g hl => ?_⟩,
    fun hCancel f hf hOwn => ?_⟩
  · rw [hd.mem_flights hr hm hOwn, not_and, not_not]
    exact ⟨fun h => h hf, fun h _ => h⟩
  · -- a run that is left in flight can complete at once
    by_contra hLast
    have hLeft := (hd.mem_flights hr hm hOwn).mpr ⟨hf, hLast⟩
    obtain ⟨owner', hs'⟩ := hs'
    have hSame := hNone _ (.single (.complete f) hLeft)
    rw [← hOwn] at hSame
    exact List.cons_ne_self _ _ ((hs'.finished_complete (w := w) hLeft).symm.trans hSame)
  · have hFlights : (h'.life s.number).flights = [] := by
      refine List.eq_nil_iff_forall_not_mem.mpr fun f hf => ?_
      obtain ⟨hf, hOwn⟩ := mem_flights_life.mp hf
      obtain ⟨hf, hOther⟩ := (hd.mem_flights hr hm hOwn).mp hf
      exact hOther (hLast f hf hOwn)
    exact hl.finished_of_ended hs' (hd.remains hs hm).ended hFlights
  · have hFlight := mem_flights_life.mpr ⟨hf, hOwn⟩
    exact ((hr.handled hm).last f hFlight).mp ((hr.handled hm).only hCancel f hFlight)

theorem disposal_exact_overlapping :
    ∃ s ∈ overlapping.sessions, ∃ g,
      Leads (sample fun _ => 1000) (overlapping.dispose s.editor) g ∧
        (g.life s.number).finished ≠ ((overlapping.dispose s.editor).life s.number).finished := by
  obtain ⟨s, hm, hNumber⟩ : ∃ s ∈ overlapping.sessions, s.number = 0 := by decide
  obtain ⟨f, hf, hOwn, hRun⟩ : ∃ f ∈ overlapping.flights, f.session = 0 ∧ f.run = 0 := by decide
  have hLast : (overlapping.life 0).lastStarted? = some 1 := by decide
  have hExact := Reachable.disposal_exact reachable_overlapping hm .disposed
  refine ⟨s, hm, ?_⟩
  by_contra hNone
  have hSame := hExact.2.1.mp (by simpa only [not_exists, not_and, not_not] using hNone) f hf
    (hOwn.trans hNumber.symm)
  rw [hNumber, hLast, hRun] at hSame
  exact absurd hSame (by decide)

/-- The first of two overlapping runs finishes after the session was disposed. -/
theorem overlapping_outlives :
    Reachable (sample fun _ => 1000) overlapping ∧
      (overlapping.life 0).finished = [] ∧
      ((overlapping.step (sample fun _ => 1000) (.dispose 1)).life 0).finished = [] ∧
      (((overlapping.step (sample fun _ => 1000) (.dispose 1)).step (sample fun _ => 1000)
        (.advance 5000)).life 0).finished = [0] :=
  ⟨reachable_overlapping, by decide⟩

end

end Host

end LiveLine
