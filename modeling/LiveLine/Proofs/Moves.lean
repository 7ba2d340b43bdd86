import LiveLine.Proofs.Lives

/-!
# Moves

An act moves one life at most, in one of the ways that `Move` lists, and leaves all other lives as
they are.  What every move keeps can so be looked at move by move, one session at a time.

* `Sound.turn`, `Sound.life_act_of_ne`: an act moves one life at most, that of its session.
* `Leads.induct`, `Leads.life`: what is kept by every turn, and by every move of one life.
* `Reachable.session`: what every move keeps of the session holds of all sessions.
-/

namespace LiveLine

/-- A session as it is opened. -/
def Setup.session (w : Setup) (number : Nat) (editor : EditorId) (snapshot : Snapshot) : Session :=
  { number, editor, snapshot, timer := { delay := w.debounce } }

/-- The request for the cursor line of a session. -/
def Session.request (s : Session) : Request :=
  .through s.snapshot.document.text s.snapshot.cursor

/-- The session when it evaluates its cursor line, before the line is looked at. -/
def Session.evaluated (w : Setup) (s : Session) : Session :=
  { s with
    generation := s.generation + 1
    newest := if w.onSupersede = .cancel then none else s.newest }

/-- What is said of a completed run. -/
def Flight.verdict (w : Setup) (f : Flight) : Verdict :=
  .ofResult w.colors f.result f.request.targetLine

/-- What a session makes of a completed run. -/
def Session.presentation (w : Setup) (issued : Nat) (s : Session) (f : Flight) : Presentation :=
  s.presenter.present s.snapshot.document issued (f.verdict w).note w.ids

/-- Whether a newer evaluation of the session has superseded the run. -/
def Session.outdates (s : Session) (f : Flight) : Bool := f.generation ≠ s.generation

/-- What happens to a session that presents a completed run. -/
def Session.hearing (w : Setup) (issued : Nat) (s : Session) (f : Flight) : List Happening :=
  .judged (f.verdict w) f.request.targetLine :: (s.presentation w issued f).calls.map .called ++
    Host.fateEntries s (f.verdict w) (s.outdates f) (s.presentation w issued f)

/-- A session after it has presented a completed run. -/
def Session.heard (w : Setup) (issued : Nat) (s : Session) (f : Flight) : Session :=
  { s with
    presenter := (s.presentation w issued f).presenter
    phase := s.phaseAfter (s.outdates f) (f.verdict w).note.kind (s.presentation w issued f).fate }

namespace Host

/-- The run that starts when a session evaluates its cursor line. -/
def takeoff (w : Setup) (h : Host) (s : Session) : Flight :=
  let plan := w.plan h.started s.request
  { run := h.started
    session := s.number
    editor := s.editor
    generation := s.generation
    request := s.request
    due := h.now + plan.latency
    result := plan.result }

/-- What an evaluation makes of the life of `s`, on the way from `h` to `h'`. -/
inductive Fire (w : Setup) (h h' : Host) (s : Session) (l : Life) : Life → Prop
  | off (hDisposed : s.disposed = true) : Fire w h h' s l (l.hold s)
  | started (hDisposed : s.disposed = false) (hLine : w.evaluates s.snapshot.cursorText = true)
      (hCount : h'.started = h.started + 1) :
      Fire w h h' s l ((((l.supersede w s).record [.started h.started s.request]).launch
        (h.takeoff w (s.evaluated w))).hold
          { s.evaluated w with phase := .running, newest := some h.started })
  | rejected (hDisposed : s.disposed = false) (hLine : w.evaluates s.snapshot.cursorText = false) :
      Fire w h h' s l (((l.supersede w s).record
        (.rejected s.snapshot.cursor :: s.presenter.clearCalls.map .called)).hold
          { s.evaluated w with phase := .idle, presenter := {} })

/-- What the completion of a run makes of the life of its session. -/
inductive Landing (w : Setup) (h h' : Host) (f : Flight) (l : Life) : Life → Prop
  | ignored (hIgnored : ∀ s, l.session = some s →
        s.disposed = true ∨ s.outdates f = true ∧ w.onSupersede = .cancel) :
      Landing w h h' f l ((l.land f.run).record [.finished f.run f.result])
  | presented {s : Session} (hs : l.session = some s) (hDisposed : s.disposed = false)
      (hHeard : s.outdates f = false ∨ w.onSupersede = .finish)
      (hCount : h'.issued = (s.presentation w h.issued f).issued) :
      Landing w h h' f l ((((l.land f.run).record [.finished f.run f.result]).record
        (s.hearing w h.issued f)).hold (s.heard w h.issued f))

/-- What an act makes of a life, on the way from `h` to `h'`. -/
inductive Move (w : Setup) (h h' : Host) : Life → Life → Prop
  | opened (id : EditorId) (snapshot : Snapshot) :
      Move w h h' {} ((Life.record {} [.opened]).hold
        (w.session h.opened id snapshot))
  | edited {l : Life} {s : Session} (hs : l.session = some s) (snapshot : Snapshot) :
      Move w h h' l (l.hold { s with snapshot })
  | notified {l : Life} {s : Session} (hs : l.session = some s) (hDisposed : s.disposed = false) :
      Move w h h' l ((l.record (supersededBy s ++ [.scheduled])).hold
        { s with phase := .pending, timer := s.timer.schedule h.now () })
  /-- The timer has elapsed, or gives way to an evaluation at once. -/
  | fired {l l' : Life} {s : Session} (hs : l.session = some s) {pre : List Happening}
      (hPre : pre = [.fired] ∧ s.timer.isPending = true ∨ pre = supersededBy s)
      (hFire : Fire w h h' { s with timer := s.timer.cancel }
        ((l.record pre).hold { s with timer := s.timer.cancel }) l') : Move w h h' l l'
  | completed {l l' : Life} {f : Flight} (hf : f ∈ l.flights)
      (hLanding : Landing w h h' f l l') : Move w h h' l l'
  | disposed {l : Life} {s : Session} (hs : l.session = some s) :
      Move w h h' l ((l.release s).hold s.closed)
  | left {l : Life} {s : Session} (hs : l.session = some s) : Move w h h' l (l.release s).leave

section

variable {owner : Nat → EditorId} {w : Setup} {h : Host} {s : Session}

theorem Sound.life_session (hs : Sound owner h) (hm : s ∈ h.sessions) :
    (h.life s.number).session = some s := hs.numbered?_eq_some.mpr ⟨hm, rfl⟩

/-- Nothing is known of a session before it is opened. -/
theorem Sound.life_opened (hs : Sound owner h) : h.life h.opened = {} := by
  have hSession : h.numbered? h.opened = none :=
    List.find?_eq_none.mpr fun s hm => by simpa using Nat.ne_of_lt (hs.known s hm).number_lt
  have hFlights : h.flights.filter (·.session = h.opened) = [] :=
    List.filter_eq_nil_iff.mpr fun f hf => by simpa using Nat.ne_of_lt (hs.flight f hf).2.1
  have hEntries : h.journal.filter (·.session = h.opened) = [] :=
    List.filter_eq_nil_iff.mpr fun e he => by simpa using Nat.ne_of_lt (hs.entry e he).1
  simp only [life, hSession, hFlights, hEntries, List.map_nil]

/-- Putting a session in the place that it has among the sessions of a host. -/
theorem Sound.life_put {g : Host} (hs : Sound owner h) (hg : g.sessions = h.sessions)
    (hm : s ∈ h.sessions) {t : Session} (hn : t.number = s.number)
    (he : t.editor = s.editor) :
    (g.put t).life = Function.update g.life s.number ((g.life s.number).hold t) := by
  rw [← hn]
  exact Host.life_put (hg ▸ hs.place hm hn he)

/-- Forgetting the session of an editor. -/
theorem Sound.life_remove (hs : Sound owner h) (hm : s ∈ h.sessions) :
    (h.remove s.editor).life = Function.update h.life s.number (h.life s.number).leave := by
  have hKeep : ∀ n, (h.remove s.editor).numbered? n =
      if n = s.number then none else h.numbered? n := by
    intro n
    ext t
    rw [(hs.remove s.editor).numbered?_eq_some]
    simp only [Host.remove, List.mem_filter, decide_eq_true_eq]
    split
    · rename_i hn
      refine iff_of_false ?_ (by simp)
      rintro ⟨⟨ht, he⟩, htn⟩
      exact he (congrArg Session.editor (hs.eq_of_number ht hm (htn.trans hn)))
    · rename_i hn
      rw [hs.numbered?_eq_some]
      refine ⟨fun ⟨⟨ht, _⟩, htn⟩ => ⟨ht, htn⟩, fun ⟨ht, htn⟩ => ⟨⟨ht, fun he => hn ?_⟩, htn⟩⟩
      rw [← htn, hs.sorted.eq_of_editor ht hm he]
  funext n
  by_cases hn : n = s.number
  · subst hn
    rw [Function.update_self]
    simp only [life, hKeep, if_pos]
    rfl
  · rw [Function.update_of_ne hn]
    simp only [life, hKeep, if_neg hn]
    rfl

theorem start_eq (w : Setup) (h : Host) (s : Session) :
    h.start w s = ((h.log s [.started h.started s.request]).launch (h.takeoff w s)).put
      { s with phase := .running, newest := some h.started } := rfl

theorem reject_eq (w : Setup) (h : Host) (s : Session) :
    h.reject w s =
      (h.log s (.rejected s.snapshot.cursor :: s.presenter.clearCalls.map .called)).put
        { s with phase := .idle, presenter := {} } := rfl

theorem Sound.life_start (hs : Sound owner h) (hm : s ∈ h.sessions) {g : Host}
    (hg : g.sessions = h.sessions) {t : Session} (hn : t.number = s.number)
    (he : t.editor = s.editor) :
    (g.start w t).life = Function.update g.life s.number
      ((((g.life s.number).record [.started g.started t.request]).launch (g.takeoff w t)).hold
        { t with phase := .running, newest := some g.started }) := by
  have hOwn : (g.takeoff w t).session = s.number := hn
  rw [start_eq, hs.life_put ?_ hm ?_ ?_, life_launch, life_log, hOwn, hn]
  · simp only [Function.update_self, Function.update_idem]
  · exact hg
  · exact hn
  · exact he

theorem Sound.life_reject (hs : Sound owner h) (hm : s ∈ h.sessions) {g : Host}
    (hg : g.sessions = h.sessions) {t : Session} (hn : t.number = s.number)
    (he : t.editor = s.editor) :
    (g.reject w t).life = Function.update g.life s.number
      (((g.life s.number).record
        (.rejected t.snapshot.cursor :: t.presenter.clearCalls.map .called)).hold
        { t with phase := .idle, presenter := {} }) := by
  rw [reject_eq, hs.life_put ?_ hm ?_ ?_, life_log, hn]
  · simp only [Function.update_self, Function.update_idem]
  · exact hg
  · exact hn
  · exact he

theorem Sound.life_openEditor (hs : Sound owner h) {id : EditorId} (hNew : h.session? id = none)
    (snapshot : Snapshot) :
    (h.openEditor w id snapshot).life = Function.update h.life h.opened
      ((Life.record {} [.opened]).hold (w.session h.opened id snapshot)) := by
  have hPlace : ∀ t ∈ h.sessions, t.editor = id ↔ t.number = h.opened := fun t ht =>
    iff_of_false (session?_eq_none.mp hNew t ht) (Nat.ne_of_lt (hs.known t ht).number_lt)
  have hPut := Host.life_put (s := w.session h.opened id snapshot) hPlace
  have hLog := life_log { h.put (w.session h.opened id snapshot) with
    opened := h.opened + 1, focused := h.focused.or (some id) }
    (w.session h.opened id snapshot) [.opened]
  rw [show Host.life { h.put (w.session h.opened id snapshot) with
    opened := h.opened + 1, focused := h.focused.or (some id) } = _ from hPut,
    Function.update_self, Function.update_idem,
    show h.life (w.session h.opened id snapshot).number = {} from hs.life_opened] at hLog
  simp only [Host.openEditor, hNew]
  exact hLog

theorem Sound.life_dispose (hs : Sound owner h) (hm : s ∈ h.sessions) :
    (h.dispose s.editor).life =
      Function.update h.life s.number (((h.life s.number).release s).hold s.closed) := by
  have hf := (session?_eq_some hs.sorted).mpr ⟨hm, rfl⟩
  obtain ⟨flights, journal, hRelease⟩ := exists_release_eq h s
  have hSessions : (h.release s).sessions = h.sessions := by rw [hRelease]
  have hPut := hs.life_put hSessions hm (t := s.closed) rfl rfl
  rw [(hs.known s hm).life_release, Function.update_self, Function.update_idem] at hPut
  simp only [Host.dispose, hf]
  exact hPut

theorem Sound.life_evict (hs : Sound owner h) (hm : s ∈ h.sessions) :
    (h.evict s.editor).life =
      Function.update h.life s.number ((h.life s.number).release s).leave := by
  have hf := (session?_eq_some hs.sorted).mpr ⟨hm, rfl⟩
  have hk := hs.known s hm
  obtain ⟨flights, journal, hRelease⟩ := exists_release_eq h s
  have hLeave := (hs.release hk).1.life_remove (s := s) (by rw [hRelease]; exact hm)
  rw [hk.life_release, Function.update_self, Function.update_idem] at hLeave
  simp only [Host.evict, hf]
  exact hLeave

theorem Sound.life_presentResult (hs : Sound owner h) (hm : s ∈ h.sessions) {g : Host}
    (hg : g.sessions = h.sessions) (f : Flight) :
    (g.presentResult w s f).life = Function.update g.life s.number
      (((g.life s.number).record (s.hearing w g.issued f)).hold (s.heard w g.issued f)) := by
  have hPut := hs.life_put (g := g.log s (s.hearing w g.issued f)) hg hm
    (t := s.heard w g.issued f) rfl rfl
  rw [life_log, Function.update_self, Function.update_idem] at hPut
  exact hPut

theorem Sound.life_fire (hs : Sound owner h) (hf : h.session? s.editor = some s) :
    ∃ l', Fire w h (h.fire w s.editor) s (h.life s.number) l' ∧
      (h.fire w s.editor).life = Function.update h.life s.number l' := by
  have hm := (hs.mem_of_session? hf).1
  cases hDisposed : s.disposed with
  | true =>
    have hSame : h.fire w s.editor = h := by simp [Host.fire, hf, hDisposed]
    rw [hSame]
    refine ⟨_, .off hDisposed, ?_⟩
    rw [Life.hold_eq_self (hs.life_session hm), Function.update_eq_self]
  | false =>
    obtain ⟨flights, journal, hSupersede⟩ := exists_supersede_eq w h s
    have hSessions : (h.supersede w s).sessions = h.sessions := by rw [hSupersede]
    have hStarted : (h.supersede w s).started = h.started := by rw [hSupersede]
    have hTakeoff : (h.supersede w s).takeoff w = h.takeoff w := by rw [hSupersede]; rfl
    have hLife := (hs.known s hm).life_supersede (w := w)
    cases hLine : w.evaluates s.snapshot.cursorText with
    | true =>
      have hFire : h.fire w s.editor = (h.supersede w s).start w (s.evaluated w) := by
        simp [Host.fire, hf, hDisposed, Session.evaluated, hLine]
      have hStart := hs.life_start (w := w) hm hSessions (t := s.evaluated w) rfl rfl
      rw [hLife, hStarted, hTakeoff, Function.update_self, Function.update_idem] at hStart
      rw [hFire]
      exact ⟨_, .started hDisposed hLine (congrArg (· + 1) hStarted), hStart⟩
    | false =>
      have hFire : h.fire w s.editor = (h.supersede w s).reject w (s.evaluated w) := by
        simp [Host.fire, hf, hDisposed, Session.evaluated, hLine]
      have hReject := hs.life_reject (w := w) hm hSessions (t := s.evaluated w) rfl rfl
      rw [hLife, Function.update_self, Function.update_idem] at hReject
      rw [hFire]
      exact ⟨_, .rejected hDisposed hLine, hReject⟩

/-- An evaluation looks at the clock and the number of runs only. -/
theorem Fire.of_eq {g h' : Host} {l l' : Life} (hFire : Fire w g h' s l l')
    (hNow : g.now = h.now) (hStarted : g.started = h.started) : Fire w h h' s l l' := by
  have hTakeoff : g.takeoff w = h.takeoff w := by
    funext x
    simp only [takeoff, hNow, hStarted]
  cases hFire with
  | off hDisposed => exact .off hDisposed
  | started hDisposed hLine hCount =>
    rw [hStarted, hTakeoff]
    exact .started hDisposed hLine (hStarted ▸ hCount)
  | rejected hDisposed hLine => exact .rejected hDisposed hLine

theorem Sound.life_edit (hs : Sound owner h) (hm : s ∈ h.sessions) (text : Option Text)
    (cursor : Option Nat) :
    (h.edit s.editor text cursor).life = Function.update h.life s.number
      ((h.life s.number).hold { s with snapshot :=
        { document := (text.map Document.mk).getD s.snapshot.document
          cursor := cursor.getD s.snapshot.cursor } }) := by
  have hf := (session?_eq_some hs.sorted).mpr ⟨hm, rfl⟩
  simp only [Host.edit, hf]
  exact hs.life_put rfl hm rfl rfl

theorem Sound.life_notify (hs : Sound owner h) (hm : s ∈ h.sessions)
    (hDisposed : s.disposed = false) :
    (h.notify s.editor).life = Function.update h.life s.number
      (((h.life s.number).record (supersededBy s ++ [.scheduled])).hold
        { s with phase := .pending, timer := s.timer.schedule h.now () }) := by
  have hf := (session?_eq_some hs.sorted).mpr ⟨hm, rfl⟩
  have hNotify : h.notify s.editor = (h.log s (supersededBy s ++ [.scheduled])).put
      { s with phase := .pending, timer := s.timer.schedule h.now () } := by
    simp only [Host.notify, hf, hDisposed]
    rfl
  rw [hNotify, hs.life_put ?_ hm ?_ ?_, life_log]
  · simp only [Function.update_self, Function.update_idem]
  · rfl
  · rfl
  · rfl

/-- An evaluation after the session's timer has elapsed or was dropped. -/
theorem Sound.life_fired (hs : Sound owner h) (hm : s ∈ h.sessions) (pre : List Happening) :
    ∃ l', Fire w h (((h.log s pre).put { s with timer := s.timer.cancel }).fire w s.editor)
        { s with timer := s.timer.cancel }
        (((h.life s.number).record pre).hold { s with timer := s.timer.cancel }) l' ∧
      (((h.log s pre).put { s with timer := s.timer.cancel }).fire w s.editor).life =
        Function.update h.life s.number l' := by
  have hk : Known owner h { s with timer := s.timer.cancel } :=
    (hs.known s hm).update rfl rfl fun _ h => h
  have hg := (hs.log (hs.known s hm) pre).put hk
  have hf' : ((h.log s pre).put { s with timer := s.timer.cancel }).session? s.editor =
      some { s with timer := s.timer.cancel } :=
    (session?_eq_some hg.sorted).mpr ⟨(mem_insertSession hs.sorted).mpr (Or.inl rfl), rfl⟩
  obtain ⟨l', hFire, hLife⟩ := hg.life_fire (w := w) (s := { s with timer := s.timer.cancel }) hf'
  have hPut : ((h.log s pre).put { s with timer := s.timer.cancel }).life =
      Function.update h.life s.number
        (((h.life s.number).record pre).hold { s with timer := s.timer.cancel }) := by
    rw [hs.life_put ?_ hm ?_ ?_, life_log]
    · simp only [Function.update_self, Function.update_idem]
    · rfl
    · rfl
    · rfl
  rw [hPut, Function.update_self] at hFire
  rw [hPut, Function.update_idem] at hLife
  exact ⟨l', hFire.of_eq rfl rfl, hLife⟩

theorem act_begin {id : EditorId} (hf : h.session? id = some s) :
    h.act w (.begin id) =
      ((h.log s (supersededBy s)).put { s with timer := s.timer.cancel }).fire w id := by
  simp only [act, begin, cancelTimer, hf]

theorem act_elapse {id : EditorId} (hf : h.session? id = some s) :
    h.act w (.elapse id) =
      ((h.log s [.fired]).put { s with timer := s.timer.cancel }).fire w id := by
  simp only [act, elapse, hf]

theorem Sound.life_complete (hs : Sound owner h) {f : Flight} (hf : f ∈ h.flights) :
    ∃ l', Landing w h (h.complete w f) f (h.life f.session) l' ∧
      (h.complete w f).life = Function.update h.life f.session l' := by
  have hOwn : ∀ g ∈ h.flights, g.run = f.run → g.session = f.session :=
    fun g hg hr => congrArg Flight.session (hs.eq_of_run hg hf hr)
  have hFinished := life_finished hOwn
  unfold Host.complete
  dsimp only
  split
  · rename_i hNone
    exact ⟨_, .ignored fun s hs' => absurd (hNone.symm.trans hs') (by simp), hFinished⟩
  · rename_i s hSome
    obtain ⟨hm, hn⟩ := hs.numbered?_eq_some.mp hSome
    split
    · rename_i hOut
      refine ⟨_, .ignored fun t ht => ?_, hFinished⟩
      obtain rfl : s = t := Option.some.inj (hSome.symm.trans ht)
      simpa [Session.outdates] using hOut
    · rename_i hIn
      obtain ⟨hDisposed, hHeard⟩ :
          s.disposed = false ∧ (s.outdates f = false ∨ w.onSupersede = .finish) := by
        simp only [Bool.or_eq_true, Bool.and_eq_true, decide_eq_true_eq, not_or, not_and] at hIn
        refine ⟨by simpa using hIn.1, ?_⟩
        cases hOut : s.outdates f with
        | false => exact Or.inl rfl
        | true =>
          have hPolicy := hIn.2 (by simpa [Session.outdates] using hOut)
          exact Or.inr (by cases hw : w.onSupersede <;> simp_all)
      have hPresent := hs.life_presentResult (w := w) hm (g := { h.land f.run with
        journal := ⟨f.session, f.editor, .finished f.run f.result⟩ :: h.journal }) rfl f
      rw [hFinished, hn, Function.update_self, Function.update_idem] at hPresent
      exact ⟨_, .presented hSome hDisposed hHeard rfl, hPresent⟩

/-- The session that a run was started by, after the run has completed. -/
theorem Sound.session_complete (hs : Sound owner h) {f : Flight} (hf : f ∈ h.flights) :
    ∃ l', Landing w h (h.complete w f) f (h.life f.session) l' ∧
      ∀ t, l'.session = some t ↔ t ∈ (h.complete w f).sessions ∧ t.number = f.session := by
  obtain ⟨l', hLanding, hLife⟩ := hs.life_complete (w := w) hf
  refine ⟨l', hLanding, fun t => ?_⟩
  have hSame := congrArg Life.session (congrFun hLife f.session)
  rw [Function.update_self] at hSame
  rw [← hSame]
  exact (hs.complete hf).numbered?_eq_some

theorem issued_fire (w : Setup) (h : Host) (id : EditorId) : (h.fire w id).issued = h.issued := by
  obtain ⟨sessions, flights, started, journal, hFire⟩ := exists_fire_eq w h id
  rw [hFire]

theorem issued_le_present (p : Presenter) (d : Document) (issued : Nat) (a : Annotation)
    (ids : Nat → Decoration.Id) : issued ≤ (p.present d issued a ids).issued := by
  unfold Presenter.present
  split
  · exact Nat.le_refl _
  · dsimp only
    split
    · exact Nat.le_add_right ..
    · exact Nat.le_refl _

theorem issued_le_complete (w : Setup) (h : Host) (f : Flight) :
    h.issued ≤ (h.complete w f).issued := by
  unfold Host.complete
  dsimp only
  split
  · exact Nat.le_refl _
  · split
    · exact Nat.le_refl _
    · exact issued_le_present ..

/-- One life at most is moved on the way from `h` to `h'`, and no decoration is forgotten. -/
structure Turn (w : Setup) (h h' : Host) : Prop where
  life : h'.life = h.life ∨
    ∃ n l', Move w h h' (h.life n) l' ∧ h'.life = Function.update h.life n l'
  issued : h.issued ≤ h'.issued

namespace Turn

theorem refl (w : Setup) (h : Host) : Turn w h h := ⟨Or.inl rfl, Nat.le_refl _⟩

theorem notify (hs : Sound owner h) (id : EditorId) : Turn w h (h.notify id) := by
  cases hf : h.session? id with
  | none =>
    rw [show h.notify id = h by simp only [Host.notify, hf]]
    exact refl w h
  | some s =>
    obtain ⟨hm, rfl⟩ := hs.mem_of_session? hf
    cases hDisposed : s.disposed with
    | true =>
      rw [show h.notify s.editor = h by simp [Host.notify, hf, hDisposed]]
      exact refl w h
    | false =>
      refine ⟨Or.inr ⟨s.number, _, .notified (hs.life_session hm) hDisposed,
        hs.life_notify hm hDisposed⟩, ?_⟩
      simp only [Host.notify, hf, hDisposed]
      exact Nat.le_refl _

theorem edit (hs : Sound owner h) (id : EditorId) (text : Option Text) (cursor : Option Nat) :
    Turn w h (h.edit id text cursor) := by
  cases hf : h.session? id with
  | none =>
    rw [show h.edit id text cursor = h by simp only [Host.edit, hf]]
    exact refl w h
  | some s =>
    obtain ⟨hm, rfl⟩ := hs.mem_of_session? hf
    refine ⟨Or.inr ⟨s.number, _, .edited (hs.life_session hm) _, hs.life_edit hm text cursor⟩, ?_⟩
    simp only [Host.edit, hf]
    exact Nat.le_refl _

/-- An evaluation after the session's timer has elapsed or was dropped. -/
theorem fire (hs : Sound owner h) {id : EditorId} (hf : h.session? id = some s)
    {pre : List Happening}
    (hPre : pre = [.fired] ∧ s.timer.isPending = true ∨ pre = supersededBy s) :
    Turn w h (((h.log s pre).put { s with timer := s.timer.cancel }).fire w id) := by
  obtain ⟨hm, rfl⟩ := hs.mem_of_session? hf
  obtain ⟨l', hFire, hLife⟩ := hs.life_fired (w := w) hm pre
  have hIssued := issued_fire w ((h.log s pre).put { s with timer := s.timer.cancel }) s.editor
  exact ⟨Or.inr ⟨s.number, l', .fired (hs.life_session hm) hPre hFire, hLife⟩,
    Nat.le_of_eq hIssued.symm⟩

theorem dispose (hs : Sound owner h) (id : EditorId) : Turn w h (h.dispose id) := by
  cases hf : h.session? id with
  | none =>
    rw [show h.dispose id = h by simp only [Host.dispose, hf]]
    exact refl w h
  | some s =>
    obtain ⟨hm, rfl⟩ := hs.mem_of_session? hf
    obtain ⟨flights, journal, hRelease⟩ := exists_release_eq h s
    refine ⟨Or.inr ⟨s.number, _, .disposed (hs.life_session hm), hs.life_dispose hm⟩, ?_⟩
    simp only [Host.dispose, hf, hRelease]
    exact Nat.le_refl _

theorem evict (hs : Sound owner h) (id : EditorId) : Turn w h (h.evict id) := by
  cases hf : h.session? id with
  | none =>
    rw [show h.evict id = h by simp only [Host.evict, hf]]
    exact refl w h
  | some s =>
    obtain ⟨hm, rfl⟩ := hs.mem_of_session? hf
    obtain ⟨flights, journal, hRelease⟩ := exists_release_eq h s
    refine ⟨Or.inr ⟨s.number, _, .left (hs.life_session hm), hs.life_evict hm⟩, ?_⟩
    simp only [Host.evict, hf, hRelease]
    exact Nat.le_refl _

theorem openEditor (hs : Sound owner h) {id : EditorId} (hNew : h.session? id = none)
    (snapshot : Snapshot) : Turn w h (h.openEditor w id snapshot) := by
  have hMove : Move w h (h.openEditor w id snapshot) (h.life h.opened)
      ((Life.record {} [.opened]).hold (w.session h.opened id snapshot)) := by
    rw [hs.life_opened]
    exact .opened id snapshot
  refine ⟨Or.inr ⟨h.opened, _, hMove, hs.life_openEditor hNew snapshot⟩, ?_⟩
  simp only [Host.openEditor, hNew]
  exact Nat.le_refl _

end Turn

/-- **An act moves one life at most.** -/
theorem Sound.turn (hs : Sound owner h) {a : Act} (possible : a.Possible h) :
    Turn w h (h.act w a) := by
  cases a with
  | openEditor id snapshot => exact .openEditor hs possible snapshot
  | edit id text cursor => exact .edit hs id text cursor
  | notify id => exact .notify hs id
  | begin id =>
    cases hf : h.session? id with
    | none =>
      have hSame : h.act w (.begin id) = h := by
        simp [Host.act, Host.begin, Host.cancelTimer, Host.fire, hf]
      rw [hSame]
      exact .refl w h
    | some s =>
      rw [act_begin hf]
      exact .fire hs hf (Or.inr rfl)
  | elapse id =>
    obtain ⟨s, hf, hPending⟩ := possible
    rw [act_elapse hf]
    exact .fire hs hf (Or.inl ⟨rfl, hPending⟩)
  | complete f =>
    obtain ⟨l', hLanding, hLife⟩ := hs.life_complete (w := w) possible
    have hFlight : f ∈ (h.life f.session).flights := mem_flights_life.mpr ⟨possible, rfl⟩
    exact ⟨Or.inr ⟨f.session, l', .completed hFlight hLanding, hLife⟩, issued_le_complete w h f⟩
  | dispose id => exact .dispose hs id
  | evict id => exact .evict hs id
  | focus focused => exact ⟨Or.inl rfl, Nat.le_refl _⟩
  | tick now => exact ⟨Or.inl rfl, Nat.le_refl _⟩

/-- The number of the session that an act is about. -/
def Act.subject? (h : Host) : Act → Option Nat
  | openEditor .. => some h.opened
  | edit id .. | notify id | begin id | elapse id | dispose id | evict id =>
    (h.session? id).map Session.number
  | complete f => some f.session
  | focus _ | tick _ => none

theorem Sound.mem_of_subject (hs : Sound owner h) {id : EditorId} {n : Nat}
    (hn : (h.session? id).map Session.number = some n) :
    ∃ s ∈ h.sessions, s.editor = id ∧ s.number = n := by
  obtain ⟨s, hf, hNumber⟩ := Option.map_eq_some_iff.mp hn
  exact ⟨s, (hs.mem_of_session? hf).1, (hs.mem_of_session? hf).2, hNumber⟩

/-- An act on the session of an editor, which does nothing where there is none. -/
theorem Sound.life_of_ne (hs : Sound owner h) {id : EditorId} {g : Host} {n : Nat}
    (hNone : h.session? id = none → g = h)
    (hSome : ∀ s ∈ h.sessions, s.editor = id → ∃ l', g.life = Function.update h.life s.number l')
    (hn : (h.session? id).map Session.number ≠ some n) : g.life n = h.life n := by
  cases hf : h.session? id with
  | none => rw [hNone hf]
  | some s =>
    obtain ⟨hm, he⟩ := hs.mem_of_session? hf
    obtain ⟨l', hLife⟩ := hSome s hm he
    have hne : n ≠ s.number := fun h => hn (by rw [hf, h]; rfl)
    rw [hLife, Function.update_of_ne hne]

/-- **An act moves the life of the session that it is about, and no other.** -/
theorem Sound.life_act_of_ne (hs : Sound owner h) {a : Act} (possible : a.Possible h) {n : Nat}
    (hn : a.subject? h ≠ some n) : (h.act w a).life n = h.life n := by
  cases a with
  | openEditor id snapshot =>
    have hne : n ≠ h.opened := fun h => hn (congrArg some h.symm)
    rw [show h.act w (.openEditor id snapshot) = h.openEditor w id snapshot from rfl,
      hs.life_openEditor possible snapshot, Function.update_of_ne hne]
  | edit id text cursor =>
    refine hs.life_of_ne (fun hf => by simp only [Host.act, Host.edit, hf]) ?_ hn
    rintro s hm rfl
    exact ⟨_, hs.life_edit hm text cursor⟩
  | notify id =>
    refine hs.life_of_ne (fun hf => by simp only [Host.act, Host.notify, hf]) ?_ hn
    rintro s hm rfl
    cases hDisposed : s.disposed with
    | false => exact ⟨_, hs.life_notify hm hDisposed⟩
    | true =>
      have hf := (session?_eq_some hs.sorted).mpr ⟨hm, rfl⟩
      have hSame : h.act w (.notify s.editor) = h := by
        simp [Host.act, Host.notify, hf, hDisposed]
      exact ⟨h.life s.number, by rw [hSame, Function.update_eq_self]⟩
  | begin id =>
    refine hs.life_of_ne (fun hf => ?_) ?_ hn
    · simp only [Host.act, Host.begin, Host.cancelTimer, Host.fire, hf]
    rintro s hm rfl
    rw [act_begin ((session?_eq_some hs.sorted).mpr ⟨hm, rfl⟩)]
    obtain ⟨l', -, hLife⟩ := hs.life_fired (w := w) hm (supersededBy s)
    exact ⟨l', hLife⟩
  | elapse id =>
    refine hs.life_of_ne (fun hf => by simp only [Host.act, Host.elapse, hf]) ?_ hn
    rintro s hm rfl
    rw [act_elapse ((session?_eq_some hs.sorted).mpr ⟨hm, rfl⟩)]
    obtain ⟨l', -, hLife⟩ := hs.life_fired (w := w) hm [.fired]
    exact ⟨l', hLife⟩
  | complete f =>
    have hne : n ≠ f.session := fun h => hn (congrArg some h.symm)
    obtain ⟨l', -, hLife⟩ := hs.life_complete (w := w) possible
    rw [show h.act w (.complete f) = h.complete w f from rfl, hLife, Function.update_of_ne hne]
  | dispose id =>
    refine hs.life_of_ne (fun hf => by simp only [Host.act, Host.dispose, hf]) ?_ hn
    rintro s hm rfl
    exact ⟨_, hs.life_dispose hm⟩
  | evict id =>
    refine hs.life_of_ne (fun hf => by simp only [Host.act, Host.evict, hf]) ?_ hn
    rintro s hm rfl
    exact ⟨_, hs.life_evict hm⟩
  | focus focused => rfl
  | tick now => rfl

/-- What is kept by every turn is kept by all that acts lead to. -/
theorem Leads.induct {I : Host → Prop} {h' : Host} (hs : ∃ owner, Sound owner h) (hI : I h)
    (turn : ∀ {owner h h'}, Sound owner h → I h → Turn w h h' → I h') (hl : Leads w h h') :
    I h' := by
  induction hl with
  | refl => exact hI
  | act prior a possible ih =>
    obtain ⟨owner, hs⟩ := Leads.sound prior hs
    exact turn hs ih (hs.turn possible)

/-- What is kept by every move of the life with a number. -/
theorem Leads.life {P : Life → Prop} {h' : Host} {n : Nat} (hs : ∃ owner, Sound owner h)
    (hP : P (h.life n))
    (move : ∀ {owner h h' l'}, Sound owner h → P (h.life n) → Move w h h' (h.life n) l' → P l')
    (hl : Leads w h h') : P (h'.life n) := by
  refine Leads.induct (I := fun h => P (h.life n)) hs hP ?_ hl
  intro owner h h' hs ih hTurn
  rcases hTurn.life with hSame | ⟨m, l', hMove, hLife⟩
  · rw [hSame]
    exact ih
  · rw [hLife]
    by_cases hn : n = m
    · subst hn
      rw [Function.update_self]
      exact move hs ih hMove
    · rw [Function.update_of_ne hn]
      exact ih

/-- **What every move of a life keeps of its session holds of all sessions.**  A session has to be
looked at together with its life: its runs in flight, and what happened to it. -/
theorem Reachable.session {P : Session → Life → Prop}
    (move : ∀ {owner h h' n l'}, Sound owner h →
      (∀ s, (h.life n).session = some s → P s (h.life n)) → Move w h h' (h.life n) l' →
      ∀ s, l'.session = some s → P s l')
    (hr : Reachable w h) (hm : s ∈ h.sessions) : P s (h.life s.number) := by
  obtain ⟨owner, hs⟩ := hr.sound
  have hLife := Leads.life (P := fun l => ∀ s, l.session = some s → P s l) (n := s.number)
    ⟨fun _ => 0, Sound.initial⟩ (fun s hs => absurd hs (by simp [Host.life, numbered?])) move hr
  exact hLife s (hs.life_session hm)

end

end Host

end LiveLine
