import LiveLine.Proofs.Scripts
import LiveLine.Proofs.Moves

/-!
# The parts of editors

The part of an editor is what a host holds of it, whichever of its sessions that concerns: the
session that is open, the runs in flight that any of its sessions started, and what happened to all
of them, in order.  An act changes the part of its editor only, and what it makes of that part is
said by the same updates that say what it makes of a life.

* `part_log`, `part_put`, `part_land`, `part_launch`: the pieces of an act.
* `Sound.part_fire`, `Sound.part_complete`, `Sound.part_dispose` and so on: the acts.
* `Sound.part_act_of_ne`: an act leaves the parts of all other editors as they are.
-/

namespace LiveLine

/-- Whether a session takes notice of a completed run. -/
def Session.attends (w : Setup) (s : Session) (f : Flight) : Prop :=
  s.number = f.session ∧ s.disposed = false ∧ (s.outdates f = false ∨ w.onSupersede = .finish)

instance (w : Setup) (s : Session) (f : Flight) : Decidable (s.attends w f) :=
  inferInstanceAs (Decidable (_ ∧ _))

/-- What the completion of a run makes of the life that it belongs to. -/
def Life.complete (w : Setup) (issued : Nat) (l : Life) (f : Flight) : Life :=
  let landed := (l.land f.run).record [.finished f.run f.result]
  match l.session with
  | none => landed
  | some s =>
    if s.attends w f then (landed.record (s.hearing w issued f)).hold (s.heard w issued f)
    else landed

namespace Host

/-- What a host holds of an editor. -/
def part (h : Host) (id : EditorId) : Life where
  session := h.session? id
  flights := h.flights.filter (·.editor = id)
  history := (h.journal.filter (·.editor = id)).map (·.event)

section

variable {owner : Nat → EditorId} {w : Setup} {h : Host} {s t : Session} {id : EditorId}
  {f : Flight}

@[simp] theorem mem_flights_part : f ∈ (h.part id).flights ↔ f ∈ h.flights ∧ f.editor = id := by
  simp [part]

/-- The session of a part that has changed. -/
theorem session?_of_part {g : Host} {l : Life} (hPart : g.part = Function.update h.part id l) :
    g.session? id = l.session := by
  have hSession := congrArg Life.session (congrFun hPart id)
  rwa [Function.update_self] at hSession

/-! ### The pieces of an act -/

theorem session?_put (hSorted : Sorted h.sessions) (id : EditorId) :
    (h.put s).session? id = if s.editor = id then some s else h.session? id := by
  ext t
  rw [session?_eq_some (sorted_insertSession hSorted), put, mem_insertSession hSorted]
  split
  · rename_i he
    subst he
    rw [Option.some.injEq]
    constructor
    · rintro ⟨rfl | ⟨-, hne⟩, he⟩
      · rfl
      · exact absurd he hne
    · rintro rfl
      exact ⟨Or.inl rfl, rfl⟩
  · rename_i hne
    rw [session?_eq_some hSorted]
    constructor
    · rintro ⟨rfl | ⟨ht, -⟩, he⟩
      · exact absurd he hne
      · exact ⟨ht, he⟩
    · rintro ⟨ht, rfl⟩
      exact ⟨Or.inr ⟨ht, fun he => hne he.symm⟩, rfl⟩

/-- A session whose timer was cancelled is found where it was. -/
theorem session?_cancelled (hSorted : Sorted h.sessions) {id : EditorId}
    (hf : h.session? id = some s) (pre : List Happening) :
    ((h.log s pre).put { s with timer := s.timer.cancel }).session? id =
      some { s with timer := s.timer.cancel } := by
  rw [session?_put (h := h.log s pre) hSorted]
  exact if_pos ((session?_eq_some hSorted).mp hf).2

theorem session?_remove (hSorted : Sorted h.sessions) (gone id : EditorId) :
    (h.remove gone).session? id = if id = gone then none else h.session? id := by
  ext t
  rw [session?_eq_some (hSorted.filter _), remove, List.mem_filter]
  split
  · rename_i he
    subst he
    simp
  · rename_i hne
    rw [session?_eq_some hSorted]
    constructor
    · rintro ⟨⟨ht, -⟩, he⟩
      exact ⟨ht, he⟩
    · rintro ⟨ht, rfl⟩
      exact ⟨⟨ht, by simpa using hne⟩, rfl⟩

theorem part_log (h : Host) (s : Session) (es : List Happening) :
    (h.log s es).part = Function.update h.part s.editor ((h.part s.editor).record es) := by
  funext id
  by_cases hid : id = s.editor
  · subst hid
    have hEntries : ((es.map s.entry).reverse.filter (·.editor = s.editor)).map (·.event) =
        es.reverse := by
      rw [List.filter_eq_self.mpr (by simp [Session.entry]), ← List.map_reverse, List.map_map]
      exact List.map_id _
    rw [Function.update_self]
    simp only [part, log, List.filter_append, List.map_append, hEntries]
    rfl
  · have hEntries : (es.map s.entry).reverse.filter (·.editor = id) = [] :=
      List.filter_eq_nil_iff.mpr (by simp [Session.entry, Ne.symm hid])
    rw [Function.update_of_ne hid]
    simp only [part, log, List.filter_append, hEntries]
    rfl

theorem part_put (hSorted : Sorted h.sessions) :
    (h.put s).part = Function.update h.part s.editor ((h.part s.editor).hold s) := by
  funext id
  have hSession := session?_put (s := s) hSorted id
  by_cases hid : id = s.editor
  · subst hid
    rw [Function.update_self]
    rw [if_pos rfl] at hSession
    simp only [part, hSession]
    rfl
  · rw [Function.update_of_ne hid]
    rw [if_neg (Ne.symm hid)] at hSession
    simp only [part, hSession]
    rfl

theorem part_remove (hSorted : Sorted h.sessions) (id : EditorId) :
    (h.remove id).part = Function.update h.part id (h.part id).leave := by
  funext other
  have hSession := session?_remove hSorted id other
  by_cases hid : other = id
  · subst hid
    rw [Function.update_self]
    rw [if_pos rfl] at hSession
    simp only [part, hSession]
    rfl
  · rw [Function.update_of_ne hid]
    rw [if_neg hid] at hSession
    simp only [part, hSession]
    rfl

theorem part_land {run : RunNumber} (hOwn : ∀ f ∈ h.flights, f.run = run → f.editor = id) :
    (h.land run).part = Function.update h.part id ((h.part id).land run) := by
  funext other
  have hComm : (h.flights.filter (·.run ≠ run)).filter (·.editor = other) =
      (h.flights.filter (·.editor = other)).filter (·.run ≠ run) := by
    simp only [List.filter_filter, Bool.and_comm]
  by_cases hid : other = id
  · subst hid
    rw [Function.update_self]
    simp only [part, land, hComm]
    rfl
  · have hKeep : (h.flights.filter (·.editor = other)).filter (·.run ≠ run) =
        h.flights.filter (·.editor = other) := by
      refine List.filter_eq_self.mpr fun f hf => ?_
      obtain ⟨hf, he⟩ := List.mem_filter.mp hf
      simp only [decide_eq_true_eq] at he ⊢
      exact fun hr => hid (he.symm.trans (hOwn f hf hr))
    rw [Function.update_of_ne hid]
    simp only [part, land, hComm, hKeep]
    rfl

theorem part_launch (h : Host) (f : Flight) :
    (h.launch f).part = Function.update h.part f.editor ((h.part f.editor).launch f) := by
  funext id
  by_cases hid : id = f.editor
  · subst hid
    rw [Function.update_self]
    simp [part, session?, launch, Life.launch]
  · rw [Function.update_of_ne hid]
    simp [part, session?, launch, Ne.symm hid]

theorem part_finished (hOwn : ∀ g ∈ h.flights, g.run = f.run → g.editor = f.editor) :
    ({ h.land f.run with
      journal := ⟨f.session, f.editor, .finished f.run f.result⟩ :: h.journal } : Host).part =
      Function.update h.part f.editor
        (((h.part f.editor).land f.run).record [.finished f.run f.result]) := by
  funext id
  have hLand := congrFun (part_land hOwn) id
  by_cases hid : id = f.editor
  · subst hid
    rw [Function.update_self] at hLand ⊢
    rw [← hLand]
    simp [part, session?, land, Life.record]
  · rw [Function.update_of_ne hid] at hLand ⊢
    rw [← hLand]
    simp [part, session?, land, Ne.symm hid]

/-! ### Superseding and letting go -/

/-- The runs that a session can abort are its editor's. -/
theorem Sound.editor_of_newest (hs : Sound owner h) (hk : Known owner h s) {run : RunNumber}
    (hRun : s.newest = some run) : ∀ f ∈ h.flights, f.run = run → f.editor = s.editor := by
  intro f hf hr
  rw [(hs.flight f hf).2.2, (hk.newest hRun).2 f hf hr, hk.editor_eq]

theorem Sound.newest?_part (hs : Sound owner h) (hk : Known owner h s) :
    (h.part s.editor).newest? s = h.newestFlight? s := by
  unfold Life.newest? newestFlight? flight?
  cases hRun : s.newest with
  | none => rfl
  | some run =>
    have hOwn := hs.editor_of_newest hk hRun
    have hSame : (h.part s.editor).flights.any (·.run = run) =
        (h.flights.find? (·.run = run)).isSome := by
      rw [Bool.eq_iff_iff, List.any_eq_true, List.find?_isSome]
      constructor
      · rintro ⟨f, hf, hr⟩
        exact ⟨f, (mem_flights_part.mp hf).1, hr⟩
      · rintro ⟨f, hf, hr⟩
        exact ⟨f, mem_flights_part.mpr ⟨hf, hOwn f hf (by simpa using hr)⟩, hr⟩
    simp only [Option.filter_some, hSame]

theorem Sound.part_supersede (hs : Sound owner h) (hk : Known owner h s) :
    (h.supersede w s).part =
      Function.update h.part s.editor ((h.part s.editor).supersede w s) := by
  unfold Host.supersede Life.supersede
  rw [hs.newest?_part hk]
  split
  · cases hRun : h.newestFlight? s with
    | none => exact (Function.update_eq_self ..).symm
    | some run =>
      have hOwn := hs.editor_of_newest hk (Option.filter_eq_some_iff.mp hRun).1
      dsimp only
      rw [part_log, part_land hOwn, Function.update_self, Function.update_idem]
  · rw [Function.update_eq_self]

theorem Sound.part_release (hs : Sound owner h) (hk : Known owner h s) :
    (h.release s).part = Function.update h.part s.editor ((h.part s.editor).release s) := by
  unfold Host.release Life.release
  rw [hs.newest?_part hk]
  cases hRun : h.newestFlight? s with
  | none => exact part_log h s (Life.parting s none)
  | some run =>
    have hOwn := hs.editor_of_newest hk (Option.filter_eq_some_iff.mp hRun).1
    have hLog := part_log h s (Life.parting s (some run))
    have hLand := part_land (h := h.log s (Life.parting s (some run))) hOwn
    rwa [hLog, Function.update_self, Function.update_idem] at hLand

/-! ### The acts of an editor -/

theorem Sound.known_of_session? (hs : Sound owner h) (hf : h.session? id = some s) :
    Known owner h s ∧ s.editor = id :=
  ⟨hs.known s (hs.mem_of_session? hf).1, (hs.mem_of_session? hf).2⟩

theorem part_start (hSorted : Sorted h.sessions) (t : Session) :
    (h.start w t).part = Function.update h.part t.editor
      ((((h.part t.editor).record [.started h.started t.request]).launch (h.takeoff w t)).hold
        { t with phase := .running, newest := some h.started }) := by
  have hOwn : (h.takeoff w t).editor = t.editor := rfl
  rw [start_eq, part_put (h := (h.log t _).launch _) hSorted, part_launch, part_log, hOwn]
  simp only [Function.update_self, Function.update_idem]

theorem part_reject (hSorted : Sorted h.sessions) (t : Session) :
    (h.reject w t).part = Function.update h.part t.editor
      (((h.part t.editor).record
        (.rejected t.snapshot.cursor :: t.presenter.clearCalls.map .called)).hold
        { t with phase := .idle, presenter := {} }) := by
  rw [reject_eq, part_put (h := h.log t _) hSorted, part_log]
  simp only [Function.update_self, Function.update_idem]

theorem Sound.part_fire (hs : Sound owner h) (hf : h.session? id = some s) :
    ∃ l', Fire w h (h.fire w id) s (h.part id) l' ∧
      (h.fire w id).part = Function.update h.part id l' := by
  obtain ⟨hk, rfl⟩ := hs.known_of_session? hf
  cases hDisposed : s.disposed with
  | true =>
    have hSame : h.fire w s.editor = h := by simp [Host.fire, hf, hDisposed]
    rw [hSame]
    refine ⟨_, .off hDisposed, ?_⟩
    rw [Life.hold_eq_self (l := h.part s.editor) hf, Function.update_eq_self]
  | false =>
    obtain ⟨flights, journal, hSupersede⟩ := exists_supersede_eq w h s
    have hSorted : Sorted (h.supersede w s).sessions := by
      rw [hSupersede]
      exact hs.sorted
    have hStarted : (h.supersede w s).started = h.started := by rw [hSupersede]
    have hTakeoff : (h.supersede w s).takeoff w = h.takeoff w := by rw [hSupersede]; rfl
    have hPart := hs.part_supersede (w := w) hk
    cases hLine : w.evaluates s.snapshot.cursorText with
    | true =>
      have hFire : h.fire w s.editor = (h.supersede w s).start w (s.evaluated w) := by
        simp [Host.fire, hf, hDisposed, Session.evaluated, hLine]
      have hStart := part_start (w := w) hSorted (s.evaluated w)
      rw [hPart, hStarted, hTakeoff, show (s.evaluated w).editor = s.editor from rfl,
        Function.update_self, Function.update_idem] at hStart
      rw [hFire]
      exact ⟨_, .started hDisposed hLine (congrArg (· + 1) hStarted), hStart⟩
    | false =>
      have hFire : h.fire w s.editor = (h.supersede w s).reject w (s.evaluated w) := by
        simp [Host.fire, hf, hDisposed, Session.evaluated, hLine]
      have hReject := part_reject (w := w) hSorted (s.evaluated w)
      rw [hPart, show (s.evaluated w).editor = s.editor from rfl, Function.update_self,
        Function.update_idem] at hReject
      rw [hFire]
      exact ⟨_, .rejected hDisposed hLine, hReject⟩

/-- An evaluation after the timer of the session has elapsed or was dropped. -/
theorem Sound.part_fired (hs : Sound owner h) (hf : h.session? id = some s)
    (pre : List Happening) :
    ∃ l', Fire w h (((h.log s pre).put { s with timer := s.timer.cancel }).fire w id)
        { s with timer := s.timer.cancel }
        (((h.part id).record pre).hold { s with timer := s.timer.cancel }) l' ∧
      (((h.log s pre).put { s with timer := s.timer.cancel }).fire w id).part =
        Function.update h.part id l' := by
  obtain ⟨hk, rfl⟩ := hs.known_of_session? hf
  have hLog := hs.log hk pre
  have hk' : Known owner (h.log s pre) { s with timer := s.timer.cancel } :=
    hk.update rfl rfl fun _ h => h
  have hg := hLog.put hk'
  have hf' := session?_cancelled hs.sorted hf pre
  obtain ⟨l', hFire, hPart⟩ := hg.part_fire (w := w) hf'
  have hPut : ((h.log s pre).put { s with timer := s.timer.cancel }).part =
      Function.update h.part s.editor
        (((h.part s.editor).record pre).hold { s with timer := s.timer.cancel }) := by
    rw [part_put (h := h.log s pre) hs.sorted, part_log]
    simp only [Function.update_self, Function.update_idem]
  rw [hPut, Function.update_self] at hFire
  rw [hPut, Function.update_idem] at hPart
  exact ⟨l', hFire.of_eq rfl rfl, hPart⟩

theorem Sound.part_notify (hs : Sound owner h) (hf : h.session? id = some s)
    (hDisposed : s.disposed = false) :
    (h.notify id).part = Function.update h.part id
      (((h.part id).record (supersededBy s ++ [.scheduled])).hold
        { s with phase := .pending, timer := s.timer.schedule h.now () }) := by
  obtain ⟨-, rfl⟩ := hs.known_of_session? hf
  have hNotify : h.notify s.editor = (h.log s (supersededBy s ++ [.scheduled])).put
      { s with phase := .pending, timer := s.timer.schedule h.now () } := by
    simp only [Host.notify, hf, hDisposed]
    rfl
  rw [hNotify, part_put (h := h.log s _) hs.sorted, part_log]
  simp only [Function.update_self, Function.update_idem]

theorem Sound.part_edit (hs : Sound owner h) (hf : h.session? id = some s) (text : Option Text)
    (cursor : Option Nat) :
    (h.edit id text cursor).part = Function.update h.part id
      ((h.part id).hold { s with snapshot :=
        { document := (text.map Document.mk).getD s.snapshot.document
          cursor := cursor.getD s.snapshot.cursor } }) := by
  obtain ⟨-, rfl⟩ := hs.known_of_session? hf
  simp only [Host.edit, hf]
  exact part_put hs.sorted

theorem Sound.part_dispose (hs : Sound owner h) (hf : h.session? id = some s) :
    (h.dispose id).part = Function.update h.part id (((h.part id).release s).hold s.closed) := by
  obtain ⟨hk, rfl⟩ := hs.known_of_session? hf
  have hPut := part_put (s := s.closed) (hs.release hk).1.sorted
  rw [hs.part_release hk, show s.closed.editor = s.editor from rfl, Function.update_self,
    Function.update_idem] at hPut
  simp only [Host.dispose, hf]
  exact hPut

theorem Sound.part_evict (hs : Sound owner h) (hf : h.session? id = some s) :
    (h.evict id).part = Function.update h.part id ((h.part id).release s).leave := by
  obtain ⟨hk, rfl⟩ := hs.known_of_session? hf
  have hRemove := part_remove (hs.release hk).1.sorted s.editor
  rw [hs.part_release hk, Function.update_self, Function.update_idem] at hRemove
  simp only [Host.evict, hf]
  exact hRemove

theorem Sound.part_openEditor (hs : Sound owner h) (hNew : h.session? id = none)
    (snapshot : Snapshot) :
    (h.openEditor w id snapshot).part = Function.update h.part id
      (((h.part id).hold (w.session h.opened id snapshot)).record [.opened]) := by
  have hLog := part_log { h.put (w.session h.opened id snapshot) with
    opened := h.opened + 1, focused := h.focused.or (some id) }
    (w.session h.opened id snapshot) [.opened]
  rw [show Host.part { h.put (w.session h.opened id snapshot) with
    opened := h.opened + 1, focused := h.focused.or (some id) } = _ from
      part_put (s := w.session h.opened id snapshot) hs.sorted] at hLog
  simp only [Host.openEditor, hNew]
  rw [show (w.session h.opened id snapshot).editor = id from rfl, Function.update_self,
    Function.update_idem] at hLog
  exact hLog

/-- The session that a run finds by its number is the one that its editor has, if that has the
number. -/
theorem Sound.numbered?_of_flight (hs : Sound owner h) (hf : f ∈ h.flights) :
    h.numbered? f.session = some s ↔ h.session? f.editor = some s ∧ s.number = f.session := by
  rw [hs.numbered?_eq_some, session?_eq_some hs.sorted]
  constructor
  · rintro ⟨hm, hn⟩
    exact ⟨⟨hm, by rw [(hs.known s hm).editor_eq, hn, (hs.flight f hf).2.2]⟩, hn⟩
  · rintro ⟨⟨hm, -⟩, hn⟩
    exact ⟨hm, hn⟩

theorem Sound.part_complete (hs : Sound owner h) (hf : f ∈ h.flights) :
    (h.complete w f).part =
      Function.update h.part f.editor ((h.part f.editor).complete w h.issued f) := by
  have hOwn : ∀ g ∈ h.flights, g.run = f.run → g.editor = f.editor :=
    fun g hg hr => congrArg Flight.editor (hs.eq_of_run hg hf hr)
  have hFinished := part_finished hOwn
  have hSession : ∀ s, h.numbered? f.session = some s ↔
      (h.part f.editor).session = some s ∧ s.number = f.session :=
    fun s => hs.numbered?_of_flight hf
  unfold Host.complete Life.complete
  dsimp only
  split
  · rename_i hNone
    rw [hFinished]
    cases hPart : (h.part f.editor).session with
    | none => rfl
    | some s =>
      have hOther : s.number ≠ f.session := by
        intro hn
        have hSome := (hSession s).mpr ⟨hPart, hn⟩
        exact absurd (hNone.symm.trans hSome) (by simp)
      dsimp only
      rw [if_neg fun hAttends => hOther hAttends.1]
  · rename_i s hSome
    obtain ⟨hPart, hn⟩ := (hSession s).mp hSome
    have he : s.editor = f.editor := (hs.known_of_session? hPart).2
    rw [hPart]
    dsimp only
    have hAttends : s.attends w f ↔
        ¬ (s.disposed || (f.generation ≠ s.generation && w.onSupersede = .cancel)) = true := by
      rw [Session.attends, Session.outdates]
      cases s.disposed <;> cases w.onSupersede <;> simp [hn]
    split
    · rename_i hOut
      rw [if_neg fun hIn => hAttends.mp hIn hOut, hFinished]
    · rename_i hIn
      rw [if_pos (hAttends.mpr hIn)]
      have hPresent := part_put (s := s.heard w h.issued f)
        (h := Host.log { h.land f.run with
          journal := ⟨f.session, f.editor, .finished f.run f.result⟩ :: h.journal } s
            (s.hearing w h.issued f)) hs.sorted
      rw [part_log, hFinished, show (s.heard w h.issued f).editor = s.editor from rfl, he,
        Function.update_self, Function.update_idem, Function.update_self,
        Function.update_idem] at hPresent
      exact hPresent

/-! ### The acts of others -/

/-- The editor that an act is about. -/
def Act.editor? : Act → Option EditorId
  | openEditor id _ | edit id _ _ | notify id | begin id | elapse id | dispose id | evict id =>
    some id
  | complete f => some f.editor
  | focus _ | tick _ => none

/-- **An act leaves the parts of all other editors as they are.** -/
theorem Sound.part_act_of_ne (hs : Sound owner h) {a : Act} (possible : a.Possible h)
    (hid : a.editor? ≠ some id) : (h.act w a).part id = h.part id := by
  have hUpdate : ∀ {g : Host} {other : EditorId} {l' : Life}, other ≠ id →
      g.part = Function.update h.part other l' → g.part id = h.part id := by
    intro g other l' hne hPart
    rw [hPart, Function.update_of_ne (Ne.symm hne)]
  have hOther : ∀ {other : EditorId}, some other ≠ some id → other ≠ id :=
    fun hne he => hne (congrArg some he)
  cases a with
  | openEditor other snapshot =>
    exact hUpdate (hOther hid) (hs.part_openEditor possible snapshot)
  | edit other text cursor =>
    cases hf : h.session? other with
    | none => simp only [Host.act, Host.edit, hf]
    | some s => exact hUpdate (hOther hid) (hs.part_edit hf text cursor)
  | notify other =>
    cases hf : h.session? other with
    | none => simp only [Host.act, Host.notify, hf]
    | some s =>
      cases hDisposed : s.disposed with
      | true => simp [Host.act, Host.notify, hf, hDisposed]
      | false => exact hUpdate (hOther hid) (hs.part_notify hf hDisposed)
  | begin other =>
    cases hf : h.session? other with
    | none => simp only [Host.act, Host.begin, Host.cancelTimer, Host.fire, hf]
    | some s =>
      obtain ⟨l', -, hPart⟩ := hs.part_fired (w := w) hf (supersededBy s)
      rw [act_begin hf]
      exact hUpdate (hOther hid) hPart
  | elapse other =>
    cases hf : h.session? other with
    | none => simp only [Host.act, Host.elapse, hf]
    | some s =>
      obtain ⟨l', -, hPart⟩ := hs.part_fired (w := w) hf [.fired]
      rw [act_elapse hf]
      exact hUpdate (hOther hid) hPart
  | complete f => exact hUpdate (hOther hid) (hs.part_complete possible)
  | dispose other =>
    cases hf : h.session? other with
    | none => simp only [Host.act, Host.dispose, hf]
    | some s => exact hUpdate (hOther hid) (hs.part_dispose hf)
  | evict other =>
    cases hf : h.session? other with
    | none => simp only [Host.act, Host.evict, hf]
    | some s => exact hUpdate (hOther hid) (hs.part_evict hf)
  | focus focused => rfl
  | tick now => rfl

end

end Host

end LiveLine
