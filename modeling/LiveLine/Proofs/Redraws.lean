import LiveLine.Proofs.Calls
import LiveLine.Proofs.Completions
import LiveLine.Proofs.Requests

/-!
# Hosts of which one editor is redrawn

What an editor shows is looked at when a line of its session is evaluated, and when a run that the
session takes notice of completes.  All else that happens in a host goes the same way, whatever the
editor shows: redrawing the editor before comes to the same as redrawing it after.

* `redraw`: a host in which an editor shows something else.
* `looks`: how often the session of an editor has looked at it.
* `fire_redraw`, `complete_redraw`, and so on: what does not look goes with a redrawing.
* `advanceTo_redraw`, `step_redraw`: the passing of time, and the steps of a script.
-/

namespace LiveLine

/-- The session, with what its editor shows drawn anew if it is the editor `id`. -/
def Session.redraw (id : EditorId) (g : Snapshot → Snapshot) (s : Session) : Session :=
  if s.editor = id then { s with snapshot := g s.snapshot } else s

/-- Whether an entry tells that a session has looked at what its editor shows. -/
def Happening.looks : Happening → Bool
  | started .. | rejected _ | judged .. => true
  | _ => false

namespace Session

variable {id : EditorId} {g : Snapshot → Snapshot}

@[simp] theorem editor_redraw (s : Session) : (s.redraw id g).editor = s.editor := by
  unfold redraw
  split <;> rfl

@[simp] theorem number_redraw (s : Session) : (s.redraw id g).number = s.number := by
  unfold redraw
  split <;> rfl

@[simp] theorem timer_redraw (s : Session) : (s.redraw id g).timer = s.timer := by
  unfold redraw
  split <;> rfl

@[simp] theorem newest_redraw (s : Session) : (s.redraw id g).newest = s.newest := by
  unfold redraw
  split <;> rfl

@[simp] theorem generation_redraw (s : Session) : (s.redraw id g).generation = s.generation := by
  unfold redraw
  split <;> rfl

@[simp] theorem presenter_redraw (s : Session) : (s.redraw id g).presenter = s.presenter := by
  unfold redraw
  split <;> rfl

@[simp] theorem disposed_redraw (s : Session) : (s.redraw id g).disposed = s.disposed := by
  unfold redraw
  split <;> rfl

theorem redraw_of_ne {s : Session} (hne : s.editor ≠ id) : s.redraw id g = s := if_neg hne

theorem closed_redraw (s : Session) : (s.redraw id g).closed = s.closed.redraw id g := by
  by_cases he : s.editor = id <;> simp [redraw, closed, he]

theorem cancel_redraw (s : Session) :
    { s.redraw id g with timer := (s.redraw id g).timer.cancel } =
      Session.redraw id g { s with timer := s.timer.cancel } := by
  by_cases he : s.editor = id <;> simp [redraw, he]

theorem notified_redraw (now : Nat) (s : Session) :
    { s.redraw id g with
      phase := .pending
      timer := (s.redraw id g).timer.schedule now () } =
      Session.redraw id g { s with phase := .pending, timer := s.timer.schedule now () } := by
  by_cases he : s.editor = id <;> simp [redraw, he]

end Session

namespace Host

/-- The host in which an editor shows something else. -/
def redraw (id : EditorId) (g : Snapshot → Snapshot) (h : Host) : Host :=
  { h with sessions := h.sessions.map (Session.redraw id g) }

/-- How often a session of an editor has looked at what the editor shows. -/
def looks (h : Host) (id : EditorId) : Nat :=
  h.journal.countP fun e => e.editor = id && e.event.looks

section

variable {owner : Nat → EditorId} {w : Setup} {h h' : Host} {s : Session} {id other : EditorId}
  {g g₀ : Snapshot → Snapshot} {f : Flight}

theorem redraw_redraw (id : EditorId) (g g' : Snapshot → Snapshot) (h : Host) :
    (h.redraw id g).redraw id g' = h.redraw id (g' ∘ g) := by
  have hSame : Session.redraw id g' ∘ Session.redraw id g = Session.redraw id (g' ∘ g) := by
    funext s
    by_cases he : s.editor = id <;> simp [Session.redraw, he]
  simp only [redraw, List.map_map, hSame]

theorem redraw_id (id : EditorId) (h : Host) : h.redraw id (fun snapshot => snapshot) = h := by
  have hSame : Session.redraw id (fun snapshot => snapshot) = fun s => s := by
    funext s
    exact ite_self s
  rw [redraw, hSame, List.map_id']

theorem session?_redraw (h : Host) (other : EditorId) :
    (h.redraw id g).session? other = (h.session? other).map (Session.redraw id g) := by
  rw [session?, session?, redraw, List.find?_map]
  congr 2
  funext s
  simp

theorem numbered?_redraw (h : Host) (n : Nat) :
    (h.redraw id g).numbered? n = (h.numbered? n).map (Session.redraw id g) := by
  rw [numbered?, numbered?, redraw, List.find?_map]
  congr 2
  funext s
  simp

theorem agenda_redraw (h : Host) : (h.redraw id g).agenda = h.agenda := by
  rw [agenda, agenda, redraw, List.filterMap_map]
  congr 2
  funext s
  simp

theorem next?_redraw (h : Host) (time : Nat) : (h.redraw id g).next? time = h.next? time := by
  rw [next?, next?, agenda_redraw]

theorem Sound.redraw (hs : Sound owner h) (id : EditorId) (g : Snapshot → Snapshot) :
    Sound owner (h.redraw id g) := by
  refine ⟨?_, fun s hm => ?_, hs.flight, hs.runs, hs.entry⟩
  · refine List.pairwise_map.mpr (hs.sorted.imp fun hlt => ?_)
    simpa using hlt
  · obtain ⟨t, ht, rfl⟩ := List.mem_map.mp hm
    exact (hs.known t ht).update (by simp) (by simp) fun run hr => by simpa using hr

theorem exists_sound_redraw (hs : ∃ owner, Sound owner h) (id : EditorId)
    (g : Snapshot → Snapshot) :
    ∃ owner, Sound owner (h.redraw id g) := by
  obtain ⟨owner, hOwner⟩ := hs
  exact ⟨owner, hOwner.redraw id g⟩

/-! ### The pieces of an act -/

theorem insertSession_map_redraw (id : EditorId) (g : Snapshot → Snapshot) (s : Session)
    (ss : List Session) :
    insertSession (s.redraw id g) (ss.map (Session.redraw id g)) =
      (insertSession s ss).map (Session.redraw id g) := by
  induction ss with
  | nil => rfl
  | cons t ts ih =>
    rw [List.map_cons, insertSession, insertSession, Session.editor_redraw, Session.editor_redraw,
      ih]
    split
    · rfl
    · split <;> rfl

theorem put_redraw (id : EditorId) (g : Snapshot → Snapshot) (h : Host) (s : Session) :
    (h.redraw id g).put (s.redraw id g) = (h.put s).redraw id g := by
  simp only [put, redraw, insertSession_map_redraw]

theorem log_redraw (h : Host) (s : Session) (es : List Happening) :
    (h.redraw id g).log (s.redraw id g) es = (h.log s es).redraw id g := by
  have hEntry : (s.redraw id g).entry = s.entry := by
    funext e
    simp [Session.entry]
  rw [log, log, hEntry]
  rfl

theorem newestFlight?_redraw (h : Host) (s : Session) :
    (h.redraw id g).newestFlight? (s.redraw id g) = h.newestFlight? s := by
  rw [newestFlight?, newestFlight?, Session.newest_redraw]
  rfl

theorem supersededBy_redraw (s : Session) : supersededBy (s.redraw id g) = supersededBy s := by
  rw [supersededBy, supersededBy, Session.timer_redraw]

theorem supersede_redraw (id : EditorId) (g : Snapshot → Snapshot) (h : Host) (s : Session) :
    (h.redraw id g).supersede w (s.redraw id g) = (h.supersede w s).redraw id g := by
  unfold supersede
  rw [newestFlight?_redraw]
  split
  · split
    · exact log_redraw (h.land _) s _
    · rfl
  · rfl

theorem release_redraw (h : Host) (s : Session) :
    (h.redraw id g).release (s.redraw id g) = (h.release s).redraw id g := by
  unfold release
  dsimp only
  rw [newestFlight?_redraw, supersededBy_redraw, Session.presenter_redraw, log_redraw]
  split <;> rfl

/-! ### How often sessions look -/

theorem looks_log (h : Host) (s : Session) (es : List Happening) (id : EditorId) :
    (h.log s es).looks id =
      h.looks id + if s.editor = id then es.countP (·.looks) else 0 := by
  rw [looks, log, List.countP_append, List.countP_reverse, List.countP_map, Nat.add_comm, looks]
  congr 1
  split
  · rename_i he
    refine List.countP_congr fun e _ => ?_
    simp [Session.entry, he]
  · rename_i he
    refine List.countP_eq_zero.mpr fun e _ => ?_
    simp [Session.entry, he]

theorem looks_le_of_suffix (hJournal : h.journal <:+ h'.journal) (id : EditorId) :
    h.looks id ≤ h'.looks id := hJournal.sublist.countP_le

theorem Leads.looks_le (hl : Leads w h h') (id : EditorId) : h.looks id ≤ h'.looks id :=
  looks_le_of_suffix hl.journal id

/-- An evaluation of an open session looks at its editor. -/
theorem looks_lt_fire (hf : h.session? id = some s) (hOpen : s.disposed = false) :
    h.looks id < (h.fire w id).looks id := by
  have he : s.editor = id := by simpa using List.find?_some hf
  have hSupersede : h.looks id ≤ (h.supersede w s).looks id :=
    looks_le_of_suffix (journal_supersede w h s) id
  refine Nat.lt_of_le_of_lt hSupersede ?_
  simp only [fire, hf, hOpen]
  rw [if_neg Bool.false_ne_true]
  split
  · have hStart := looks_log (h.supersede w s) (s.evaluated w)
      [.started (h.supersede w s).started (s.evaluated w).request] id
    rw [if_pos (show (s.evaluated w).editor = id from he)] at hStart
    exact Nat.lt_of_lt_of_eq (Nat.lt_succ_self _) hStart.symm
  · have hReject := looks_log (h.supersede w s) (s.evaluated w)
      (.rejected s.snapshot.cursor :: s.presenter.clearCalls.map .called) id
    rw [if_pos (show (s.evaluated w).editor = id from he), List.countP_cons] at hReject
    exact Nat.lt_of_lt_of_eq (by simp [Happening.looks]) hReject.symm

/-- A completion of which its session takes notice looks at its editor. -/
theorem looks_lt_complete (hSome : h.numbered? f.session = some s) (hAttends : s.attends w f) :
    h.looks s.editor < (h.complete w f).looks s.editor := by
  have hFinished : (h.finish f).looks s.editor = h.looks s.editor := by
    rw [looks, finish, List.countP_cons, looks]
    simp [Happening.looks]
  have hHeard := looks_log (h.finish f) s (s.hearing w h.issued f) s.editor
  rw [if_pos rfl, Session.hearing, List.cons_append, List.countP_cons, hFinished] at hHeard
  rw [complete_of_attends hSome hAttends]
  exact Nat.lt_of_lt_of_eq (by simp [Happening.looks]) hHeard.symm

theorem looks_put_log {es : List Happening} (hes : es.countP (·.looks) = 0) (s t : Session) :
    ((h.log s es).put t).looks id = h.looks id := by
  have hLog := looks_log h s es id
  rwa [hes, ite_self, Nat.add_zero] at hLog

theorem countP_looks_supersededBy (s : Session) : (supersededBy s).countP (·.looks) = 0 := by
  unfold supersededBy
  split <;> rfl

/-! ### Calls that do not look -/

theorem cancelTimer_redraw (h : Host) (other : EditorId) :
    (h.redraw id g).cancelTimer other = (h.cancelTimer other).redraw id g := by
  unfold cancelTimer
  rw [session?_redraw]
  cases h.session? other with
  | none => rfl
  | some s =>
    dsimp only [Option.map_some]
    rw [supersededBy_redraw, log_redraw, Session.cancel_redraw, put_redraw]

theorem notify_redraw (h : Host) (other : EditorId) :
    (h.redraw id g).notify other = (h.notify other).redraw id g := by
  unfold notify
  rw [session?_redraw]
  cases h.session? other with
  | none => rfl
  | some s =>
    dsimp only [Option.map_some]
    by_cases hDisposed : s.disposed = true
    · rw [if_pos hDisposed, if_pos (by rw [Session.disposed_redraw, hDisposed])]
    · rw [if_neg hDisposed, if_neg (by rwa [Session.disposed_redraw]), supersededBy_redraw,
        log_redraw, ← put_redraw, ← Session.notified_redraw]
      rfl

theorem dispose_redraw (h : Host) (other : EditorId) :
    (h.redraw id g).dispose other = (h.dispose other).redraw id g := by
  unfold dispose
  rw [session?_redraw]
  cases h.session? other with
  | none => rfl
  | some s =>
    dsimp only [Option.map_some]
    rw [release_redraw, Session.closed_redraw, put_redraw]

theorem remove_redraw (h : Host) (gone : EditorId) :
    (h.redraw id g).remove gone = (h.remove gone).redraw id g := by
  have hKept : (fun s : Session => decide (s.editor ≠ gone)) ∘ Session.redraw id g =
      fun s => decide (s.editor ≠ gone) := by
    funext s
    simp
  simp only [remove, redraw, List.filter_map, hKept]

theorem close_redraw (h : Host) (other : EditorId) :
    (h.redraw id g).close other = (h.close other).redraw id g := by
  unfold close
  rw [session?_redraw]
  cases h.session? other with
  | none => rfl
  | some s =>
    dsimp only [Option.map_some]
    rw [release_redraw, remove_redraw]
    rfl

theorem handle_redraw (h : Host) (e : EditorEvent) :
    (h.redraw id g).handle e = (h.handle e).redraw id g := by
  have hRoute : (h.redraw id g).route e = h.route e := by
    rw [route, route, session?_redraw, Option.isNone_map]
    rfl
  unfold handle
  rw [hRoute]
  split
  · exact notify_redraw h e.editor
  · rfl
  · exact close_redraw h e.editor
  · rfl
  · rfl

theorem shutdown_redraw (h : Host) : (h.redraw id g).shutdown = h.shutdown.redraw id g := by
  have hRelease : ∀ (h : Host) (s : Session), h.release (s.redraw id g) = h.release s := by
    intro h s
    have hNewest : h.newestFlight? (s.redraw id g) = h.newestFlight? s := by
      rw [newestFlight?, newestFlight?, Session.newest_redraw]
    have hEntry : (s.redraw id g).entry = s.entry := by
      funext e
      simp [Session.entry]
    simp only [release, log, hNewest, hEntry, supersededBy_redraw, Session.presenter_redraw]
  have hAll : (h.sessions.map (Session.redraw id g)).foldl release h =
      h.sessions.foldl release h := by
    rw [List.foldl_map]
    simp only [hRelease]
  have hFold := foldl_release_sessions (h.sessions.map (Session.redraw id g))
    (h.sessions.map (Session.redraw id g)) h
  rw [hAll] at hFold
  simp only [shutdown, redraw, hFold, List.map_nil]

/-! ### Editors that are set anew -/

theorem edit_redraw_of_ne (hne : other ≠ id) (h : Host) (text : Option Text)
    (cursor : Option Nat) :
    (h.redraw id g).edit other text cursor = (h.edit other text cursor).redraw id g := by
  unfold edit
  rw [session?_redraw]
  cases hf : h.session? other with
  | none => rfl
  | some s =>
    have he : s.editor ≠ id := by rwa [show s.editor = other by simpa using List.find?_some hf]
    have hPut := put_redraw id g h
      { s with snapshot := s.snapshot.edited text cursor }
    rw [Session.redraw_of_ne (s := { s with snapshot := s.snapshot.edited text cursor }) he] at hPut
    rw [Option.map_some, Session.redraw_of_ne he]
    exact hPut

theorem openEditor_redraw_of_ne (hne : other ≠ id) (h : Host) (snapshot : Snapshot) :
    (h.redraw id g).openEditor w other snapshot =
      (h.openEditor w other snapshot).redraw id g := by
  have hNew : (w.session h.opened other snapshot).redraw id g =
      w.session h.opened other snapshot := Session.redraw_of_ne hne
  have hPut : ∀ released : Host,
      (released.redraw id g).put (w.session h.opened other snapshot) =
        (released.put (w.session h.opened other snapshot)).redraw id g := by
    intro released
    have hPut := put_redraw id g released (w.session h.opened other snapshot)
    rwa [hNew] at hPut
  unfold openEditor
  rw [session?_redraw]
  cases h.session? other with
  | none =>
    dsimp only [Option.map_none]
    exact congrArg (fun h' : Host => { h' with
      opened := h.opened + 1
      focused := h.focused.or (some other)
      journal := (w.session h.opened other snapshot).entry .opened :: h'.journal }) (hPut h)
  | some previous =>
    dsimp only [Option.map_some]
    rw [release_redraw]
    exact congrArg (fun h' : Host => { h' with
      opened := h.opened + 1
      focused := h.focused.or (some other)
      journal := (w.session h.opened other snapshot).entry .opened :: h'.journal })
      (hPut (h.release previous))

theorem map_redraw_of_ne {ss : List Session} (hne : ∀ s ∈ ss, s.editor ≠ id) :
    ss.map (Session.redraw id g) = ss :=
  (List.map_congr_left fun s hs => Session.redraw_of_ne (hne s hs)).trans (List.map_id' ss)

/-- What an editor showed is gone when its session gives way. -/
theorem insertSession_redraw {ss : List Session} (hSorted : Sorted ss) :
    insertSession s (ss.map (Session.redraw s.editor g)) = insertSession s ss := by
  induction ss with
  | nil => rfl
  | cons t ts ih =>
    obtain ⟨ht, hts⟩ := List.pairwise_cons.mp hSorted
    rcases Nat.lt_trichotomy s.editor t.editor with hlt | heq | hgt
    · rw [map_redraw_of_ne]
      intro u hu
      rcases List.mem_cons.mp hu with rfl | hu
      · exact Nat.ne_of_gt hlt
      · exact Nat.ne_of_gt (Nat.lt_trans hlt (ht u hu))
    · have hLater : ∀ u ∈ ts, u.editor ≠ s.editor := fun u hu => Nat.ne_of_gt (heq ▸ ht u hu)
      rw [List.map_cons, map_redraw_of_ne hLater, insertSession, insertSession,
        Session.editor_redraw, if_neg (Nat.not_lt.mpr (Nat.le_of_eq heq.symm)), if_pos heq,
        if_neg (Nat.not_lt.mpr (Nat.le_of_eq heq.symm)), if_pos heq]
    · have hNot : ¬ s.editor < t.editor := Nat.not_lt.mpr (Nat.le_of_lt hgt)
      rw [List.map_cons, Session.redraw_of_ne (Nat.ne_of_lt hgt), insertSession, insertSession,
        ih hts, if_neg hNot, if_neg (Nat.ne_of_gt hgt), if_neg hNot, if_neg (Nat.ne_of_gt hgt)]

/-- An editor that is opened again does not keep what it showed. -/
theorem openEditor_redraw_self (hSorted : Sorted h.sessions) (snapshot : Snapshot) :
    (h.redraw id g).openEditor w id snapshot = h.openEditor w id snapshot := by
  have hPlace := insertSession_redraw (s := w.session h.opened id snapshot) (g := g) hSorted
  unfold openEditor
  rw [session?_redraw]
  cases h.session? id with
  | none =>
    dsimp only [Option.map_none]
    exact congrArg (fun sessions => { h with
      sessions
      opened := h.opened + 1
      focused := h.focused.or (some id)
      journal := (w.session h.opened id snapshot).entry .opened :: h.journal }) hPlace
  | some previous =>
    obtain ⟨flights, journal, hRelease⟩ := exists_release_eq h previous
    dsimp only [Option.map_some]
    rw [release_redraw, hRelease]
    exact congrArg (fun sessions => { h with
      sessions
      flights
      opened := h.opened + 1
      focused := h.focused.or (some id)
      journal := (w.session h.opened id snapshot).entry .opened :: journal }) hPlace

/-- An edit redraws its editor. -/
theorem edit_eq_redraw (hSorted : Sorted h.sessions) (text : Option Text) (cursor : Option Nat) :
    h.edit id text cursor = h.redraw id (·.edited text cursor) := by
  unfold edit
  cases hf : h.session? id with
  | none => rw [redraw, map_redraw_of_ne (session?_eq_none.mp hf)]
  | some s =>
    obtain ⟨hm, rfl⟩ := (session?_eq_some hSorted).mp hf
    have hDrawn : s.redraw s.editor (·.edited text cursor) =
        { s with snapshot := s.snapshot.edited text cursor } := if_pos rfl
    have hPlace := insertSession_redraw (s := { s with snapshot := s.snapshot.edited text cursor })
      (g := (·.edited text cursor)) hSorted
    have hMap := insertSession_map_redraw s.editor (·.edited text cursor) s h.sessions
    rw [insertSession_self hSorted hm, hDrawn] at hMap
    exact congrArg (fun sessions => { h with sessions }) (hPlace.symm.trans hMap)

/-! ### Evaluations and completions -/

theorem fire_redraw_of_ne (hne : other ≠ id) (h : Host) :
    (h.redraw id g).fire w other = (h.fire w other).redraw id g := by
  unfold fire
  rw [session?_redraw]
  cases hf : h.session? other with
  | none => rfl
  | some s =>
    have he : s.editor ≠ id := by rwa [show s.editor = other by simpa using List.find?_some hf]
    have hPut : ∀ (h : Host) (t : Session), t.editor = s.editor →
        (h.redraw id g).put t = (h.put t).redraw id g := by
      intro h t ht
      rw [← put_redraw, Session.redraw_of_ne (ht ▸ he)]
    have hSupersede := supersede_redraw (w := w) id g h s
    rw [Session.redraw_of_ne he] at hSupersede
    dsimp only [Option.map_some]
    rw [Session.redraw_of_ne he, hSupersede]
    split
    · rfl
    · split
      · exact hPut ((((h.supersede w s).log s _).launch _)) _ rfl
      · exact hPut ((h.supersede w s).log s _) _ rfl

/-- An evaluation that does not look at an editor goes the same way whatever the editor shows. -/
theorem fire_redraw (hUnseen : ((h.redraw id g₀).fire w other).looks id = h.looks id)
    (g : Snapshot → Snapshot) : (h.redraw id g).fire w other = (h.fire w other).redraw id g := by
  by_cases hne : other = id
  swap
  · exact fire_redraw_of_ne hne h
  subst hne
  cases hf : h.session? other with
  | none => simp only [fire, session?_redraw, hf, Option.map_none]
  | some s =>
    cases hDisposed : s.disposed with
    | true => simp [fire, session?_redraw, hf, hDisposed]
    | false =>
      have hf' : (h.redraw other g₀).session? other = some (s.redraw other g₀) := by
        rw [session?_redraw, hf, Option.map_some]
      have hLook := looks_lt_fire (w := w) hf' (by rw [Session.disposed_redraw, hDisposed])
      exact absurd hUnseen (Nat.ne_of_gt hLook)

theorem begin_redraw (hUnseen : ((h.redraw id g₀).begin w other).looks id = h.looks id)
    (g : Snapshot → Snapshot) : (h.redraw id g).begin w other = (h.begin w other).redraw id g := by
  have hCancel : (h.cancelTimer other).looks id = h.looks id := by
    unfold cancelTimer
    split
    · rfl
    · exact looks_put_log (countP_looks_supersededBy _) _ _
  rw [begin, cancelTimer_redraw, ← hCancel] at hUnseen
  rw [begin, cancelTimer_redraw]
  exact fire_redraw hUnseen g

theorem elapse_redraw (hUnseen : ((h.redraw id g₀).elapse w other).looks id = h.looks id)
    (g : Snapshot → Snapshot) :
    (h.redraw id g).elapse w other = (h.elapse w other).redraw id g := by
  unfold elapse at hUnseen ⊢
  rw [session?_redraw] at hUnseen ⊢
  cases hf : h.session? other with
  | none => rfl
  | some s =>
    rw [hf] at hUnseen
    dsimp only [Option.map_some] at hUnseen ⊢
    rw [log_redraw, Session.cancel_redraw, put_redraw] at hUnseen ⊢
    refine fire_redraw (hUnseen.trans ?_) g
    exact (looks_put_log rfl s _).symm

theorem complete_redraw_of_ne (hSome : h.numbered? f.session = some s) (hAttends : s.attends w f)
    (hne : s.editor ≠ id) :
    (h.redraw id g).complete w f = (h.complete w f).redraw id g := by
  have hSame := Session.redraw_of_ne (g := g) hne
  have hSome' : (h.redraw id g).numbered? f.session = some s := by
    rw [numbered?_redraw, hSome, Option.map_some, hSame]
  rw [complete_of_attends hSome hAttends, complete_of_attends hSome' hAttends]
  have hPut := put_redraw id g ((h.finish f).log s (s.hearing w h.issued f))
    (s.heard w h.issued f)
  rw [Session.redraw_of_ne (s := s.heard w h.issued f) hne] at hPut
  exact congrArg (fun h' : Host => { h' with issued := (s.presentation w h.issued f).issued }) hPut

/-- A completion that does not look at an editor goes the same way whatever the editor shows. -/
theorem Sound.complete_redraw (hs : Sound owner h)
    (hUnseen : ((h.redraw id g₀).complete w f).looks id = h.looks id) (g : Snapshot → Snapshot) :
    (h.redraw id g).complete w f = (h.complete w f).redraw id g := by
  have hAttends : ∀ (g : Snapshot → Snapshot) (s : Session),
      (s.redraw id g).attends w f ↔ s.attends w f := by
    intro g s
    simp [Session.attends, Session.outdates]
  by_cases hIgnored : ∃ s, h.numbered? f.session = some s ∧ s.attends w f
  · obtain ⟨s, hSome, hIn⟩ := hIgnored
    by_cases he : s.editor = id
    · have hSome' : (h.redraw id g₀).numbered? f.session = some (s.redraw id g₀) := by
        rw [numbered?_redraw, hSome, Option.map_some]
      have hLook := looks_lt_complete hSome' ((hAttends g₀ s).mpr hIn)
      rw [Session.editor_redraw, he] at hLook
      exact absurd hUnseen (Nat.ne_of_gt hLook)
    · exact complete_redraw_of_ne hSome hIn he
  · have hIgnored' : ¬ ∃ s, (h.redraw id g).numbered? f.session = some s ∧ s.attends w f := by
      rintro ⟨t, ht, hIn⟩
      rw [numbered?_redraw] at ht
      obtain ⟨s, hSome, rfl⟩ := Option.map_eq_some_iff.mp ht
      exact hIgnored ⟨s, hSome, (hAttends g s).mp hIn⟩
    rw [hs.complete_of_ignored hIgnored, (hs.redraw id g).complete_of_ignored hIgnored']
    rfl

/-! ### The passing of time -/

theorem Sound.perform_redraw (hs : Sound owner h) {item : Due}
    (hUnseen : ((h.redraw id g₀).perform w item).looks id = h.looks id) (g : Snapshot → Snapshot) :
    (h.redraw id g).perform w item = (h.perform w item).redraw id g := by
  cases item with
  | timer other => exact elapse_redraw hUnseen g
  | completion f => exact hs.complete_redraw hUnseen g

/-- **Time that passes without a look at an editor passes the same way whatever the editor
shows.** -/
theorem advanceTo_redraw (hs : ∃ owner, Sound owner h) {time : Nat}
    (hUnseen : ((h.redraw id g₀).advanceTo w time).looks id = h.looks id)
    (g : Snapshot → Snapshot) :
    (h.redraw id g).advanceTo w time = (h.advanceTo w time).redraw id g := by
  revert g hUnseen
  refine performDue_induct w time
    (P := fun h => ((h.redraw id g₀).advanceTo w time).looks id = h.looks id →
      ∀ g, (h.redraw id g).advanceTo w time = (h.advanceTo w time).redraw id g) hs ?_ ?_
  · intro h hs hNext _ g
    rw [advanceTo_of_next?_none hNext, advanceTo_of_next?_none ((next?_redraw h time).trans hNext)]
    rfl
  · intro h item hs hNext ih hUnseen g
    have hStep : ∀ g : Snapshot → Snapshot, (h.redraw id g).advanceTo w time =
        (perform w (redraw id g { h with now := item.1 }) item.2).advanceTo w time := fun g =>
      advanceTo_of_next?_some (exists_sound_redraw hs id g) ((next?_redraw h time).trans hNext)
    have hItem : item ∈ (h.redraw id g₀).agenda := by
      rw [agenda_redraw]
      exact (mem_of_next? hNext).1
    obtain ⟨owner, hOwner⟩ := hs
    have hLeads := (Passes.perform (w := w) (hOwner.redraw id g₀).sorted hItem
      item.1).leads
    have hSound := hLeads.sound ⟨owner, hOwner.redraw id g₀⟩
    -- the item does not look at the editor, since nothing does until the time has passed
    have hBefore : h.looks id ≤
        (perform w (redraw id g₀ { h with now := item.1 }) item.2).looks id := hLeads.looks_le id
    have hAfter : (perform w (redraw id g₀ { h with now := item.1 }) item.2).looks id ≤
        ((perform w (redraw id g₀ { h with now := item.1 }) item.2).advanceTo w time).looks id :=
      (Leads.advanceTo (w := w) hSound time).looks_le id
    rw [hStep g₀] at hUnseen
    have hPerform := (hOwner.aside item.1 h.focused h.issued).perform_redraw (w := w)
      (Nat.le_antisymm (hUnseen ▸ hAfter) hBefore)
    rw [hPerform g₀] at hUnseen hBefore hAfter
    rw [hStep g, hPerform g, advanceTo_of_next?_some ⟨owner, hOwner⟩ hNext]
    refine ih (hUnseen.trans ?_) g
    exact Nat.le_antisymm hBefore (hUnseen ▸ hAfter)

end

end Host

end LiveLine
