import LiveLine.Proofs.Alerts
import LiveLine.Proofs.Cancelling
import LiveLine.Proofs.Entries
import LiveLine.Proofs.Places
import LiveLine.Proofs.Timing

/-!
# The accounts of timers and runs

A timer that was scheduled gives way, elapses or is pending, and a run that was started completes,
is aborted or is in flight.  Timers end and runs end in several ways that are written in different
places, so that what is counted is compared here with what is there, act by act.

* `Telemetry.of`: what the counters count among some happenings.
* `Sound.account_act`: what one act adds to the counters, and what it does to pending timers.
* `Reachable.flights_act_perm`: what one act does to runs in flight.
* `Balanced`, `Course.balanced`: what adds up after any acts.
* `Course.accounts_balanced`: the balance, and which runs an evaluation aborts.
-/

namespace LiveLine

namespace Telemetry

instance : Add Telemetry where
  add t u :=
    { scheduled := t.scheduled + u.scheduled
      superseded := t.superseded + u.superseded
      fired := t.fired + u.fired
      started := t.started + u.started
      cancelled := t.cancelled + u.cancelled
      dropped := t.dropped + u.dropped }

/-- How often what the counters count is among some happenings. -/
def of (es : List Happening) : Telemetry where
  scheduled := es.countP (· matches .scheduled)
  superseded := es.countP (· matches .superseded)
  fired := es.countP (· matches .fired)
  started := es.countP (· matches .started ..)
  cancelled := es.countP (· matches .cancelled _)
  dropped := es.countP (· matches .dropped ..)

theorem ofEntries_eq (entries : List Entry) : ofEntries entries = of (entries.map (·.event)) := by
  have hCount : (fun q : Happening → Bool => entries.countP fun e => q e.event) =
      fun q => (entries.map (·.event)).countP q := funext fun _ => List.countP_map.symm
  rw [ofEntries, hCount]
  rfl

theorem of_append (es es' : List Happening) : of (es ++ es') = of es + of es' := by
  simp only [of, List.countP_append]
  rfl

theorem of_reverse (es : List Happening) : of es.reverse = of es := by
  simp only [of, List.countP_reverse]

theorem add_def (t u : Telemetry) :
    t + u = ⟨t.scheduled + u.scheduled, t.superseded + u.superseded, t.fired + u.fired,
      t.started + u.started, t.cancelled + u.cancelled, t.dropped + u.dropped⟩ := rfl

/-- Calls to the surface are not counted. -/
theorem of_called (calls : List SurfaceCall) : of (calls.map .called) = {} := by
  simp only [of, List.countP_map, Function.comp_def, List.countP_false]
  rfl

theorem of_supersededBy (s : Session) :
    of (Host.supersededBy s) = { superseded := if s.timer.isPending then 1 else 0 } := by
  unfold Host.supersededBy
  split <;> rfl

theorem of_parting (s : Session) (abort : Option RunNumber) :
    of (Life.parting s abort) = { superseded := if s.timer.isPending then 1 else 0 } := by
  have hAborted : of ((abort.map Happening.aborted).toList) = {} := by cases abort <;> rfl
  rw [Life.parting, of_append, of_append, of_append, of_supersededBy, hAborted, of_called]
  rfl

theorem of_firing (w : Setup) (h : Host) (s : Session) :
    of (h.firing w s) =
      { started := (h.liftoff w s).length, cancelled := (h.superseded? w s).toList.length } := by
  have hCancelled : of (((h.superseded? w s).map Happening.cancelled).toList) =
      { cancelled := (h.superseded? w s).toList.length } := by
    cases h.superseded? w s <;> rfl
  unfold Host.firing Host.liftoff
  cases hDisposed : s.disposed with
  | true => simp [Host.superseded?, hDisposed, of]
  | false =>
    cases w.evaluates s.snapshot.cursorText with
    | true =>
      rw [if_neg Bool.false_ne_true, if_pos rfl, if_pos ⟨rfl, rfl⟩, of_append, hCancelled]
      rfl
    | false =>
      have hRejected : of (.rejected s.snapshot.cursor :: s.presenter.clearCalls.map .called) =
          {} := of_called s.presenter.clearCalls
      rw [if_neg Bool.false_ne_true, if_neg Bool.false_ne_true, of_append, hCancelled, hRejected]
      rfl

theorem of_hearing (w : Setup) (issued : Nat) (s : Session) (f : Flight) :
    of (s.hearing w issued f) =
      { dropped := if s.snapshot.document.hasLine (f.verdict w).note.line then 0 else 1 } := by
  have hFate : (s.presentation w issued f).fate =
      if s.snapshot.document.hasLine (f.verdict w).note.line then .shown else .dropped :=
    Session.fate_presentation
  have hJudged : of (.judged (f.verdict w) f.request.targetLine ::
      (s.presentation w issued f).calls.map .called) = {} := of_called _
  have hAlert : of (((f.verdict w).alert.map fun message =>
      Happening.called (.alert message)).toList) = {} := by
    cases (f.verdict w).alert <;> rfl
  rw [Session.hearing, Host.fateEntries, of_append, hJudged, of_append, of_append, hAlert, hFate]
  cases s.snapshot.document.hasLine (f.verdict w).note.line <;> rfl

end Telemetry

namespace Host

/-- What the counters have counted in all sessions. -/
def counters (h : Host) : Telemetry := .ofEntries h.journal

/-- The runs in flight that an act takes out of the air. -/
def Deed.ended (w : Setup) (d : Deed) : List Flight :=
  d.host.flights.filter (· ∉ (d.host.act w d.act).flights)

instance : DecidablePred Act.IsFire
  | .begin _ | .elapse _ => isTrue trivial
  | .openEditor .. | .edit .. | .notify _ | .complete _ | .dispose _ | .evict _ | .focus _
  | .tick _ => isFalse not_false

/-- Whether an act brings a session to its end. -/
def Act.IsDisposal : Act → Prop
  | dispose _ | evict _ => True
  | _ => False

instance : DecidablePred Act.IsDisposal
  | .dispose _ | .evict _ => isTrue trivial
  | .openEditor .. | .edit .. | .notify _ | .begin _ | .elapse _ | .complete _ | .focus _
  | .tick _ => isFalse not_false

/-- Whether an act completes a run that is heeded while the document has no line for its
annotation. -/
def Act.drops (w : Setup) (h : Host) : Act → Bool
  | complete f => h.Heeds w f && (h.numbered? f.session).any fun s =>
      !s.snapshot.document.hasLine (f.verdict w).note.line
  | _ => false

/-- The runs that acts of some kind took out of the air in a course. -/
def endedBy (w : Setup) (p : Act → Prop) [DecidablePred p] (c : List Deed) : List RunNumber :=
  (c.filter (p ·.act)).flatMap fun d => (d.ended w).map (·.run)

/-- The runs that an evaluation aborted unfinished. -/
abbrev cancellations (w : Setup) : List Deed → List RunNumber := endedBy w Act.IsFire

/-- The runs that a disposal aborted unfinished. -/
abbrev abortions (w : Setup) : List Deed → List RunNumber := endedBy w Act.IsDisposal

section

variable {owner : Nat → EditorId} {w : Setup} {h h' : Host} {s t : Session} {f : Flight} {a : Act}
  {c : List Deed}

theorem Act.IsFire.exists_eq (ha : a.IsFire) : ∃ id, a = .begin id ∨ a = .elapse id := by
  cases a with
  | begin id => exact ⟨id, Or.inl rfl⟩
  | elapse id => exact ⟨id, Or.inr rfl⟩
  | _ => exact ha.elim

theorem counters_eq (h : Host) : h.counters = .of h.events := Telemetry.ofEntries_eq h.journal

theorem Reachable.counters_act (hr : Reachable w h) (possible : a.Possible h) :
    (h.act w a).counters = .of (a.told w h) + h.counters := by
  rw [counters_eq, (hr.events_flights_act possible).1, Telemetry.of_append, Telemetry.of_reverse,
    counters_eq]

/-! ### What an act adds to the counters of runs -/

theorem of_landing (w : Setup) (h : Host) (f : Flight) :
    Telemetry.of (h.landing w f) =
      { dropped := if (Act.complete f).drops w h then 1 else 0 } := by
  have hFinished : ∀ es : List Happening,
      Telemetry.of (.finished f.run f.result :: es) = .of es := fun _ => rfl
  rw [landing, hFinished, Act.drops]
  by_cases hHeeds : h.Heeds w f
  · cases hSome : h.numbered? f.session with
    | none => simp [Telemetry.of]
    | some s =>
      simp only [hHeeds, if_true, Option.map_some, Option.getD_some, Telemetry.of_hearing]
      cases hLine : s.snapshot.document.hasLine (f.verdict w).note.line <;> simp [hLine]
  · simp [hHeeds, Telemetry.of]

/-! ### Pending timers -/

theorem perm_insertSession_of_new {ss : List Session} (hNew : ∀ t ∈ ss, t.editor ≠ s.editor) :
    (insertSession s ss).Perm (s :: ss) := by
  induction ss with
  | nil => exact .refl _
  | cons t ts ih =>
    obtain ⟨ht, hts⟩ := List.forall_mem_cons.mp hNew
    rw [insertSession]
    split
    · exact .refl _
    · rw [if_neg (Ne.symm ht)]
      exact ((ih hts).cons t).trans (.swap s t ts)

theorem pendingTimers_put_of_new (hNew : ∀ t ∈ h.sessions, t.editor ≠ s.editor)
    (hTimer : s.timer.isPending = false) : (h.put s).pendingTimers = h.pendingTimers := by
  rw [pendingTimers, put, (perm_insertSession_of_new hNew).countP_eq, List.countP_cons, hTimer]
  rfl

theorem pendingTimers_remove (hSorted : Sorted h.sessions) (hm : s ∈ h.sessions) :
    (h.remove s.editor).pendingTimers + (if s.timer.isPending = true then 1 else 0) =
      h.pendingTimers := by
  have hNew : ∀ t ∈ h.sessions.filter (·.editor ≠ s.editor), t.editor ≠ s.editor :=
    fun t ht => by simpa using (List.mem_filter.mp ht).2
  have hPerm := perm_insertSession_of_new hNew
  rw [insertSession_filter hSorted, insertSession_self hSorted hm] at hPerm
  rw [pendingTimers, pendingTimers, hPerm.countP_eq, List.countP_cons]
  rfl

/-- An evaluation keeps the timers. -/
theorem pendingTimers_fire (hSorted : Sorted h.sessions) (id : EditorId) :
    (h.fire w id).pendingTimers = h.pendingTimers := by
  unfold fire
  split
  · rfl
  · rename_i s hf
    obtain ⟨hm, -⟩ := (session?_eq_some hSorted).mp hf
    split
    · rfl
    · obtain ⟨flights, journal, hSupersede⟩ := exists_supersede_eq w h s
      rw [hSupersede]
      dsimp only
      split <;> exact pendingTimers_put_of_timer hSorted hm rfl rfl

theorem pendingTimers_fired (hSorted : Sorted h.sessions) (hm : s ∈ h.sessions)
    (pre : List Happening) (id : EditorId) :
    (((h.log s pre).put { s with timer := s.timer.cancel }).fire w id).pendingTimers +
      (if s.timer.isPending = true then 1 else 0) = h.pendingTimers := by
  have hPut := pendingTimers_put (h := h.log s pre) (t := { s with timer := s.timer.cancel })
    hSorted hm rfl
  rw [pendingTimers_fire (h := (h.log s pre).put { s with timer := s.timer.cancel })
    (sorted_insertSession hSorted) id]
  exact hPut

theorem pendingTimers_complete (hSorted : Sorted h.sessions) (f : Flight) :
    (h.complete w f).pendingTimers = h.pendingTimers := by
  unfold complete
  dsimp only
  split
  · rfl
  · rename_i s hSome
    split
    · rfl
    · exact pendingTimers_put_of_timer hSorted (List.mem_of_find?_eq_some hSome) rfl rfl

/-! ### The account of an act -/

/-- **The account of an act.**  Its entries tell of the runs that it starts, of the one that it
aborts by an evaluation and of an annotation that it drops; and timers that are scheduled replace
others, elapse, or are pending afterwards. -/
theorem Sound.account_act (hs : Sound owner h) (possible : a.Possible h) :
    ∃ scheduled superseded fired,
      Telemetry.of (a.told w h) =
        { scheduled, superseded, fired
          started := (a.launched w h).length
          cancelled := if a.IsFire then (a.landed? w h).toList.length else 0
          dropped := if a.drops w h then 1 else 0 } ∧
      (h.act w a).pendingTimers + superseded + fired = h.pendingTimers + scheduled := by
  cases a with
  | openEditor id snapshot =>
    have hNew : h.session? id = none := possible
    refine ⟨0, 0, 0, rfl, ?_⟩
    simp only [Host.act, Host.openEditor, hNew]
    exact pendingTimers_put_of_new (session?_eq_none.mp hNew) rfl
  | edit id text cursor =>
    refine ⟨0, 0, 0, rfl, ?_⟩
    simp only [Host.act, Host.edit]
    split
    · rfl
    · rename_i s hf
      exact pendingTimers_put_of_timer hs.sorted (hs.mem_of_session? hf).1 rfl rfl
  | notify id =>
    cases hf : h.session? id with
    | none =>
      simp only [Host.act, Host.notify, Act.told, hf]
      exact ⟨0, 0, 0, rfl, rfl⟩
    | some s =>
      simp only [Host.act, Host.notify, Act.told, hf, Option.map_some, Option.getD_some]
      split
      · exact ⟨0, 0, 0, rfl, rfl⟩
      · have hPut := pendingTimers_put (h := h.log s (supersededBy s ++ [.scheduled]))
          (t := { s with phase := .pending, timer := s.timer.schedule h.now () })
          hs.sorted (hs.mem_of_session? hf).1 rfl
        refine ⟨1, if s.timer.isPending then 1 else 0, 0, ?_, hPut⟩
        rw [Telemetry.of_append, Telemetry.of_supersededBy]
        rfl
  | begin id =>
    cases hf : h.session? id with
    | none =>
      have hSame : h.act w (.begin id) = h := by
        simp [Host.act, Host.begin, Host.cancelTimer, Host.fire, hf]
      simp only [hSame, Act.told, Act.launched, Act.landed?, hf]
      exact ⟨0, 0, 0, rfl, rfl⟩
    | some s =>
      simp only [act_begin hf, Act.told, Act.launched, Act.landed?, hf, Option.map_some,
        Option.getD_some, Option.bind_some]
      refine ⟨0, if s.timer.isPending then 1 else 0, 0, ?_,
        pendingTimers_fired hs.sorted (hs.mem_of_session? hf).1 _ id⟩
      rw [Telemetry.of_append, Telemetry.of_supersededBy, Telemetry.of_firing, Telemetry.add_def]
      simp only [Nat.zero_add, Nat.add_zero]
      rfl
  | elapse id =>
    obtain ⟨s, hf, hPending⟩ := possible
    have hTimers := pendingTimers_fired (w := w) hs.sorted (hs.mem_of_session? hf).1 [.fired] id
    rw [if_pos hPending] at hTimers
    simp only [act_elapse hf, Act.told, Act.launched, Act.landed?, hf, Option.map_some,
      Option.getD_some, Option.bind_some]
    refine ⟨0, 0, 1, ?_, hTimers⟩
    have hElapsed : Telemetry.of [.fired] = { fired := 1 } := rfl
    rw [← List.singleton_append, Telemetry.of_append, hElapsed, Telemetry.of_firing,
      Telemetry.add_def]
    simp only [Nat.zero_add, Nat.add_zero]
    rfl
  | complete f =>
    exact ⟨0, 0, 0, of_landing w h f, pendingTimers_complete hs.sorted f⟩
  | dispose id =>
    cases hf : h.session? id with
    | none =>
      simp only [Host.act, Host.dispose, Act.told, hf]
      exact ⟨0, 0, 0, rfl, rfl⟩
    | some s =>
      obtain ⟨flights, journal, hRelease⟩ := exists_release_eq h s
      have hPut := pendingTimers_put (t := s.closed) hs.sorted (hs.mem_of_session? hf).1 rfl
      simp only [Host.act, Host.dispose, Act.told, hf, hRelease, Option.map_some, Option.getD_some,
        Telemetry.of_parting]
      exact ⟨0, if s.timer.isPending then 1 else 0, 0, rfl, hPut⟩
  | evict id =>
    cases hf : h.session? id with
    | none =>
      simp only [Host.act, Host.evict, Act.told, hf]
      exact ⟨0, 0, 0, rfl, rfl⟩
    | some s =>
      obtain ⟨hm, rfl⟩ := hs.mem_of_session? hf
      obtain ⟨flights, journal, hRelease⟩ := exists_release_eq h s
      have hRemove := pendingTimers_remove hs.sorted hm
      simp only [Host.act, Host.evict, Act.told, hf, hRelease, Option.map_some, Option.getD_some,
        Telemetry.of_parting]
      exact ⟨0, if s.timer.isPending then 1 else 0, 0, rfl, hRemove⟩
  | focus | tick => exact ⟨0, 0, 0, rfl, rfl⟩

/-! ### Runs that start and runs that end -/

/-- The run that an act starts has the next number. -/
theorem map_run_launched (w : Setup) (h : Host) (a : Act) :
    (a.launched w h).map (·.run) = List.range' h.started (a.launched w h).length := by
  have hLiftoff : ∀ o : Option Session, ((o.map (h.liftoff w)).getD []).map (·.run) =
      List.range' h.started ((o.map (h.liftoff w)).getD []).length := by
    intro o
    cases o with
    | none => rfl
    | some s =>
      simp only [Option.map_some, Option.getD_some, liftoff]
      split <;> rfl
  cases a with
  | begin id => exact hLiftoff _
  | elapse id => exact hLiftoff _
  | _ => rfl

/-- An act does not start a run that is in flight. -/
theorem Sound.not_mem_launched (hs : Sound owner h) (hf : f ∈ h.flights) :
    f ∉ a.launched w h := by
  intro hMem
  have hRun : f.run ∈ (a.launched w h).map (·.run) := List.mem_map_of_mem hMem
  rw [map_run_launched] at hRun
  exact Nat.not_le.mpr (hs.flight f hf).1 (List.mem_range'_1.mp hRun).1

theorem started_act_eq (hSorted : Sorted h.sessions) (w : Setup) (a : Act) :
    (h.act w a).started = h.started + (a.launched w h).length := by
  have hFired : ∀ {id s}, h.session? id = some s → ∀ pre,
      (((h.log s pre).put { s with timer := s.timer.cancel }).fire w id).started =
        h.started + (h.liftoff w s).length := by
    intro id s hf pre
    rw [started_fire (session?_cancelled hSorted hf pre), liftoff]
    split <;> rfl
  by_cases ha : a.IsFire
  swap
  · have hNone : a.launched w h = [] := by
      cases a with
      | begin | elapse => exact absurd trivial ha
      | _ => rfl
    rw [started_act ha, hNone]
    rfl
  cases a with
  | begin id =>
    cases hf : h.session? id with
    | none => simp [Host.act, begin, cancelTimer, fire, Act.launched, hf]
    | some s => simpa [act_begin hf, Act.launched, hf] using hFired hf _
  | elapse id =>
    cases hf : h.session? id with
    | none => simp [Host.act, elapse, Act.launched, hf]
    | some s => simpa [act_elapse hf, Act.launched, hf] using hFired hf _
  | _ => exact ha.elim

/-- The runs that an act takes out of the air. -/
theorem Reachable.ended_eq (hr : Reachable w h) (possible : a.Possible h) :
    Deed.ended w ⟨h, a⟩ = h.flights.filter (a.landed? w h = some ·.run) := by
  obtain ⟨owner, hs⟩ := hr.sound
  rw [Deed.ended, (hr.events_flights_act possible).2]
  refine List.filter_congr fun f hf => ?_
  simp [hf, hs.not_mem_launched hf]

/-- **Runs that are in flight or start are in flight or ended afterwards.** -/
theorem Reachable.flights_act_perm (hr : Reachable w h) (possible : a.Possible h) :
    (h.flights ++ a.launched w h).Perm (Deed.ended w ⟨h, a⟩ ++ (h.act w a).flights) := by
  have hSplit := List.filter_append_perm (a.landed? w h = some ·.run) h.flights
  rw [hr.ended_eq possible, (hr.events_flights_act possible).2, ← List.append_assoc]
  simp only [ne_eq, decide_not]
  exact hSplit.symm.append_right _

/-- A run that an act takes out of the air was in flight. -/
theorem exists_of_landed? (possible : a.Possible h) {run : RunNumber}
    (hRun : a.landed? w h = some run) : ∃ f ∈ h.flights, f.run = run := by
  have hNewest : ∀ s, h.newestFlight? s = some run → ∃ f ∈ h.flights, f.run = run := by
    intro s hNewest
    obtain ⟨f, hf⟩ := Option.isSome_iff_exists.mp (Option.filter_eq_some_iff.mp hNewest).2
    exact ⟨f, List.mem_of_find?_eq_some hf, by simpa using List.find?_some hf⟩
  cases a with
  | begin id | elapse id =>
    obtain ⟨s, -, hSuperseded⟩ := Option.bind_eq_some_iff.mp hRun
    rw [superseded?, Option.ite_none_right_eq_some] at hSuperseded
    exact hNewest s hSuperseded.2
  | complete f => exact ⟨f, possible, Option.some.inj hRun⟩
  | dispose id | evict id =>
    obtain ⟨s, -, hReleased⟩ := Option.bind_eq_some_iff.mp hRun
    exact hNewest s hReleased
  | _ => exact absurd hRun (by simp [Act.landed?])

/-- An act takes one run out of the air at most. -/
theorem Reachable.map_run_ended (hr : Reachable w h) (possible : a.Possible h) :
    (Deed.ended w ⟨h, a⟩).map (·.run) = (a.landed? w h).toList := by
  obtain ⟨owner, hs⟩ := hr.sound
  rw [hr.ended_eq possible]
  cases hRun : a.landed? w h with
  | none => simp
  | some run =>
    obtain ⟨f, hf, rfl⟩ := exists_of_landed? possible hRun
    have hCount : (h.flights.map (·.run)).count f.run = 1 :=
      List.count_eq_one_of_mem hs.runs (List.mem_map_of_mem hf)
    calc (h.flights.filter (some f.run = some ·.run)).map (·.run)
        = (h.flights.map (·.run)).filter (· = f.run) := by
          simp [List.filter_map, Function.comp_def, eq_comm]
      _ = [f.run] := by rw [List.filter_eq, hCount, List.replicate_one]

/-- An evaluation ends the runs of the session that evaluates its line, under the cancel policy. -/
theorem Reachable.mem_ended_iff (hr : Reachable w h) (possible : a.Possible h) {id : EditorId}
    (ha : a = .begin id ∨ a = .elapse id) :
    f ∈ Deed.ended w ⟨h, a⟩ ↔ w.onSupersede = .cancel ∧ f ∈ h.flights ∧
      ∃ s, h.session? id = some s ∧ s.disposed = false ∧ f.session = s.number := by
  obtain ⟨owner, hs⟩ := hr.sound
  have hLanded : a.landed? w h = (h.session? id).bind (h.superseded? w) := by
    rcases ha with rfl | rfl <;> rfl
  rw [hr.ended_eq possible, List.mem_filter, decide_eq_true_eq, hLanded, Option.bind_eq_some_iff]
  constructor
  · rintro ⟨hf, s, hSome, hRun⟩
    rw [superseded?, Option.ite_none_right_eq_some] at hRun
    obtain ⟨⟨hDisposed, hCancel⟩, hNewest⟩ := hRun
    have hKnown := hs.known s (hs.mem_of_session? hSome).1
    exact ⟨hCancel, hf, s, hSome, hDisposed,
      (hKnown.newest (Option.filter_eq_some_iff.mp hNewest).1).2 f hf rfl⟩
  · rintro ⟨hCancel, hf, s, hSome, hDisposed, hOwn⟩
    refine ⟨hf, s, hSome, ?_⟩
    obtain ⟨t, ht, hNewest⟩ := (hr.sole hCancel s.number).held f (mem_flights_life.mpr ⟨hf, hOwn⟩)
    obtain rfl : s = t :=
      Option.some.inj ((hs.life_session (hs.mem_of_session? hSome).1).symm.trans ht)
    rw [superseded?, if_pos ⟨hDisposed, hCancel⟩, newestFlight?, hNewest,
      Option.filter_eq_some_iff]
    exact ⟨rfl, List.find?_isSome.mpr ⟨f, hf, by simp⟩⟩

/-! ### Courses -/

theorem endedBy_cons (w : Setup) (p : Act → Prop) [DecidablePred p] (d : Deed) (c : List Deed) :
    endedBy w p (d :: c) = (if p d.act then (d.ended w).map (·.run) else []) ++ endedBy w p c := by
  rw [endedBy, List.filter_cons]
  by_cases hp : p d.act
  · rw [if_pos (decide_eq_true hp), if_pos hp]
    exact List.flatMap_cons
  · rw [if_neg (by simpa using hp), if_neg hp]
    rfl

/-- All runs that came to their end in a course. -/
def endings (w : Setup) (c : List Deed) : List RunNumber :=
  completions c ++ cancellations w c ++ abortions w c

theorem Reachable.endings_cons_perm (hr : Reachable w h) (possible : a.Possible h) :
    (endings w (⟨h, a⟩ :: c)).Perm ((Deed.ended w ⟨h, a⟩).map (·.run) ++ endings w c) := by
  have hCompleted : completions (⟨h, a⟩ :: c) = a.completed?.toList ++ completions c := by
    rw [completions, List.filterMap_cons]
    cases hRun : a.completed? <;> rfl
  have hKinds : (a.landed? w h).toList = a.completed?.toList ++
      ((if a.IsFire then (a.landed? w h).toList else []) ++
        if a.IsDisposal then (a.landed? w h).toList else []) := by
    cases a <;> simp [Act.landed?, Act.completed?, Act.IsFire, Act.IsDisposal]
  simp only [endings, cancellations, abortions, endedBy_cons, hCompleted,
    hr.map_run_ended possible]
  rw [List.perm_iff_count]
  intro run
  have hCount := congrArg (List.count run) hKinds
  simp only [List.count_append] at hCount ⊢
  omega

/-- What the counters, the clocks and the runs in flight say of a course adds up. -/
structure Balanced (w : Setup) (c : List Deed) (h : Host) : Prop where
  timers : h.counters.scheduled = h.counters.superseded + h.counters.fired + h.pendingTimers
  started : h.counters.started = h.started
  cancelled : h.counters.cancelled = (cancellations w c).length
  dropped : h.counters.dropped = c.countP fun d => d.act.drops w d.host
  runs : (endings w c ++ h.flights.map (·.run)).Perm (List.range h.started)

theorem Balanced.initial (w : Setup) : Balanced w [] {} := ⟨rfl, rfl, rfl, rfl, .nil⟩

/-- Every act keeps the balance. -/
theorem Balanced.act (hb : Balanced w c h) (hr : Reachable w h) (possible : a.Possible h) :
    Balanced w (⟨h, a⟩ :: c) (h.act w a) := by
  obtain ⟨owner, hs⟩ := hr.sound
  obtain ⟨scheduled, superseded, fired, hTold, hTimers⟩ := hs.account_act (w := w) possible
  have hCounters := hr.counters_act possible
  rw [hTold, Telemetry.add_def] at hCounters
  have hStarted := started_act_eq hs.sorted w a
  constructor
  · have hBefore := hb.timers
    simp only [hCounters]
    omega
  · simp only [hCounters, hStarted, hb.started, Nat.add_comm]
  · have hEnded := congrArg List.length (hr.map_run_ended possible)
    simp only [hCounters, hb.cancelled, cancellations, endedBy_cons, List.length_append]
    split
    · rw [hEnded]
    · rfl
  · simp only [hCounters, hb.dropped, List.countP_cons, Nat.add_comm]
  · have hFlights := (hr.flights_act_perm possible).map (·.run)
    have hRange : List.range (h.act w a).started =
        List.range h.started ++ List.range' h.started (a.launched w h).length := by
      have hAppend := List.range'_append_1 (s := 0) (m := h.started) (n := (a.launched w h).length)
      rw [Nat.zero_add] at hAppend
      rw [hStarted, List.range_eq_range', List.range_eq_range', hAppend]
    rw [hRange, List.perm_iff_count]
    rw [List.map_append, List.map_append, map_run_launched] at hFlights
    intro run
    have hEndings := (hr.endings_cons_perm (c := c) possible).count_eq run
    have hFlights := hFlights.count_eq run
    have hBefore := hb.runs.count_eq run
    simp only [List.count_append] at hEndings hFlights hBefore ⊢
    omega

theorem Course.balanced (hc : Course w {} c h) : Balanced w c h := by
  induction hc with
  | nil => exact .initial w
  | cons prior a possible ih => exact ih.act prior.leads possible

/-- **The accounts balance.**  After any acts the timers that were scheduled are those that gave
way, those that elapsed and those that are pending.  The runs that were started are those that
completed, those that an evaluation or a disposal aborted unfinished and those in flight, each once.
No run is aborted by an evaluation under the finish policy, and under the cancel policy those are
that the session that evaluates its line had in flight.  Dropped annotations are those of completed
runs that were heeded, for a line that the document did not have any more. -/
theorem Course.accounts_balanced (hc : Course w {} c h) :
    h.counters.scheduled = h.counters.superseded + h.counters.fired +
      h.sessions.countP (·.timer.isPending) ∧
    h.counters.started = (completions c).length + h.counters.cancelled + (abortions w c).length +
      h.flights.length ∧
    (completions c ++ cancellations w c ++ abortions w c ++ h.flights.map (·.run)).Perm
      (List.range h.counters.started) ∧
    (w.onSupersede = .finish → h.counters.cancelled = 0) ∧
    h.counters.cancelled = (cancellations w c).length ∧
    (∀ d ∈ c, ∀ id, d.act = .begin id ∨ d.act = .elapse id → ∀ f, f ∈ d.ended w ↔
      w.onSupersede = .cancel ∧ f ∈ d.host.flights ∧
        ∃ s, d.host.session? id = some s ∧ s.disposed = false ∧ f.session = s.number) ∧
    h.counters.dropped = c.countP fun d => d.act.drops w d.host := by
  have hb := hc.balanced
  have hEnded : ∀ d ∈ c, ∀ id, d.act = .begin id ∨ d.act = .elapse id → ∀ f, f ∈ d.ended w ↔
      w.onSupersede = .cancel ∧ f ∈ d.host.flights ∧
        ∃ s, d.host.session? id = some s ∧ s.disposed = false ∧ f.session = s.number := by
    intro d hd id ha f
    obtain ⟨hr, possible⟩ := hc.exists_prior hd
    exact Reachable.mem_ended_iff hr possible ha
  refine ⟨hb.timers, ?_, hb.started ▸ hb.runs, fun hFinish => ?_, hb.cancelled, hEnded, hb.dropped⟩
  · have hLength := hb.runs.length_eq
    simp only [endings, List.length_append, List.length_map, List.length_range] at hLength
    rw [hb.started, hb.cancelled, ← hLength]
  · rw [hb.cancelled, List.length_eq_zero_iff, cancellations, endedBy, List.flatMap_eq_nil_iff]
    intro d hd
    obtain ⟨hd, hFire⟩ := List.mem_filter.mp hd
    obtain ⟨id, ha⟩ := (of_decide_eq_true hFire).exists_eq
    refine List.map_eq_nil_iff.mpr (List.eq_nil_iff_forall_not_mem.mpr fun f hf => ?_)
    exact absurd (((hEnded d hd id ha f).mp hf).1.symm.trans hFinish) (by decide)

/-- Of four runs one was superseded, one has completed without a line for its annotation, one ended
with its session, and one is in flight; of six timers one gave way and one is pending. -/
def audited : Host :=
  run cancelling {} [.openEditor 1 ⟨⟨"x\nprint(1)\n".toList⟩, 1⟩, .notify 1, .advance 10, .notify 1,
    .advance 10, .edit 1 (some "x".toList) (some 0), .advance 1000, .notify 1, .advance 10,
    .dispose 1, .openEditor 2 ⟨⟨"y".toList⟩, 0⟩, .notify 2, .advance 10, .notify 2, .notify 2]

theorem accounts_balanced_audited :
    ∃ c, Course cancelling {} c audited ∧
      audited.counters.scheduled = 6 ∧ audited.sessions.countP (·.timer.isPending) = 1 ∧
      (completions c ++ cancellations cancelling c ++ abortions cancelling c ++ [3]).Perm
        [0, 1, 2, 3] ∧
      (cancellations cancelling c).length = 1 ∧
      (completions c).length + (abortions cancelling c).length = 2 ∧
      (c.countP fun d => d.act.drops cancelling d.host) = 1 := by
  have hr : Reachable cancelling audited := .run _
  have hCounters : audited.counters = ⟨6, 1, 4, 4, 1, 1⟩ := by decide +kernel
  have hFlights : audited.flights.map (·.run) = [3] := by decide +kernel
  obtain ⟨c, hc⟩ := hr.exists_course
  obtain ⟨hTimers, hRuns, hPerm, -, hCancelled, -, hDropped⟩ := Course.accounts_balanced hc
  have hOne : audited.flights.length = 1 := by rw [← List.length_map (·.run), hFlights]; rfl
  rw [hCounters] at hTimers hPerm hCancelled hDropped
  rw [hCounters, hOne] at hRuns
  rw [hFlights] at hPerm
  dsimp only at hTimers hRuns
  exact ⟨c, hc, by rw [hCounters], by omega, hPerm, hCancelled.symm, by omega, hDropped.symm⟩

end

end Host

end LiveLine
