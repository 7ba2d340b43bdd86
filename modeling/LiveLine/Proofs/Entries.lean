import LiveLine.Proofs.Completions
import LiveLine.Proofs.Starts

/-!
# What an act writes down, and what it does to the runs in flight

Every act adds entries to the journal, takes one run out of the air at most and brings one into it
at most.  Here all three are read off the act and the state in which it happens, so that what is
counted in the journal can be compared with what is in flight.

* `Act.told`: the entries of an act, in order.
* `Act.landed?`, `Act.launched`: the run that an act takes out of the air, and the one that it
  starts.
* `Reachable.events_flights_act`: these are what the act does.
-/

namespace LiveLine.Host

/-- What happened, whatever session it happened to, the newest first. -/
def events (h : Host) : List Happening := h.journal.map (·.event)

/-- The run that gives way to an evaluation of a session. -/
def superseded? (w : Setup) (h : Host) (s : Session) : Option RunNumber :=
  if s.disposed = false ∧ w.onSupersede = .cancel then h.newestFlight? s else none

/-- What an evaluation of a session writes down. -/
def firing (w : Setup) (h : Host) (s : Session) : List Happening :=
  if s.disposed then []
  else ((h.superseded? w s).map .cancelled).toList ++
    if w.evaluates s.snapshot.cursorText then [.started h.started s.request]
    else .rejected s.snapshot.cursor :: s.presenter.clearCalls.map .called

/-- The run that an evaluation of a session starts, if it starts one. -/
def liftoff (w : Setup) (h : Host) (s : Session) : List Flight :=
  if s.disposed = false ∧ w.evaluates s.snapshot.cursorText = true then
    [h.takeoff w (s.evaluated w)]
  else []

/-- What the completion of a run writes down. -/
def landing (w : Setup) (h : Host) (f : Flight) : List Happening :=
  .finished f.run f.result ::
    if h.Heeds w f then ((h.numbered? f.session).map (·.hearing w h.issued f)).getD [] else []

namespace Act

/-- What an act writes down, in order. -/
def told (w : Setup) (h : Host) : Act → List Happening
  | openEditor .. => [.opened]
  | notify id => ((h.session? id).map fun s =>
      if s.disposed then [] else supersededBy s ++ [.scheduled]).getD []
  | begin id => ((h.session? id).map fun s => supersededBy s ++ h.firing w s).getD []
  | elapse id => ((h.session? id).map fun s => .fired :: h.firing w s).getD []
  | complete f => h.landing w f
  | dispose id | evict id =>
    ((h.session? id).map fun s => Life.parting s (h.newestFlight? s)).getD []
  | edit .. | focus _ | tick _ => []

/-- The run that an act takes out of the air. -/
def landed? (w : Setup) (h : Host) : Act → Option RunNumber
  | begin id | elapse id => (h.session? id).bind (h.superseded? w)
  | complete f => some f.run
  | dispose id | evict id => (h.session? id).bind h.newestFlight?
  | _ => none

/-- The run that an act starts, if it starts one. -/
def launched (w : Setup) (h : Host) : Act → List Flight
  | begin id | elapse id => ((h.session? id).map (h.liftoff w)).getD []
  | _ => []

end Act

section

variable {owner : Nat → EditorId} {w : Setup} {h : Host} {s : Session} {f : Flight} {a : Act}
  {id : EditorId}

theorem events_log (h : Host) (s : Session) (es : List Happening) :
    (h.log s es).events = es.reverse ++ h.events := by
  rw [events, log, List.map_append, List.map_reverse, List.map_map, events]
  exact congrArg (·.reverse ++ _) (List.map_id es)

/-! ### Evaluations -/

theorem supersede_eq (hDisposed : s.disposed = false) :
    h.supersede w s = match h.superseded? w s with
      | some run => (h.land run).log s [.cancelled run]
      | none => h := by
  unfold supersede superseded?
  cases w.onSupersede with
  | cancel => cases h.newestFlight? s <;> simp [hDisposed]
  | finish => simp

theorem events_supersede (hDisposed : s.disposed = false) :
    (h.supersede w s).events =
      ((h.superseded? w s).map Happening.cancelled).toList ++ h.events := by
  rw [supersede_eq hDisposed]
  cases h.superseded? w s <;> rfl

theorem flights_supersede (hDisposed : s.disposed = false) :
    (h.supersede w s).flights = h.flights.filter (h.superseded? w s ≠ some ·.run) := by
  rw [supersede_eq hDisposed]
  cases h.superseded? w s with
  | none => simp
  | some run => simp [log, land, eq_comm]

/-- What an evaluation makes of the journal and the runs in flight. -/
theorem events_flights_fire (hf : h.session? id = some s) :
    (h.fire w id).events = (h.firing w s).reverse ++ h.events ∧
    (h.fire w id).flights =
      h.flights.filter (h.superseded? w s ≠ some ·.run) ++ h.liftoff w s := by
  cases hDisposed : s.disposed with
  | true => simp [fire, hf, hDisposed, firing, liftoff, superseded?]
  | false =>
    obtain ⟨flights, journal, hSupersede⟩ := exists_supersede_eq w h s
    have hStarted : (h.supersede w s).started = h.started := by rw [hSupersede]
    have hTakeoff : (h.supersede w s).takeoff w = h.takeoff w := by rw [hSupersede]; rfl
    have hEvents := events_supersede (w := w) (h := h) hDisposed
    have hFlights := flights_supersede (w := w) (h := h) hDisposed
    have hReversed : ∀ o : Option RunNumber, (o.map Happening.cancelled).toList.reverse =
        (o.map Happening.cancelled).toList := by
      intro o
      cases o <;> rfl
    cases hLine : w.evaluates s.snapshot.cursorText with
    | true =>
      have hFire : h.fire w id = (h.supersede w s).start w (s.evaluated w) := by
        simp [fire, hf, hDisposed, Session.evaluated, hLine]
      have hStart := events_log (h.supersede w s) (s.evaluated w) [.started h.started s.request]
      rw [hFire, start_eq, hStarted, hTakeoff]
      refine ⟨hStart.trans ?_, ?_⟩
      · simp [hEvents, firing, hDisposed, hLine, hReversed]
      · rw [liftoff, if_pos ⟨hDisposed, hLine⟩, ← hFlights]
        rfl
    | false =>
      have hFire : h.fire w id = (h.supersede w s).reject w (s.evaluated w) := by
        simp [fire, hf, hDisposed, Session.evaluated, hLine]
      have hReject := events_log (h.supersede w s) (s.evaluated w)
        (.rejected s.snapshot.cursor :: s.presenter.clearCalls.map .called)
      rw [hFire, reject_eq]
      refine ⟨hReject.trans ?_, ?_⟩
      · simp [hEvents, firing, hDisposed, hLine, hReversed]
      · rw [liftoff, if_neg (by simp [hLine]), List.append_nil, ← hFlights]
        rfl

/-- The timer of a session makes no difference to its evaluation. -/
theorem events_flights_fired (hSorted : Sorted h.sessions) (hf : h.session? id = some s)
    (pre : List Happening) :
    (((h.log s pre).put { s with timer := s.timer.cancel }).fire w id).events =
      (pre ++ h.firing w s).reverse ++ h.events ∧
    (((h.log s pre).put { s with timer := s.timer.cancel }).fire w id).flights =
      h.flights.filter (h.superseded? w s ≠ some ·.run) ++ h.liftoff w s := by
  have hf' := session?_cancelled hSorted hf pre
  obtain ⟨hEvents, hFlights⟩ := events_flights_fire (w := w) hf'
  have hLog : ((h.log s pre).put { s with timer := s.timer.cancel }).events =
      pre.reverse ++ h.events := events_log h s pre
  refine ⟨?_, hFlights⟩
  rw [hEvents, hLog, List.reverse_append, List.append_assoc]
  rfl

/-! ### Ends -/

theorem events_flights_release (h : Host) (s : Session) :
    (h.release s).events = (Life.parting s (h.newestFlight? s)).reverse ++ h.events ∧
    (h.release s).flights = h.flights.filter (h.newestFlight? s ≠ some ·.run) := by
  have hLog := events_log h s (Life.parting s (h.newestFlight? s))
  unfold release
  cases hRun : h.newestFlight? s with
  | none =>
    rw [hRun] at hLog
    exact ⟨hLog, by simp [log]⟩
  | some run =>
    rw [hRun] at hLog
    exact ⟨hLog, by simp [log, land, eq_comm]⟩

/-! ### Acts -/

theorem events_flights_complete (hr : Reachable w h) (hf : f ∈ h.flights) :
    (h.complete w f).events = (h.landing w f).reverse ++ h.events ∧
    (h.complete w f).flights = h.flights.filter (some f.run ≠ some ·.run) := by
  obtain ⟨owner, hs⟩ := hr.sound
  have hFinish : (h.finish f).events = .finished f.run f.result :: h.events := rfl
  refine ⟨?_, by simp [flights_complete, land, eq_comm]⟩
  by_cases hHeeds : h.Heeds w f
  · obtain ⟨s, hSome, hAttends⟩ := (hr.exists_attends_iff hf).mpr hHeeds
    have hLog : ((h.finish f).presentResult w s f).events =
        (s.hearing w h.issued f).reverse ++ (h.finish f).events := events_log _ s _
    rw [complete_of_attends hSome hAttends, hLog, hFinish, landing, if_pos hHeeds, hSome]
    simp
  · rw [hs.complete_of_ignored (mt (hr.exists_attends_iff hf).mp hHeeds), hFinish, landing,
      if_neg hHeeds]
    rfl

/-- **What an act writes down, and what it does to the runs in flight.** -/
theorem Reachable.events_flights_act (hr : Reachable w h) (possible : a.Possible h) :
    (h.act w a).events = (a.told w h).reverse ++ h.events ∧
    (h.act w a).flights =
      h.flights.filter (a.landed? w h ≠ some ·.run) ++ a.launched w h := by
  obtain ⟨owner, hs⟩ := hr.sound
  -- where an act concerns nobody, nothing happens
  have hNone : h.events = [].reverse ++ h.events ∧
      h.flights = h.flights.filter (none ≠ some ·.run) ++ [] := by simp
  cases a with
  | openEditor id snapshot =>
    have hNew : h.session? id = none := possible
    simp only [act, openEditor, hNew]
    exact ⟨events_log _ _ _, hNone.2⟩
  | edit id text cursor =>
    simp only [act, edit]
    split <;> exact hNone
  | notify id =>
    cases hf : h.session? id with
    | none =>
      simp only [act, notify, Act.told, hf]
      exact hNone
    | some s =>
      simp only [act, notify, Act.told, hf, Option.map_some, Option.getD_some]
      split
      · exact hNone
      · exact ⟨events_log h s _, hNone.2⟩
  | begin id =>
    cases hf : h.session? id with
    | none =>
      have hSame : h.act w (.begin id) = h := by simp [act, begin, cancelTimer, fire, hf]
      simp only [hSame, Act.told, Act.landed?, Act.launched, hf]
      exact hNone
    | some s =>
      have hFired := events_flights_fired (w := w) hs.sorted hf (supersededBy s)
      simp only [act_begin hf, Act.told, Act.landed?, Act.launched, hf]
      exact hFired
  | elapse id =>
    obtain ⟨s, hf, -⟩ := possible
    have hFired := events_flights_fired (w := w) hs.sorted hf [.fired]
    simp only [act_elapse hf, Act.told, Act.landed?, Act.launched, hf]
    exact hFired
  | complete f =>
    obtain ⟨hEvents, hFlights⟩ := events_flights_complete hr possible
    exact ⟨hEvents, hFlights.trans (List.append_nil _).symm⟩
  | dispose id =>
    simp only [act, dispose, Act.told, Act.landed?, Act.launched]
    split
    · rename_i hf
      simp only [hf]
      exact hNone
    · rename_i s hf
      obtain ⟨hEvents, hFlights⟩ := events_flights_release h s
      simp only [hf, List.append_nil]
      exact ⟨hEvents, hFlights⟩
  | evict id =>
    simp only [act, evict, Act.told, Act.landed?, Act.launched]
    split
    · rename_i hf
      simp only [hf]
      exact hNone
    · rename_i s hf
      obtain ⟨hEvents, hFlights⟩ := events_flights_release h s
      simp only [hf, List.append_nil]
      exact ⟨hEvents, hFlights⟩
  | focus | tick => exact hNone

end

end LiveLine.Host
