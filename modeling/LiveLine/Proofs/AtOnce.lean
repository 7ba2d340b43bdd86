import LiveLine.Proofs.Completions
import LiveLine.Proofs.Requests
import LiveLine.Proofs.Schedules
import LiveLine.Proofs.Silence

/-!
# Evaluating at once

Where no run is in flight and no other timer is pending, it makes no difference whether a session is
notified and its timer and its run are waited for, or its line is evaluated at once.  Only the clock
and what happened to timers tell the two apart.

* `timeless`: what is left of a host without its clock and what happened to timers.
* `timeless_start`, `timeless_complete` and so on: what happens does not depend on what is left out.
* `evaluateLine`, `concludeLine`: what an elapsed timer and an evaluation at once both come to.
* `timeless_advanceTo_evaluateLine`: the result is waited for.
* `Reachable.debounced_eq_immediate`: both come to the same.
-/

namespace LiveLine

/-- Whether an entry tells of a timer. -/
def Happening.isTimer : Happening → Bool
  | scheduled | superseded | fired => true
  | _ => false

namespace Host

/-- A host without its clock, the due times of its runs, and what happened to timers. -/
def timeless (h : Host) : Host :=
  { h with
    now := 0
    flights := h.flights.map fun f => { f with due := 0 }
    journal := h.journal.filter (!·.event.isTimer) }

/-- No timer is pending. -/
def Calm (h : Host) : Prop := ∀ s ∈ h.sessions, s.timer.isPending = false

/-- Evaluates the cursor line of a session that has no run in flight. -/
def evaluateLine (w : Setup) (h : Host) (s : Session) : Host :=
  if w.evaluates s.snapshot.cursorText then h.start w (s.evaluated w)
  else h.reject w (s.evaluated w)

/-- Evaluates the cursor line of a session, and completes the run that this starts. -/
def concludeLine (w : Setup) (h : Host) (s : Session) : Host :=
  if w.evaluates s.snapshot.cursorText then
    (h.start w (s.evaluated w)).complete w (h.takeoff w (s.evaluated w))
  else h.reject w (s.evaluated w)

/-- A host after a session was notified and its settle period has passed. -/
def lapse (h : Host) (s : Session) : Host :=
  log { h.log s (supersededBy s ++ [.scheduled]) with now := h.now + s.timer.delay } s [.fired]

/-- How long the next run takes, if the session evaluates its line. -/
def latency (w : Setup) (h : Host) (s : Session) : Nat :=
  if w.evaluates s.snapshot.cursorText then (w.plan h.started s.request).latency else 0

section

variable {owner : Nat → EditorId} {w : Setup} {h g : Host} {s t : Session} {id : EditorId}
  {f : Flight} {item : Nat × Due} {time : Nat}

/-! ### What does not depend on time -/

theorem timeless_log (h : Host) (s : Session) (es : List Happening) :
    (h.log s es).timeless = h.timeless.log s (es.filter (!·.isTimer)) := by
  have hEntries : ((es.map s.entry).reverse ++ h.journal).filter (!·.event.isTimer) =
      ((es.filter (!·.isTimer)).map s.entry).reverse ++
        h.journal.filter (!·.event.isTimer) := by
    rw [List.filter_append, List.filter_reverse, List.filter_map]
    rfl
  simp only [timeless, log, hEntries]

/-- Entries that tell of timers are left out. -/
theorem timeless_log_of_timer {es : List Happening} (hes : ∀ e ∈ es, e.isTimer = true)
    (h : Host) (s : Session) : (h.log s es).timeless = h.timeless := by
  have hNone : es.filter (!·.isTimer) = [] :=
    List.filter_eq_nil_iff.mpr fun e he => by simp [hes e he]
  rw [timeless_log, hNone]
  rfl

/-- Entries that do not tell of timers are kept. -/
theorem timeless_log_of_not_timer {es : List Happening} (hes : ∀ e ∈ es, e.isTimer = false)
    (h : Host) (s : Session) : (h.log s es).timeless = h.timeless.log s es := by
  rw [timeless_log, List.filter_eq_self.mpr fun e he => by simp [hes e he]]

theorem isTimer_supersededBy (s : Session) : ∀ e ∈ supersededBy s, e.isTimer = true := by
  unfold supersededBy
  split <;> simp [Happening.isTimer]

theorem isTimer_called (calls : List SurfaceCall) :
    ∀ e ∈ calls.map Happening.called, e.isTimer = false := by
  intro e he
  obtain ⟨call, -, rfl⟩ := List.mem_map.mp he
  rfl

theorem isTimer_hearing (w : Setup) (issued : Nat) (s : Session) (f : Flight) :
    ∀ e ∈ s.hearing w issued f, e.isTimer = false := by
  unfold Session.hearing fateEntries
  intro e he
  simp only [List.cons_append, List.mem_cons, List.mem_append, Option.mem_toList,
    Option.map_eq_some_iff, List.not_mem_nil, or_false] at he
  rcases he with rfl | hCall | (hFate | ⟨message, -, rfl⟩) | rfl
  · rfl
  · exact isTimer_called _ e hCall
  · split at hFate
    · obtain rfl := List.mem_singleton.mp hFate
      rfl
    · obtain rfl := List.mem_singleton.mp hFate
      rfl
    · exact absurd hFate List.not_mem_nil
  · rfl
  · rfl

@[simp] theorem timeless_timeless (h : Host) : h.timeless.timeless = h.timeless := by
  simp [timeless, Function.comp_def, List.filter_filter]

theorem timeless_launch (h : Host) (f : Flight) :
    (h.launch f).timeless = h.timeless.launch { f with due := 0 } := by
  simp [timeless, launch]

theorem timeless_start (w : Setup) (h : Host) (s : Session) :
    (h.start w s).timeless = (h.timeless.start w s).timeless := by
  have hEntries : ∀ e ∈ [Happening.started h.started s.request], e.isTimer = false := by
    simp [Happening.isTimer]
  have hBoth : ∀ k : Host, k.started = h.started → (k.start w s).timeless =
      ((k.timeless.log s [.started h.started s.request]).launch
        { h.takeoff w s with due := 0 }).put
          { s with phase := .running, newest := some h.started } := by
    intro k hStarted
    rw [start_eq, hStarted, ← timeless_log_of_not_timer hEntries, takeoff, hStarted]
    exact congrArg (put · _) (timeless_launch _ _)
  rw [hBoth h rfl, hBoth h.timeless rfl, timeless_timeless]

theorem timeless_reject (w : Setup) (h : Host) (s : Session) :
    (h.reject w s).timeless = h.timeless.reject w s := by
  have hEntries : ∀ e ∈ Happening.rejected s.snapshot.cursor ::
      s.presenter.clearCalls.map Happening.called, e.isTimer = false :=
    List.forall_mem_cons.mpr ⟨rfl, isTimer_called _⟩
  rw [reject_eq, reject_eq, ← timeless_log_of_not_timer hEntries]
  rfl

theorem timeless_finish (h : Host) (f : Flight) :
    (h.finish f).timeless = h.timeless.finish f := by
  simp [timeless, finish, land, List.filter_map, Function.comp_def, Happening.isTimer]

theorem timeless_presentResult (w : Setup) (h : Host) (s : Session) (f : Flight) :
    (h.presentResult w s f).timeless = h.timeless.presentResult w s f := by
  have hLog := timeless_log_of_not_timer (isTimer_hearing w h.issued s f) h s
  exact congrArg (fun k : Host =>
    { k with issued := (s.presentation w h.issued f).issued }.put (s.heard w h.issued f)) hLog

/-- **What a result comes to does not depend on when it is ready.** -/
theorem timeless_complete (w : Setup) (h : Host) (f : Flight) :
    (h.complete w f).timeless = h.timeless.complete w f := by
  have hFound : (h.timeless.finish f).numbered? f.session = (h.finish f).numbered? f.session := rfl
  rw [complete, complete, ← finish, ← finish, hFound]
  cases (h.finish f).numbered? f.session with
  | none => exact timeless_finish h f
  | some s =>
    dsimp only
    split
    · exact timeless_finish h f
    · rw [timeless_presentResult, timeless_finish]

theorem timeless_concludeLine (w : Setup) (h : Host) (s : Session) :
    (h.concludeLine w s).timeless = (h.timeless.concludeLine w s).timeless := by
  unfold concludeLine
  split
  · rw [timeless_complete, timeless_complete, timeless_start]
    rfl
  · rw [timeless_reject, timeless_reject, timeless_timeless]

/-- The requests to the runner tell nothing of timers. -/
theorem asked_timeless (h : Host) : h.timeless.asked = h.asked := by
  rw [asked, asked, timeless, ← List.filter_reverse, List.filterMap_filter]
  refine List.filterMap_congr fun e _ => ?_
  obtain ⟨session, editor, event⟩ := e
  cases event <;> rfl

/-- The surface is not told of timers. -/
theorem calls_timeless (h : Host) : h.timeless.calls = h.calls := by
  rw [calls, calls, surfaceCalls, surfaceCalls, timeless, ← List.filter_reverse,
    List.filterMap_filter]
  refine List.filterMap_congr fun e _ => ?_
  obtain ⟨session, editor, event⟩ := e
  cases event <;> rfl

/-! ### Evaluating a line -/

/-- What the place of a session held before makes no difference to its evaluation. -/
theorem evaluateLine_put (he : s.editor = t.editor) (w : Setup) (h : Host) :
    (h.put s).evaluateLine w t = h.evaluateLine w t := by
  have hPut : ∀ (k : Host) (u : Session), u.editor = t.editor → (k.put s).put u = k.put u := by
    intro k u hu
    simp only [put, insertSession_insertSession (he.trans hu.symm)]
  unfold evaluateLine
  split
  · exact hPut ((h.log t [.started h.started t.request]).launch (h.takeoff w (t.evaluated w))) _ rfl
  · exact hPut (h.log t (.rejected t.snapshot.cursor :: t.presenter.clearCalls.map .called)) _ rfl

/-- Where no run is in flight, an evaluation has none to supersede. -/
theorem fire_put (hSorted : Sorted h.sessions) (hFlights : h.flights = [])
    (hDisposed : s.disposed = false) :
    (h.put s).fire w s.editor = h.evaluateLine w s := by
  have hFound : (h.put s).session? s.editor = some s := by rw [session?_put hSorted, if_pos rfl]
  have hNewest : (h.put s).newestFlight? s = none := by
    simp [newestFlight?, flight?, put, hFlights]
  have hSupersede : (h.put s).supersede w s = h.put s := by simp [supersede, hNewest]
  rw [← evaluateLine_put rfl]
  simp only [fire, hFound, hDisposed, hSupersede, evaluateLine, Session.evaluated]
  rfl

/-! ### Waiting for the result -/

theorem Calm.mem_agenda (hc : h.Calm) (hItem : item ∈ h.agenda) :
    ∃ f ∈ h.flights, item = (f.due, .completion f) := by
  rcases mem_agenda_iff.mp hItem with ⟨s, hs, hDue, -⟩ | ⟨f, hf, hDue, hWhat⟩
  · exact absurd ((hc s hs).symm.trans (isPending_of_due? hDue)) Bool.false_ne_true
  · exact ⟨f, hf, Prod.ext hDue.symm hWhat⟩

/-- The only item on the agenda is what happens next. -/
theorem next?_of_only (hItem : item ∈ h.agenda) (hOnly : ∀ other ∈ h.agenda, other = item)
    (hDue : item.1 ≤ time) : h.next? time = some item := by
  refine Option.filter_eq_some_iff.mpr ⟨?_, by simpa using hDue⟩
  cases hEarliest : earliest? h.agenda with
  | none =>
    rw [earliest?_eq_none_iff.mp hEarliest] at hItem
    exact absurd hItem List.not_mem_nil
  | some x => rw [hOnly x (mem_of_earliest? hEarliest)]

theorem Calm.advanceTo_of_no_flights (hc : h.Calm) (hFlights : h.flights = []) (time : Nat) :
    h.advanceTo w time = { h with now := time } := by
  refine advanceTo_of_next?_none ?_
  cases hNext : h.next? time with
  | none => rfl
  | some item =>
    obtain ⟨f, hf, -⟩ := hc.mem_agenda (mem_of_next? hNext).1
    rw [hFlights] at hf
    exact absurd hf List.not_mem_nil

/-- The completion of a run leaves all timers alone. -/
theorem Calm.complete (hc : h.Calm) (hSorted : Sorted h.sessions) (f : Flight) :
    (h.complete w f).Calm := by
  unfold Host.complete
  dsimp only
  split
  · exact hc
  · rename_i s hSome
    split
    · exact hc
    · intro t ht
      rcases (mem_insertSession hSorted).mp ht with rfl | ⟨ht, -⟩
      · exact hc s (List.mem_of_find?_eq_some hSome)
      · exact hc t ht

theorem Calm.evaluateLine (hSorted : Sorted h.sessions) (hTimer : s.timer.isPending = false)
    (hOthers : ∀ t ∈ h.sessions, t.editor ≠ s.editor → t.timer.isPending = false) :
    (h.evaluateLine w s).Calm := by
  unfold Host.evaluateLine
  split
  all_goals
    intro t ht
    rcases (mem_insertSession hSorted).mp ht with rfl | ⟨ht, he⟩
    · exact hTimer
    · exact hOthers t ht he

/-- The only run in flight is waited for. -/
theorem Calm.timeless_advanceTo (hc : h.Calm) (hs : ∃ owner, Sound owner h)
    (hFlights : h.flights = [f]) (hDue : f.due ≤ time) :
    (h.advanceTo w time).timeless = (h.complete w f).timeless ∧
      (h.advanceTo w time).flights = [] := by
  obtain ⟨owner, hOwner⟩ := hs
  have hf : f ∈ h.flights := by simp [hFlights]
  have hNext : h.next? time = some (f.due, .completion f) := by
    refine next?_of_only (mem_agenda_iff.mpr (Or.inr ⟨f, hf, rfl, rfl⟩)) (fun other hOther => ?_)
      hDue
    obtain ⟨f', hf', rfl⟩ := hc.mem_agenda hOther
    rw [hFlights] at hf'
    rw [List.mem_singleton.mp hf']
  have hEmpty : (Host.complete w { h with now := f.due } f).flights = [] := by
    rw [flights_complete]
    simp [land, hFlights]
  have hCalm : (Host.complete w { h with now := f.due } f).Calm :=
    Calm.complete (h := { h with now := f.due }) hc hOwner.sorted f
  rw [advanceTo_of_next?_some ⟨owner, hOwner⟩ hNext, perform,
    hCalm.advanceTo_of_no_flights hEmpty]
  refine ⟨?_, hEmpty⟩
  calc (Host.complete w { h with now := f.due } f).timeless
      = h.timeless.complete w f := timeless_complete ..
    _ = (h.complete w f).timeless := (timeless_complete ..).symm

/-- **A line that is evaluated is concluded while time passes.** -/
theorem timeless_advanceTo_evaluateLine (hs : ∃ owner, Sound owner (h.evaluateLine w s))
    (hCalm : (h.evaluateLine w s).Calm) (hFlights : h.flights = [])
    (hTime : h.now + h.latency w s ≤ time) :
    ((h.evaluateLine w s).advanceTo w time).timeless = (h.concludeLine w s).timeless ∧
      ((h.evaluateLine w s).advanceTo w time).flights = [] := by
  cases hLine : w.evaluates s.snapshot.cursorText with
  | true =>
    have hStart : h.evaluateLine w s = h.start w (s.evaluated w) := if_pos hLine
    have hConclude : h.concludeLine w s =
        (h.start w (s.evaluated w)).complete w (h.takeoff w (s.evaluated w)) := if_pos hLine
    have hOne : (h.start w (s.evaluated w)).flights = [h.takeoff w (s.evaluated w)] := by
      rw [start_eq]
      simp [put, launch, log, hFlights]
    rw [latency, if_pos hLine] at hTime
    rw [hStart] at hs hCalm ⊢
    rw [hConclude]
    exact hCalm.timeless_advanceTo hs hOne hTime
  | false =>
    have hReject : h.evaluateLine w s = h.reject w (s.evaluated w) := if_neg (by simp [hLine])
    have hConclude : h.concludeLine w s = h.reject w (s.evaluated w) := if_neg (by simp [hLine])
    have hNone : (h.reject w (s.evaluated w)).flights = [] := hFlights
    rw [hReject] at hCalm ⊢
    rw [hConclude, hCalm.advanceTo_of_no_flights hNone]
    exact ⟨rfl, hNone⟩

/-- Waiting for the run that an evaluation starts is letting enough time pass. -/
theorem exists_await_evaluateLine (hFlights : h.flights = []) (w : Setup) (s : Session) :
    ∃ time, h.now + h.latency w s ≤ time ∧
      (h.evaluateLine w s).await w h.started = (h.evaluateLine w s).advanceTo w time := by
  cases hLine : w.evaluates s.snapshot.cursorText with
  | true =>
    have hStart : h.evaluateLine w s = h.start w (s.evaluated w) := if_pos hLine
    have hFlight : (h.start w (s.evaluated w)).flight? h.started =
        some (h.takeoff w (s.evaluated w)) := by
      rw [start_eq]
      simp [flight?, put, launch, log, hFlights, takeoff]
    rw [hStart, await, hFlight, latency, if_pos hLine]
    exact ⟨_, Nat.le_max_right .., rfl⟩
  | false =>
    have hReject : h.evaluateLine w s = h.reject w (s.evaluated w) := if_neg (by simp [hLine])
    have hFlight : (h.reject w (s.evaluated w)).flight? h.started = none := by
      rw [reject_eq]
      simp [flight?, put, log, hFlights]
    rw [hReject, await, hFlight, latency, if_neg (by simp [hLine])]
    exact ⟨h.now, Nat.le_refl _, rfl⟩

/-! ### The two ways -/

/-- Every session settles for as long as the host was told. -/
theorem Reachable.delay_eq (hr : Reachable w h) (hm : s ∈ h.sessions) :
    s.timer.delay = w.debounce := by
  refine Reachable.session (P := fun s _ => s.timer.delay = w.debounce) ?_ hr hm
  intro owner h h' n l' _ hKept hMove t ht
  generalize h.life n = l at hKept hMove
  have hSame : ∀ {u v : Session}, l.session = some u → some v = some t →
      v.timer.delay = u.timer.delay → t.timer.delay = w.debounce := by
    rintro u v hu ⟨⟩ hDelay
    exact hDelay.trans (hKept u hu)
  cases hMove with
  | opened => exact Option.some.inj ht ▸ rfl
  | edited hs | notified hs | disposed hs => exact hSame hs ht rfl
  | fired hs hPre hFire =>
    cases hFire with
    | off | started | rejected => exact hSame hs ht rfl
  | completed hf hLanding =>
    cases hLanding with
    | ignored => exact hKept t ht
    | presented hs => exact hSame hs ht rfl
  | left => exact absurd ht (Option.some_ne_none t).symm

theorem notify_eq (hf : h.session? id = some s) (hDisposed : s.disposed = false) :
    h.notify id = (h.log s (supersededBy s ++ [.scheduled])).put
      { s with phase := .pending, timer := s.timer.schedule h.now () } := by
  simp only [notify, hf, hDisposed]
  rfl

/-- The timer of a session that is notified is all that is waited for. -/
theorem Sound.next?_notify (hs : Sound owner h) (hf : h.session? id = some s)
    (hDisposed : s.disposed = false) (hFlights : h.flights = [])
    (hOthers : ∀ t ∈ h.sessions, t.editor ≠ id → t.timer.isPending = false)
    (hDue : h.now + s.timer.delay ≤ time) :
    (h.notify id).next? time = some (h.now + s.timer.delay, .timer id) := by
  obtain ⟨hm, rfl⟩ := hs.mem_of_session? hf
  rw [notify_eq hf hDisposed]
  refine next?_of_only (mem_agenda_iff.mpr (Or.inl ⟨_, (mem_insertSession hs.sorted).mpr
    (Or.inl rfl), rfl, rfl⟩)) (fun other hOther => ?_) hDue
  rcases mem_agenda_iff.mp hOther with ⟨t, ht, hTime, hWhat⟩ | ⟨f, hFlight, -⟩
  · rcases (mem_insertSession hs.sorted).mp ht with rfl | ⟨ht, he⟩
    · exact Prod.ext (Option.some.inj hTime).symm hWhat
    · exact absurd ((hOthers t ht he).symm.trans (isPending_of_due? hTime)) Bool.false_ne_true
  · exact absurd (hFlights ▸ (show f ∈ h.flights from hFlight)) List.not_mem_nil

/-- Once its settle period is over, the line of a session that was notified is evaluated. -/
theorem Sound.elapse_notify (hs : Sound owner h) (hf : h.session? id = some s)
    (hDisposed : s.disposed = false) (hFlights : h.flights = []) :
    Host.elapse w { h.notify id with now := h.now + s.timer.delay } id =
      (h.lapse s).evaluateLine w { s with timer := s.timer.cancel } := by
  obtain ⟨hm, rfl⟩ := hs.mem_of_session? hf
  let settling : Session := { s with phase := .pending, timer := s.timer.schedule h.now () }
  let waiting : Host := { h.notify s.editor with now := h.now + s.timer.delay }
  have hWaiting : waiting = { (h.log s (supersededBy s ++ [.scheduled])).put settling with
      now := h.now + s.timer.delay } := by
    simp only [waiting, notify_eq hf hDisposed]
    rfl
  have hFound : waiting.session? s.editor = some settling := by
    rw [hWaiting]
    exact (session?_put hs.sorted _).trans (if_pos rfl)
  have hFire := fire_put (w := w) (h := waiting.log settling [.fired])
    (s := { settling with timer := settling.timer.cancel })
    (by rw [hWaiting]; exact sorted_insertSession hs.sorted) (by rw [hWaiting]; exact hFlights)
    hDisposed
  calc Host.elapse w waiting s.editor
      = (waiting.log settling [.fired]).evaluateLine w
          { settling with timer := settling.timer.cancel } := (act_elapse hFound).trans hFire
    _ = ((h.lapse s).put settling).evaluateLine w { s with timer := s.timer.cancel } := by
        -- the phase, which an evaluation sets anew, is all in which the sessions differ
        rw [hWaiting]
        rfl
    _ = (h.lapse s).evaluateLine w { s with timer := s.timer.cancel } :=
        evaluateLine_put (s := settling) (t := { s with timer := s.timer.cancel }) rfl w (h.lapse s)

theorem timeless_lapse (h : Host) (s : Session) : (h.lapse s).timeless = h.timeless := by
  have hScheduled : ∀ e ∈ supersededBy s ++ [.scheduled], e.isTimer = true :=
    List.forall_mem_append.mpr ⟨isTimer_supersededBy s, by simp [Happening.isTimer]⟩
  exact (timeless_log_of_timer (by simp [Happening.isTimer]) _ s).trans
    (timeless_log_of_timer hScheduled h s)

/-- The settle period and the run of a session that is notified are waited for. -/
theorem Sound.debounced_eq (hs : Sound owner h) (hf : h.session? id = some s)
    (hDisposed : s.disposed = false) (hDelay : s.timer.delay = w.debounce)
    (hFlights : h.flights = [])
    (hOthers : ∀ t ∈ h.sessions, t.editor ≠ id → t.timer.isPending = false)
    (hTime : w.debounce + h.latency w s ≤ time) :
    (h.run w [.notify id, .advance time]).timeless =
        (h.timeless.concludeLine w { s with timer := s.timer.cancel }).timeless ∧
      (h.run w [.notify id, .advance time]).flights = [] := by
  obtain ⟨hm, rfl⟩ := hs.mem_of_session? hf
  have hNotified : ∃ owner, Sound owner (h.notify s.editor) :=
    (Leads.single (w := w) (.notify s.editor) trivial).sound ⟨owner, hs⟩
  have hNow : (h.notify s.editor).now = h.now := by
    rw [notify_eq hf hDisposed]
    rfl
  have hRun : h.run w [.notify s.editor, .advance time] =
      (h.notify s.editor).advanceTo w (h.now + time) := by
    rw [← advanceTo_advanceTo (w := w) hNotified (Nat.le_add_right h.now time), ← hNow]
    rfl
  have hNext : (h.notify s.editor).next? (h.now + time) =
      some (h.now + s.timer.delay, .timer s.editor) :=
    hs.next?_notify hf hDisposed hFlights hOthers (by omega)
  have hPerform : perform w { h.notify s.editor with now := h.now + s.timer.delay }
      (.timer s.editor) = (h.lapse s).evaluateLine w { s with timer := s.timer.cancel } :=
    hs.elapse_notify hf hDisposed hFlights
  have hSound := exists_sound_perform (w := w) hNotified (mem_of_next? hNext).1
    (h.now + s.timer.delay)
  have hCalm : ((h.lapse s).evaluateLine w { s with timer := s.timer.cancel }).Calm :=
    Calm.evaluateLine (h := h.lapse s) hs.sorted rfl hOthers
  have hEnough : h.now + s.timer.delay + h.latency w s ≤ h.now + time := by omega
  rw [hPerform] at hSound
  rw [hRun, advanceTo_of_next?_some hNotified hNext, hPerform, ← timeless_lapse h s,
    ← timeless_concludeLine]
  exact timeless_advanceTo_evaluateLine hSound hCalm hFlights hEnough

/-- The run of a session whose line is evaluated at once is waited for. -/
theorem Sound.immediate_eq (hs : Sound owner h) (hf : h.session? id = some s)
    (hDisposed : s.disposed = false) (hFlights : h.flights = [])
    (hOthers : ∀ t ∈ h.sessions, t.editor ≠ id → t.timer.isPending = false) :
    (h.run w [.evaluate id]).timeless =
        (h.timeless.concludeLine w { s with timer := s.timer.cancel }).timeless ∧
      (h.run w [.evaluate id]).flights = [] := by
  obtain ⟨hm, rfl⟩ := hs.mem_of_session? hf
  have hBegin : h.begin w s.editor = (h.log s (supersededBy s)).evaluateLine w
      { s with timer := s.timer.cancel } :=
    (act_begin hf).trans (fire_put (h := h.log s (supersededBy s))
      (s := { s with timer := s.timer.cancel }) hs.sorted hFlights hDisposed)
  have hSound : ∃ owner, Sound owner ((h.log s (supersededBy s)).evaluateLine w
      { s with timer := s.timer.cancel }) :=
    hBegin ▸ (Leads.single (w := w) (.begin s.editor) trivial).sound ⟨owner, hs⟩
  have hCalm : ((h.log s (supersededBy s)).evaluateLine w
      { s with timer := s.timer.cancel }).Calm := Calm.evaluateLine hs.sorted rfl hOthers
  have hTimeless : (h.log s (supersededBy s)).timeless = h.timeless :=
    timeless_log_of_timer (isTimer_supersededBy s) h s
  obtain ⟨time, hTime, hAwait⟩ := exists_await_evaluateLine (h := h.log s (supersededBy s))
    hFlights w { s with timer := s.timer.cancel }
  have hRun : h.run w [.evaluate s.editor] = ((h.log s (supersededBy s)).evaluateLine w
      { s with timer := s.timer.cancel }).advanceTo w time := by
    rw [← hAwait, ← hBegin]
    rfl
  rw [hRun, ← hTimeless, ← timeless_concludeLine]
  exact timeless_advanceTo_evaluateLine hSound hCalm hFlights hTime

/-- Neither way does anything to a session that is disposed. -/
theorem Reachable.both_of_disposed (hr : Reachable w h) (hf : h.session? id = some s)
    (hDisposed : s.disposed = true) (hFlights : h.flights = [])
    (hOthers : ∀ t ∈ h.sessions, t.editor ≠ id → t.timer.isPending = false) (time : Nat) :
    h.run w [.notify id, .advance time] = { h with now := h.now + time } ∧
      h.run w [.evaluate id] = h := by
  obtain ⟨owner, hs⟩ := hr.sound
  obtain ⟨hm, rfl⟩ := hs.mem_of_session? hf
  have hClosed := hr.closed_of_disposed hm hDisposed
  have hCalm : h.Calm := by
    intro t ht
    by_cases he : t.editor = s.editor
    · rw [hs.sorted.eq_of_editor ht hm he]
      exact Session.isPending_of_closed hClosed
    · exact hOthers t ht he
  have hStill : ∀ time, h.advanceTo w time = { h with now := time } :=
    hCalm.advanceTo_of_no_flights hFlights
  have hSettled : h.settle w = h := hStill h.now
  have hNotify : h.notify s.editor = h := by simp [Host.notify, hf, hDisposed]
  have hCancelled : { s with timer := s.timer.cancel } = s := by
    rw [← hClosed]
    rfl
  have hBegin : h.begin w s.editor = h := by
    have hPut : h.put s = h := by simp only [put, insertSession_self hs.sorted hm]
    have hCancel : h.cancelTimer s.editor = h := by
      simp only [cancelTimer, hf, Session.supersededBy_of_closed hClosed, hCancelled]
      exact hPut
    simp [Host.begin, hCancel, Host.fire, hf, hDisposed]
  refine ⟨?_, ?_⟩
  · simp only [Host.run, List.foldl_cons, List.foldl_nil, step, hNotify, hSettled, hStill]
  · have hFlight : h.flight? h.started = none := by simp [flight?, hFlights]
    simp only [Host.run, List.foldl_cons, List.foldl_nil, step, evaluate, hBegin, await, hFlight,
      hSettled]

theorem exists_session?_complete (hSorted : Sorted h.sessions) (hf : h.session? id = some s)
    (f : Flight) : ∃ t, (h.complete w f).session? id = some t := by
  unfold complete
  dsimp only
  split
  · exact ⟨s, hf⟩
  · split
    · exact ⟨s, hf⟩
    · unfold presentResult
      dsimp only
      rw [session?_put (by exact hSorted)]
      split
      · exact ⟨_, rfl⟩
      · exact ⟨s, hf⟩

theorem exists_session?_concludeLine (hSorted : Sorted h.sessions) (w : Setup) (s : Session) :
    ∃ t, (h.concludeLine w s).session? s.editor = some t := by
  have hPut : ∀ {k : Host} (u : Session), Sorted k.sessions → u.editor = s.editor →
      (k.put u).session? s.editor = some u := fun _ hk hu => (session?_put hk _).trans (if_pos hu)
  unfold concludeLine
  split
  · have hStarted := hPut (k := (h.log s [.started h.started s.request]).launch
      (h.takeoff w (s.evaluated w)))
      { s.evaluated w with phase := .running, newest := some h.started } hSorted rfl
    exact exists_session?_complete (sorted_insertSession hSorted) hStarted _
  · exact ⟨_, hPut _ (by exact hSorted) rfl⟩

/-- **Evaluating after the settle period and evaluating at once come to the same**, where no run is
in flight and no other timer is pending: to the same session, requests and surface calls, and to
the same in all but the clock and what happened to timers. -/
theorem Reachable.debounced_eq_immediate (hr : Reachable w h) (hf : h.session? id = some s)
    (hFlights : h.flights = [])
    (hOthers : ∀ t ∈ h.sessions, t.editor ≠ id → t.timer.isPending = false)
    (hTime : w.debounce + h.latency w s ≤ time) :
    let debounced := h.run w [.notify id, .advance time]
    let immediate := h.run w [.evaluate id]
    (∃ t, debounced.session? id = some t ∧ immediate.session? id = some t) ∧
    debounced.asked = immediate.asked ∧ debounced.calls = immediate.calls ∧
    debounced.flights = [] ∧ immediate.flights = [] ∧ debounced.timeless = immediate.timeless := by
  intro debounced immediate
  obtain ⟨owner, hs⟩ := hr.sound
  obtain ⟨hm, rfl⟩ := hs.mem_of_session? hf
  obtain ⟨hSame, hEmpty, hEmpty', t, hSession⟩ : debounced.timeless = immediate.timeless ∧
      debounced.flights = [] ∧ immediate.flights = [] ∧
      ∃ t, immediate.timeless.session? s.editor = some t := by
    cases hDisposed : s.disposed with
    | true =>
      obtain ⟨hDebounced, hImmediate⟩ := hr.both_of_disposed hf hDisposed hFlights hOthers time
      rw [show debounced = _ from hDebounced, show immediate = h from hImmediate]
      exact ⟨rfl, hFlights, hFlights, s, hf⟩
    | false =>
      obtain ⟨hDebounced, hEmpty⟩ :=
        hs.debounced_eq hf hDisposed (hr.delay_eq hm) hFlights hOthers hTime
      obtain ⟨hImmediate, hEmpty'⟩ := hs.immediate_eq (w := w) hf hDisposed hFlights hOthers
      refine ⟨hDebounced.trans hImmediate.symm, hEmpty, hEmpty', ?_⟩
      rw [show immediate.timeless = _ from hImmediate]
      exact exists_session?_concludeLine (h := h.timeless) hs.sorted w
        { s with timer := s.timer.cancel }
  refine ⟨⟨t, ?_, hSession⟩, ?_, ?_, hEmpty, hEmpty', hSame⟩
  · exact (congrArg (session? · s.editor) hSame).trans hSession
  · rw [← asked_timeless, hSame, asked_timeless]
  · rw [← calls_timeless, hSame, calls_timeless]

/-- One editor of two shows a result, has changed since, and is notified. -/
def changed : Host :=
  run (sample fun _ => 7) {} [.openEditor 1 ⟨⟨"print(1)\n".toList⟩, 0⟩, .openEditor 2 ⟨⟨[]⟩, 0⟩,
    .notify 1, .advance 17, .edit 1 (some "print(2)\n".toList) none, .notify 1, .advance 3]

theorem debounced_eq_immediate_changed :
    changed.flights = [] ∧
    (∀ t ∈ changed.sessions, t.editor ≠ 1 → t.timer.isPending = false) ∧
    (changed.run (sample fun _ => 7) [.notify 1, .advance 17]).calls =
      (changed.run (sample fun _ => 7) [.evaluate 1]).calls ∧
    (changed.run (sample fun _ => 7) [.notify 1, .advance 17]).timeless =
      (changed.run (sample fun _ => 7) [.evaluate 1]).timeless := by
  have hFlights : changed.flights = [] := by decide
  have hOthers : ∀ t ∈ changed.sessions, t.editor ≠ 1 → t.timer.isPending = false := by decide
  have hFound : (changed.session? 1).any fun s =>
      10 + changed.latency (sample fun _ => 7) s ≤ 17 := by
    decide
  obtain ⟨s, hf, hTime⟩ := (Option.any_eq_true ..).mp hFound
  obtain ⟨-, -, hCalls, -, -, hTimeless⟩ := Reachable.debounced_eq_immediate
    (Reachable.run (w := sample fun _ => 7) _) hf hFlights hOthers (of_decide_eq_true hTime)
  exact ⟨hFlights, hOthers, hCalls, hTimeless⟩

end

end Host

end LiveLine
