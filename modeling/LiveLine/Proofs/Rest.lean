import LiveLine.Proofs.Accounts
import LiveLine.Proofs.AtOnce

/-!
# A host comes to rest

Nothing that a host does by itself schedules a timer.  A timer that elapses may start a run, which
may be over at the same time, so that time is no measure of what is to come.  What remains is
measured by the timers that are pending and the runs that are in flight, those of sessions that are
gone among them, in whatever order they elapse and complete.

* `Spent`: what the passing of time spends.
* `Reachable.spent_act`, `Course.spent`: one act spends it, and so does any course of acts.
* `AtRest`: no timer is pending, and no run is in flight.
* `AtRest.eq_of_passes`: to a host that rests only the time happens.
* `exists_last`: there is a time from which on a host rests.
* `Reachable.comes_to_rest`: all of it together.
-/

namespace LiveLine.Host

/-- How many timers elapsed in a course. -/
def elapses (c : List Deed) : Nat := c.countP (·.act matches .elapse _)

/-- What a course spends while nothing but time passes.  Timers elapse that were pending, a run is
started by a timer, and a run that completes was in flight or is one of those that were started. -/
structure Spent (h : Host) (c : List Deed) (h' : Host) : Prop where
  fired : h'.counters.fired = h.counters.fired + elapses c
  timers : elapses c + h'.pendingTimers = h.pendingTimers
  started : h'.counters.started ≤ h.counters.started + elapses c
  runs : (completions c).length + h'.flights.length ≤ h.flights.length + elapses c

/-- A host at rest: no timer is pending, and no run is in flight. -/
structure AtRest (h : Host) : Prop where
  calm : h.Calm
  landed : h.flights = []

section

variable {owner : Nat → EditorId} {w : Setup} {h h' h'' : Host} {s : Session} {f : Flight}
  {a : Act} {id : EditorId} {c c' : List Deed}

/-! ### What time spends -/

theorem elapses_append (c c' : List Deed) : elapses (c' ++ c) = elapses c' + elapses c :=
  List.countP_append

theorem Spent.refl (h : Host) : Spent h [] h :=
  ⟨rfl, Nat.zero_add _, Nat.le_refl _, Nat.le_of_eq (Nat.zero_add _)⟩

theorem Spent.trans (hs : Spent h c h') (hs' : Spent h' c' h'') : Spent h (c' ++ c) h'' := by
  obtain ⟨hFired, hTimers, hStarted, hRuns⟩ := hs
  obtain ⟨hFired', hTimers', hStarted', hRuns'⟩ := hs'
  have hElapses := elapses_append c c'
  have hCompletions : (completions (c' ++ c)).length =
      (completions c').length + (completions c).length := by
    rw [completions, List.filterMap_append, List.length_append]
    rfl
  constructor <;> omega

theorem length_liftoff_le (w : Setup) (h : Host) (s : Session) : (h.liftoff w s).length ≤ 1 := by
  unfold liftoff
  split <;> simp

/-- A timer that elapses is counted, and so is the run that it starts. -/
theorem Reachable.counters_elapse (hr : Reachable w h) (hf : h.session? id = some s)
    (hPending : s.timer.isPending = true) :
    (h.act w (.elapse id)).counters.fired = h.counters.fired + 1 ∧
      (h.act w (.elapse id)).counters.started = h.counters.started + (h.liftoff w s).length := by
  have hTold : Telemetry.of (Act.told w h (.elapse id)) =
      { fired := 1 } + Telemetry.of (h.firing w s) := by
    simp only [Act.told, hf, Option.map_some, Option.getD_some]
    exact Telemetry.of_append [.fired] _
  rw [hr.counters_act (a := .elapse id) ⟨s, hf, hPending⟩, hTold, Telemetry.of_firing,
    Telemetry.add_def, Telemetry.add_def]
  constructor <;> dsimp only <;> omega

/-- A run that completes is none that starts. -/
theorem Reachable.counters_complete (hr : Reachable w h) (hf : f ∈ h.flights) :
    (h.act w (.complete f)).counters.fired = h.counters.fired ∧
      (h.act w (.complete f)).counters.started = h.counters.started := by
  rw [hr.counters_act (a := .complete f) hf, Act.told, of_landing, Telemetry.add_def]
  exact ⟨Nat.zero_add _, Nat.zero_add _⟩

/-- **One act spends** a timer or a run. -/
theorem Reachable.spent_act (hr : Reachable w h) (possible : a.Possible h)
    (hPassing : a.IsPassing) : Spent h [⟨h, a⟩] (h.act w a) := by
  obtain ⟨owner, hs⟩ := hr.sound
  cases a with
  | elapse id =>
    obtain ⟨s, hf, hPending⟩ := possible
    obtain ⟨hFired, hStarted⟩ := hr.counters_elapse (w := w) hf hPending
    have hTimers := pendingTimers_fired (w := w) hs.sorted (hs.mem_of_session? hf).1 [.fired] id
    have hFlights := (events_flights_fired (w := w) hs.sorted hf [.fired]).2
    rw [if_pos hPending, ← act_elapse hf, Nat.add_comm] at hTimers
    rw [← act_elapse hf] at hFlights
    have hLiftoff := length_liftoff_le w h s
    have hKept := List.length_filter_le (h.superseded? w s ≠ some ·.run) h.flights
    have hRuns := congrArg List.length hFlights
    rw [List.length_append] at hRuns
    refine ⟨hFired, hTimers, hStarted ▸ Nat.add_le_add_left hLiftoff _, ?_⟩
    show 0 + (h.act w (.elapse id)).flights.length ≤ h.flights.length + 1
    omega
  | complete f =>
    obtain ⟨hFired, hStarted⟩ := hr.counters_complete (w := w) possible
    have hTimers := pendingTimers_complete (w := w) hs.sorted f
    have hLand := length_flights_land_lt possible
    refine ⟨hFired, (Nat.zero_add _).trans hTimers, Nat.le_of_eq hStarted, ?_⟩
    show 1 + (h.complete w f).flights.length ≤ h.flights.length + 0
    rw [flights_complete]
    omega
  | tick now => exact ⟨rfl, Nat.zero_add _, Nat.le_refl _, Nat.le_of_eq (Nat.zero_add _)⟩
  | _ => exact hPassing.elim

/-- **A course spends** the timers that are pending and the runs that are in flight, in any order. -/
theorem Course.spent (hr : Reachable w h) (hc : Course w h c h')
    (hPassing : ∀ d ∈ c, d.act.IsPassing) : Spent h c h' := by
  induction hc with
  | nil => exact .refl h
  | cons prior a possible ih =>
    obtain ⟨hLast, hPrior⟩ := List.forall_mem_cons.mp hPassing
    exact (ih hPrior).trans (Reachable.spent_act (hr.trans prior.leads) possible hLast)

/-! ### Rest -/

/-- A host that rests has nothing on its agenda. -/
theorem atRest_iff : h.AtRest ↔ h.agenda = [] := by
  rw [List.eq_nil_iff_forall_not_mem]
  constructor
  · rintro ⟨hCalm, hFlights⟩ item hItem
    obtain ⟨f, hf, -⟩ := hCalm.mem_agenda hItem
    rw [hFlights] at hf
    exact List.not_mem_nil hf
  · intro hNone
    refine ⟨fun s hm => ?_, List.eq_nil_iff_forall_not_mem.mpr fun f hf => ?_⟩
    · cases hPending : s.timer.pending with
      | none => simp [Debouncer.isPending, hPending]
      | some timer =>
        have hDue : s.timer.due? = some timer.1 := by rw [Debouncer.due?, hPending]; rfl
        exact absurd (mem_agenda_iff.mpr (.inl ⟨s, hm, hDue, rfl⟩)) (hNone (_, _))
    · exact hNone (f.due, .completion f) (mem_agenda_iff.mpr (.inr ⟨f, hf, rfl, rfl⟩))

/-- The clock says nothing of rest. -/
theorem AtRest.tick (hRest : h.AtRest) (now : Nat) : AtRest { h with now } :=
  ⟨hRest.calm, hRest.landed⟩

/-- **To a host that rests only the time happens.** -/
theorem AtRest.eq_of_passes (hRest : h.AtRest) (hp : Passes w h h') :
    h' = { h with now := h'.now } := by
  obtain ⟨c, hc, hPassing⟩ := hp
  induction hc with
  | nil => rfl
  | @cons c h' prior a possible ih =>
    obtain ⟨hLast, hPrior⟩ := List.forall_mem_cons.mp hPassing
    have hSame := ih hPrior
    have hRest' : h'.AtRest := hSame ▸ hRest.tick h'.now
    cases a with
    | elapse id =>
      obtain ⟨s, hf, hPending⟩ := possible
      exact absurd ((hRest'.calm s (List.mem_of_find?_eq_some hf)).symm.trans hPending)
        Bool.false_ne_true
    | complete f =>
      have hFlight : f ∈ h'.flights := possible
      rw [hRest'.landed] at hFlight
      exact absurd hFlight List.not_mem_nil
    | tick now => exact congrArg (fun g : Host => { g with now }) hSame
    | _ => exact hLast.elim

/-- In a host that rests no session awaits anything. -/
theorem Reachable.isSettled_of_atRest (hr : Reachable w h) (hRest : h.AtRest)
    (hm : s ∈ h.sessions) : s.phase.isSettled = true := by
  have hTimer := hRest.calm s hm
  cases hPhase : s.phase with
  | pending =>
    have hPending := (hr.tracked hm).pending.mp hPhase
    exact absurd (hTimer.symm.trans hPending) Bool.false_ne_true
  | running =>
    obtain ⟨f, hf, -⟩ := ((hr.running_iff hm).mp hPhase).2
    rw [hRest.landed] at hf
    exact absurd hf List.not_mem_nil
  | _ => rfl

/-- **There is a time from which on a host rests**, which is when the last item happens. -/
theorem exists_last (hs : ∃ owner, Sound owner h) :
    ∃ last, ∀ time, (h.advanceTo w time).AtRest ↔ last ≤ time := by
  -- each item leaves less to come, whenever it is due
  induction hn : h.workload using Nat.strongRecOn generalizing h with
  | _ n ih =>
    cases hEarliest : earliest? h.agenda with
    | none =>
      have hRest := atRest_iff.mpr (earliest?_eq_none_iff.mp hEarliest)
      refine ⟨0, fun time => iff_of_true ?_ (Nat.zero_le time)⟩
      rw [hRest.calm.advanceTo_of_no_flights hRest.landed]
      exact hRest.tick time
    | some item =>
      have hItem := mem_of_earliest? hEarliest
      have hSound := exists_sound_perform (w := w) hs hItem item.1
      obtain ⟨owner, hOwner⟩ := hs
      obtain ⟨last, hLast⟩ := ih _ (hn ▸ workload_perform_lt (w := w) hOwner.sorted hItem item.1)
        hSound rfl
      refine ⟨max item.1 last, fun time => ?_⟩
      rw [Nat.max_le]
      by_cases hDue : item.1 ≤ time
      · have hNext : h.next? time = some item :=
          Option.filter_eq_some_iff.mpr ⟨hEarliest, by simpa using hDue⟩
        rw [advanceTo_of_next?_some ⟨owner, hOwner⟩ hNext, hLast, and_iff_right hDue]
      · have hNext : h.next? time = none := by simp [next?, hEarliest, Nat.lt_of_not_le hDue]
        refine iff_of_false (fun hRest => ?_) fun hBoth => hDue hBoth.1
        rw [advanceTo_of_next?_none hNext] at hRest
        have hEmpty : h.agenda = [] := atRest_iff.mp (hRest.tick h.now)
        rw [hEmpty] at hItem
        exact List.not_mem_nil hItem

/-- **A host comes to rest.**  From any reachable state, with any delays, latencies and policy, time
alone lets no more timers elapse than are pending, starts no more runs than there are such timers,
and completes no more runs than were in flight or started, in whatever order that happens.  So
advancing ends when twice the timers and once the runs have been performed, and leaves nothing that
is due.  There is a time from which on the host rests.  Then no session is pending or running, and
the further passing of time changes nothing but the clock. -/
theorem Reachable.comes_to_rest (hr : Reachable w h) :
    (∀ c h', Course w h c h' → (∀ d ∈ c, d.act.IsPassing) →
      elapses c ≤ h.pendingTimers ∧
      h'.counters.fired = h.counters.fired + elapses c ∧
      h'.counters.started ≤ h.counters.started + h.pendingTimers ∧
      (completions c).length ≤ h.pendingTimers + h.flights.length) ∧
    (∀ time limit, 2 * h.pendingTimers + h.flights.length ≤ limit →
      { performDue w time limit h with now := time } = h.advanceTo w time ∧
      (performDue w time limit h).next? time = none) ∧
    (∃ last, ∀ time, Passes w h (h.advanceTo w time) ∧
      ((h.advanceTo w time).AtRest ↔ last ≤ time)) ∧
    ∀ h', Passes w h h' → h'.AtRest →
      (∀ s ∈ h'.sessions, s.phase ≠ .pending ∧ s.phase ≠ .running) ∧
      ∀ h'', Passes w h' h'' → h'' = { h' with now := h''.now } := by
  have hs := hr.sound
  refine ⟨fun c h' hc hPassing => ?_, fun time limit hLimit => ?_, ?_, fun h' hp hRest => ⟨?_, ?_⟩⟩
  · obtain ⟨hFired, hTimers, hStarted, hRuns⟩ := hc.spent hr hPassing
    exact ⟨by omega, hFired, by omega, by omega⟩
  · rw [performDue_eq_of_workload_le hs hLimit]
    exact ⟨rfl, next?_advanceTo (w := w) hs time⟩
  · obtain ⟨last, hLast⟩ := exists_last (w := w) hs
    exact ⟨last, fun time => ⟨.advanceTo hs time, hLast time⟩⟩
  · intro s hm
    have hSettled := Reachable.isSettled_of_atRest (hr.trans hp.leads) hRest hm
    constructor <;> intro hPhase <;> rw [hPhase] at hSettled <;> exact absurd hSettled (by decide)
  · exact fun h'' hp' => hRest.eq_of_passes hp'

/-- Timers elapse at once, and runs take no time. -/
def instant : Setup := { sample fun _ => 0 with debounce := 0 }

/-- A run is in flight and a timer is pending, and both are due. -/
def ready : Host :=
  ((run instant {} [.openEditor 1 ⟨⟨"print(1)\n".toList⟩, 0⟩]).begin instant 1).notify 1

theorem comes_to_rest_ready :
    (∀ c h', Course instant ready c h' → (∀ d ∈ c, d.act.IsPassing) →
      elapses c ≤ 1 ∧ (completions c).length ≤ 2) ∧
    ∃ last, (ready.advanceTo instant last).AtRest := by
  have hr : Reachable instant ready :=
    (Leads.act (Reachable.run _) (.begin 1) trivial).act (.notify 1) trivial
  have hTimers : ready.pendingTimers = 1 := by decide +kernel
  have hFlights : ready.flights.length = 1 := by decide +kernel
  obtain ⟨hSpent, -, ⟨last, hLast⟩, -⟩ := Reachable.comes_to_rest hr
  rw [hTimers, hFlights] at hSpent
  refine ⟨fun c h' hc hPassing => ?_, last, (hLast last).2.mpr le_rfl⟩
  obtain ⟨hElapses, -, -, hRuns⟩ := hSpent c h' hc hPassing
  exact ⟨hElapses, hRuns⟩

end

end LiveLine.Host
