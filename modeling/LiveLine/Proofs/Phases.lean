import LiveLine.Proofs.Histories
import LiveLine.Proofs.Scripts

/-!
# Phases are exact

A session is pending just while its timer is, and running just while no timer is pending and the
run of its last evaluation is in flight.  A superseded run that completes leaves it there.

* `Tracked`: what ties the phase of a session to its timer, its generation and its runs.
* `Host.Reachable.tracked`: it holds in every reachable state.
* `Host.Reachable.phase_exact`: what it says of the phase, in terms of timer, history and flights.
-/

namespace LiveLine

namespace Session

variable {s : Session} {f : Flight} {kind : Annotation.Kind} {fate : Fate}

theorem outdates_eq_false : s.outdates f = false ↔ f.generation = s.generation := by
  simp [outdates]

theorem isSettled_ofFate (kind : Annotation.Kind) (fate : Fate) :
    (Phase.ofFate kind fate).isSettled = true := by
  cases kind <;> cases fate <;> rfl

/-- No completion moves a session into the pending phase or out of it. -/
theorem phaseAfter_eq_pending {stale : Bool} :
    s.phaseAfter stale kind fate = .pending ↔ s.phase = .pending := by
  have hSettled := isSettled_ofFate kind fate
  unfold phaseAfter
  split
  · rename_i hMoved
    constructor
    · intro hPhase
      rw [hPhase] at hSettled
      exact absurd hSettled (by decide)
    · intro hPhase
      simp [hPhase, Phase.isSettled] at hMoved
  · exact Iff.rfl

/-- A run that was not superseded ends the running phase. -/
theorem phaseAfter_ne_running : s.phaseAfter false kind fate ≠ .running := by
  have hSettled := isSettled_ofFate kind fate
  unfold phaseAfter
  split
  · intro hPhase
    rw [hPhase] at hSettled
    exact absurd hSettled (by decide)
  · rename_i hKept
    simpa using hKept

/-- A superseded run has no say while something newer is awaited. -/
theorem phaseAfter_of_awaited (hAwaited : s.phase.isSettled = false) :
    s.phaseAfter true kind fate = s.phase := by
  simp [phaseAfter, hAwaited]

theorem phaseAfter_eq_running :
    s.phaseAfter true kind fate = .running ↔ s.phase = .running := by
  cases hAwaited : s.phase.isSettled with
  | false => rw [phaseAfter_of_awaited hAwaited]
  | true =>
    have hSettled := isSettled_ofFate kind fate
    refine iff_of_false (fun hPhase => ?_) fun hPhase => ?_
    · unfold phaseAfter at hPhase
      split at hPhase
      · rw [hPhase] at hSettled
        exact absurd hSettled (by decide)
      · rw [hPhase] at hAwaited
        exact absurd hAwaited (by decide)
    · rw [hPhase] at hAwaited
      exact absurd hAwaited (by decide)

end Session

/-- What ties the phase of a session to its timer, its generation and its runs in flight. -/
structure Tracked (s : Session) (l : Life) : Prop where
  pending : s.phase = .pending ↔ s.timer.isPending = true
  running : s.phase = .running ↔
    s.timer.isPending = false ∧ ∃ f ∈ l.flights, s.outdates f = false
  /-- The run of the last evaluation is the one that no evaluation has superseded. -/
  current : ∀ f ∈ l.flights, s.outdates f = false ↔ l.lastFire? = some (some f.run)
  bounded : ∀ f ∈ l.flights, f.generation ≤ s.generation
  newest : ∀ f ∈ l.flights, s.outdates f = false → s.newest = some f.run
  closed : s.disposed = true → s.phase = .idle

namespace Tracked

variable {w : Setup} {h h' : Host} {s : Session} {l l' : Life} {f : Flight}

/-- While the run of the last evaluation is in flight, something is awaited. -/
theorem isSettled_of_current (ht : Tracked s l) (hf : f ∈ l.flights)
    (hCurrent : s.outdates f = false) : s.phase.isSettled = false := by
  cases hTimer : s.timer.isPending with
  | true => rw [ht.pending.mpr hTimer]; rfl
  | false => rw [ht.running.mpr ⟨hTimer, f, hf, hCurrent⟩]; rfl

theorem of_no_flights (hFlights : l.flights = []) (hPhase : s.phase = .idle)
    (hTimer : s.timer.isPending = false) : Tracked s l where
  pending := by simp [hPhase, hTimer]
  running := by simp [hPhase, hFlights]
  current := by simp [hFlights]
  bounded := by simp [hFlights]
  newest := by simp [hFlights]
  closed := fun _ => hPhase

/-- What is not tracked makes no difference. -/
theorem congr (ht : Tracked s l) {s' : Session} (hPhase : s'.phase = s.phase)
    (hTimer : s'.timer.isPending = s.timer.isPending) (hGeneration : s'.generation = s.generation)
    (hNewest : s'.newest = s.newest) (hDisposed : s'.disposed = s.disposed)
    (hFlights : l'.flights = l.flights) (hFire : l'.lastFire? = l.lastFire?) : Tracked s' l' := by
  have hOutdates : s'.outdates = s.outdates := by
    funext f
    simp only [Session.outdates, hGeneration]
  constructor
  · rw [hPhase, hTimer]
    exact ht.pending
  · rw [hPhase, hTimer, hFlights, hOutdates]
    exact ht.running
  · rw [hFlights, hFire, hOutdates]
    exact ht.current
  · rw [hFlights, hGeneration]
    exact ht.bounded
  · rw [hFlights, hNewest, hOutdates]
    exact ht.newest
  · rw [hPhase, hDisposed]
    exact ht.closed

theorem hold (ht : Tracked s l) (t : Session) : Tracked s (l.hold t) :=
  ht.congr rfl rfl rfl rfl rfl rfl rfl

theorem notified (ht : Tracked s l) (hDisposed : s.disposed = false) (now : Nat)
    {es : List Happening} (hes : Happening.Quiet es) :
    Tracked { s with phase := .pending, timer := s.timer.schedule now () } (l.record es) where
  pending := iff_of_true rfl rfl
  running := iff_of_false (by simp) (by simp [Debouncer.schedule, Debouncer.isPending])
  current := by
    rw [Life.lastFire?, Life.last?_record Happening.reading_fire? hes]
    exact ht.current
  bounded := ht.bounded
  newest := ht.newest
  closed := by simp [hDisposed]

/-- An evaluation that starts a run: all other runs are superseded. -/
theorem started (hBounded : ∀ f ∈ l.flights, f.generation ≤ s.generation)
    (hRun : ∀ f ∈ l.flights, f.run < h.started) (hTimer : s.timer.isPending = false)
    (hDisposed : s.disposed = false) :
    Tracked { s.evaluated w with phase := .running, newest := some h.started }
      (((l.supersede w s).record [.started h.started s.request]).launch
        (h.takeoff w (s.evaluated w))) := by
  have hFire : (((l.supersede w s).record [.started h.started s.request]).launch
      (h.takeoff w (s.evaluated w))).lastFire? = some (some h.started) := by
    rw [Life.lastFire?, Life.last?_launch, Life.last?_started Happening.reading_fire?]
    rfl
  have hCurrent : ∀ f ∈ (((l.supersede w s).record [.started h.started s.request]).launch
      (h.takeoff w (s.evaluated w))).flights,
      f.generation = s.generation + 1 ∧ f.run = h.started ∨
        f.generation < s.generation + 1 ∧ f.run < h.started := by
    intro f hf
    rcases Life.mem_flights_launch.mp hf with hf | rfl
    · have hOld := (Life.mem_flights_supersede.mp hf).1
      exact Or.inr ⟨Nat.lt_succ_of_le (hBounded f hOld), hRun f hOld⟩
    · exact Or.inl ⟨rfl, rfl⟩
  constructor
  · simpa [Session.evaluated] using hTimer
  · refine iff_of_true rfl ⟨hTimer, h.takeoff w (s.evaluated w), ?_, ?_⟩
    · exact Life.mem_flights_launch.mpr (Or.inr rfl)
    · exact Session.outdates_eq_false.mpr rfl
  · intro f hf
    rw [Session.outdates_eq_false, hFire]
    rcases hCurrent f hf with ⟨hGeneration, hRun⟩ | ⟨hGeneration, hRun⟩
    · exact iff_of_true hGeneration (by rw [hRun])
    · refine iff_of_false (Nat.ne_of_lt hGeneration) fun hSame => ?_
      exact Nat.ne_of_gt hRun (Option.some.inj (Option.some.inj hSame))
  · intro f hf
    rcases hCurrent f hf with ⟨hGeneration, -⟩ | ⟨hGeneration, -⟩
    · exact Nat.le_of_eq hGeneration
    · exact Nat.le_of_lt hGeneration
  · intro f hf hSame
    rcases hCurrent f hf with ⟨-, hRun⟩ | ⟨hGeneration, -⟩
    · rw [hRun]
    · exact absurd (Session.outdates_eq_false.mp hSame) (Nat.ne_of_lt hGeneration)
  · simp [Session.evaluated, hDisposed]

/-- An evaluation that rejects the line: every run is superseded. -/
theorem rejected (hBounded : ∀ f ∈ l.flights, f.generation ≤ s.generation)
    (hTimer : s.timer.isPending = false) (calls : List SurfaceCall) :
    Tracked { s.evaluated w with phase := .idle, presenter := {} }
      ((l.supersede w s).record (.rejected s.snapshot.cursor :: calls.map .called)) := by
  have hFire : ((l.supersede w s).record
      (.rejected s.snapshot.cursor :: calls.map .called)).lastFire? = some none := by
    rw [Life.lastFire?, Life.last?_rejected Happening.reading_fire?]
    rfl
  have hOld : ∀ f ∈ (l.supersede w s).flights, f.generation < s.generation + 1 := fun f hf =>
    Nat.lt_succ_of_le (hBounded f (Life.mem_flights_supersede.mp hf).1)
  constructor
  · simpa [Session.evaluated] using hTimer
  · refine iff_of_false (by simp) ?_
    rintro ⟨-, f, hf, hSame⟩
    exact Nat.ne_of_lt (hOld f hf) (Session.outdates_eq_false.mp hSame)
  · intro f hf
    rw [hFire]
    exact iff_of_false
      (fun hSame => Nat.ne_of_lt (hOld f hf) (Session.outdates_eq_false.mp hSame)) (by simp)
  · exact fun f hf => Nat.le_of_lt (hOld f hf)
  · exact fun f hf hSame => absurd (Session.outdates_eq_false.mp hSame) (Nat.ne_of_lt (hOld f hf))
  · exact fun _ => rfl

/-- A timer that elapses or gives way takes the session out of the pending phase. -/
theorem fired (ht : Tracked s l) {pre : List Happening} (hPre : Happening.Quiet pre)
    (hRun : ∀ f ∈ l.flights, f.run < h.started)
    (hFire : Host.Fire w h h' { s with timer := s.timer.cancel }
      ((l.record pre).hold { s with timer := s.timer.cancel }) l') :
    ∀ t, l'.session = some t → Tracked t l' := by
  cases hFire with
  | off hDisposed =>
    have hPhase := ht.closed hDisposed
    have hTimer : s.timer.isPending = false := by
      cases hPending : s.timer.isPending with
      | false => rfl
      | true => exact absurd (hPhase.symm.trans (ht.pending.mpr hPending)) (by decide)
    rintro t ⟨⟩
    exact ht.congr rfl hTimer.symm rfl rfl rfl rfl
      (Life.last?_record Happening.reading_fire? hPre)
  | started hDisposed =>
    rintro t ⟨⟩
    exact (started (s := { s with timer := s.timer.cancel })
      (l := (l.record pre).hold { s with timer := s.timer.cancel }) ht.bounded hRun rfl
      hDisposed).hold _
  | rejected =>
    rintro t ⟨⟩
    exact (rejected (s := { s with timer := s.timer.cancel })
      (l := (l.record pre).hold { s with timer := s.timer.cancel }) ht.bounded rfl _).hold _

/-- A completed run of which the session takes no notice was superseded, or the session has
nothing in flight that is not. -/
theorem ignored (ht : Tracked s l) (hOwn : ∀ g ∈ l.flights, g.run = f.run → g = f)
    (hIgnored : s.disposed = true ∨ s.outdates f = true) :
    Tracked s ((l.land f.run).record [.finished f.run f.result]) := by
  have hFire : ((l.land f.run).record [.finished f.run f.result]).lastFire? = l.lastFire? :=
    Life.last?_finished f
  refine ⟨ht.pending, ht.running.trans ?_, fun g hg => ?_, fun g hg => ?_, fun g hg => ?_,
    ht.closed⟩
  · refine and_congr_right fun hTimer => ⟨?_, ?_⟩
    · rintro ⟨g, hg, hSame⟩
      refine ⟨g, Life.mem_flights_land.mpr ⟨hg, fun hRun => ?_⟩, hSame⟩
      rcases hIgnored with hDisposed | hOut
      · have hPhase := ht.running.mpr ⟨hTimer, g, hg, hSame⟩
        exact absurd ((ht.closed hDisposed).symm.trans hPhase) (by decide)
      · rw [hOwn g hg hRun, hOut] at hSame
        exact absurd hSame (by decide)
    · rintro ⟨g, hg, hSame⟩
      exact ⟨g, (Life.mem_flights_land.mp hg).1, hSame⟩
  · rw [hFire]
    exact ht.current g (Life.mem_flights_land.mp hg).1
  · exact ht.bounded g (Life.mem_flights_land.mp hg).1
  · exact ht.newest g (Life.mem_flights_land.mp hg).1

theorem heard (ht : Tracked s l) (hf : f ∈ l.flights)
    (hOwn : ∀ g ∈ l.flights, g.run = f.run → g = f) (hDisposed : s.disposed = false)
    (issued : Nat) :
    Tracked (s.heard w issued f)
      (((l.land f.run).record [.finished f.run f.result]).record (s.hearing w issued f)) := by
  have hFire : (((l.land f.run).record [.finished f.run f.result]).record
      (s.hearing w issued f)).lastFire? = l.lastFire? :=
    Life.last?_hearing Happening.reading_fire? w issued s f
  have hLand : ∀ g, g ∈ (((l.land f.run).record [.finished f.run f.result]).record
      (s.hearing w issued f)).flights ↔ g ∈ l.flights ∧ g.run ≠ f.run :=
    fun g => Life.mem_flights_land
  refine ⟨Session.phaseAfter_eq_pending.trans ht.pending, ?_, fun g hg => ?_, fun g hg => ?_,
    fun g hg => ?_, fun h => absurd h (by simp [Session.heard, hDisposed])⟩
  · simp only [hLand]
    cases hOut : s.outdates f with
    | false =>
      -- no other run in flight has the generation of the session
      have hNone : ∀ g ∈ l.flights, g.run ≠ f.run → s.outdates g ≠ false := fun g hg hRun hSame =>
        hRun <| Option.some.inj <| Option.some.inj <|
          ((ht.current g hg).mp hSame).symm.trans ((ht.current f hf).mp hOut)
      refine iff_of_false (by simpa [Session.heard, hOut] using Session.phaseAfter_ne_running) ?_
      rintro ⟨-, g, ⟨hg, hRun⟩, hSame⟩
      exact hNone g hg hRun hSame
    | true =>
      have hRunning : (s.heard w issued f).phase = .running ↔ s.phase = .running := by
        simpa only [Session.heard, hOut] using Session.phaseAfter_eq_running
      refine hRunning.trans (ht.running.trans (and_congr_right fun _ => ?_))
      constructor
      · rintro ⟨g, hg, hSame⟩
        refine ⟨g, ⟨hg, fun hRun => ?_⟩, hSame⟩
        rw [hOwn g hg hRun, hOut] at hSame
        exact absurd hSame (by decide)
      · rintro ⟨g, ⟨hg, -⟩, hSame⟩
        exact ⟨g, hg, hSame⟩
  · rw [hFire]
    exact ht.current g ((hLand g).mp hg).1
  · exact ht.bounded g ((hLand g).mp hg).1
  · exact ht.newest g ((hLand g).mp hg).1

/-- Disposal aborts the run of the last evaluation. -/
theorem disposed (ht : Tracked s l) : Tracked s.closed (l.release s) := by
  have hFire : (l.release s).lastFire? = l.lastFire? :=
    Life.last?_release Happening.reading_fire? s
  have hNone : ∀ f ∈ (l.release s).flights, s.outdates f ≠ false := by
    intro f hf hSame
    obtain ⟨hf, hNewest⟩ := Life.mem_flights_release.mp hf
    exact hNewest (ht.newest f hf hSame)
  refine ⟨iff_of_false (by simp [Session.closed]) (by simp [Session.closed, Debouncer.cancel,
    Debouncer.isPending]), iff_of_false (by simp [Session.closed]) ?_, fun f hf => ?_,
    fun f hf => ?_, fun f hf hSame => absurd hSame (hNone f hf), fun _ => rfl⟩
  · rintro ⟨-, f, hf, hSame⟩
    exact hNone f hf hSame
  · rw [hFire]
    exact ht.current f (Life.mem_flights_release.mp hf).1
  · exact ht.bounded f (Life.mem_flights_release.mp hf).1

/-- Every move of a life keeps its session tracked. -/
theorem move (hRun : ∀ f ∈ l.flights, f.run < h.started)
    (hOwn : ∀ f ∈ l.flights, ∀ g ∈ l.flights, g.run = f.run → g = f)
    (ht : ∀ s, l.session = some s → Tracked s l) (hMove : Host.Move w h h' l l') :
    ∀ s, l'.session = some s → Tracked s l' := by
  cases hMove with
  | opened id snapshot =>
    rintro s ⟨⟩
    exact .of_no_flights rfl rfl rfl
  | edited hs snapshot =>
    rintro s ⟨⟩
    exact (ht _ hs).congr rfl rfl rfl rfl rfl rfl rfl
  | notified hs hDisposed =>
    rintro s ⟨⟩
    exact ((ht _ hs).notified hDisposed _ (Happening.quiet_scheduled _)).hold _
  | fired hs hPre hFire =>
    exact (ht _ hs).fired (Happening.quiet_of_firing hPre) hRun hFire
  | @completed l l' f hf hLanding =>
    cases hLanding with
    | ignored hIgnored =>
      intro s hs
      exact (ht s hs).ignored (hOwn f hf) ((hIgnored s hs).imp_right And.left)
    | presented hs hDisposed =>
      rintro s ⟨⟩
      exact ((ht _ hs).heard hf (hOwn f hf) hDisposed _).hold _
  | disposed hs =>
    rintro s ⟨⟩
    exact (ht _ hs).disposed.hold _
  | left => exact fun s hs => absurd hs (by simp)

end Tracked

namespace Host

section

variable {w : Setup} {h : Host} {s : Session}

/-- In every reachable state the phases of all sessions are tracked. -/
theorem Reachable.tracked (hr : Reachable w h) (hm : s ∈ h.sessions) :
    Tracked s (h.life s.number) :=
  Reachable.session (P := Tracked)
    (fun hs ht hMove => Tracked.move hs.run_lt hs.eq_of_run_life ht hMove) hr hm

/-- The run that the last evaluation of a session started is in flight. -/
def Awaits (h : Host) (s : Session) : Prop :=
  ∃ f ∈ h.flights, f.session = s.number ∧ (h.life s.number).lastFire? = some (some f.run)

theorem Reachable.running_iff (hr : Reachable w h) (hm : s ∈ h.sessions) :
    s.phase = .running ↔ s.timer.isPending = false ∧ h.Awaits s := by
  have ht := hr.tracked hm
  refine ht.running.trans (and_congr_right fun _ => ⟨?_, ?_⟩)
  · rintro ⟨f, hf, hSame⟩
    obtain ⟨hFlight, hOwn⟩ := mem_flights_life.mp hf
    exact ⟨f, hFlight, hOwn, (ht.current f hf).mp hSame⟩
  · rintro ⟨f, hf, hOwn, hFire⟩
    have hFlight := mem_flights_life.mpr ⟨hf, hOwn⟩
    exact ⟨f, hFlight, (ht.current f hFlight).mpr hFire⟩

/-- In a settled phase neither a timer nor the run of the last evaluation is outstanding. -/
theorem Reachable.settled (hr : Reachable w h) (hm : s ∈ h.sessions)
    (hSettled : s.phase.isSettled = true) : s.timer.isPending = false ∧ ¬ h.Awaits s := by
  have hTimer : s.timer.isPending = false := by
    cases hPending : s.timer.isPending with
    | false => rfl
    | true =>
      rw [(hr.tracked hm).pending.mpr hPending] at hSettled
      exact absurd hSettled (by decide)
  refine ⟨hTimer, fun hAwaits => ?_⟩
  rw [(hr.running_iff hm).mpr ⟨hTimer, hAwaits⟩] at hSettled
  exact absurd hSettled (by decide)

/-- The completion of a superseded run leaves a phase in which something is awaited. -/
theorem Reachable.phase_complete (hr : Reachable w h) (hm : s ∈ h.sessions)
    (hAwaited : s.phase.isSettled = false) {f : Flight} (hf : f ∈ h.flights)
    (hOwn : f.session = s.number) (hSuperseded : (h.life s.number).lastFire? ≠ some (some f.run)) :
    ∃ t ∈ (h.complete w f).sessions, t.number = s.number ∧ t.phase = s.phase := by
  obtain ⟨owner, hs⟩ := hr.sound
  have hFlight := mem_flights_life.mpr ⟨hf, hOwn⟩
  have hOut : s.outdates f = true := by
    cases hOut : s.outdates f with
    | true => rfl
    | false => exact absurd (((hr.tracked hm).current f hFlight).mp hOut) hSuperseded
  obtain ⟨l', hLanding, hSessions⟩ := hs.session_complete (w := w) hf
  rw [hOwn] at hLanding hSessions
  have hSession : ∃ t, l'.session = some t ∧ t.phase = s.phase := by
    cases hLanding with
    | ignored => exact ⟨s, hs.life_session hm, rfl⟩
    | presented ht =>
      obtain rfl := Option.some.inj ((hs.life_session hm).symm.trans ht)
      refine ⟨_, rfl, ?_⟩
      simpa only [Session.heard, hOut] using Session.phaseAfter_of_awaited hAwaited
  obtain ⟨t, ht, hPhase⟩ := hSession
  obtain ⟨hMem, hNumber⟩ := (hSessions t).mp ht
  exact ⟨t, hMem, hNumber, hPhase⟩

/-- **Pending and running are exact.**  In every reachable state a session is pending just while
its timer is, and running just while no timer is pending and the run that its last evaluation
started is in flight.  In the other phases neither is outstanding, and the completion of a run that
is not the one of the last evaluation leaves a session pending or running. -/
theorem Reachable.phase_exact (hr : Reachable w h) (hm : s ∈ h.sessions) :
    (s.phase = .pending ↔ s.timer.isPending = true) ∧
    (s.phase = .running ↔ s.timer.isPending = false ∧ h.Awaits s) ∧
    (s.phase = .idle ∨ s.phase = .annotatedOutput ∨ s.phase = .annotatedError →
      s.timer.isPending = false ∧ ¬ h.Awaits s) ∧
    (s.phase = .pending ∨ s.phase = .running → ∀ f ∈ h.flights, f.session = s.number →
      (h.life s.number).lastFire? ≠ some (some f.run) →
      ∃ t ∈ (h.complete w f).sessions, t.number = s.number ∧ t.phase = s.phase) := by
  refine ⟨(hr.tracked hm).pending, hr.running_iff hm, fun hPhase => hr.settled hm ?_,
    fun hPhase f hf hOwn hSuperseded => hr.phase_complete hm ?_ hf hOwn hSuperseded⟩
  · rcases hPhase with hPhase | hPhase | hPhase <;> rw [hPhase] <;> rfl
  · rcases hPhase with hPhase | hPhase <;> rw [hPhase] <;> rfl

/-- The first of two overlapping runs completes, and the session goes on running. -/
theorem phase_exact_overlapping :
    ∃ s ∈ overlapping.sessions, s.phase = .running ∧ s.timer.isPending = false ∧
      overlapping.Awaits s ∧ ∃ f ∈ overlapping.flights, f.run = 0 ∧
        ∃ t ∈ (overlapping.complete (sample fun _ => 1000) f).sessions,
          t.number = s.number ∧ t.phase = .running := by
  obtain ⟨s, hm, hPhase⟩ : ∃ s ∈ overlapping.sessions, s.phase = .running := by decide
  have hNumber : ∀ t ∈ overlapping.sessions, t.number = 0 := by decide
  obtain ⟨f, hf, hRun, hOwn⟩ : ∃ f ∈ overlapping.flights, f.run = 0 ∧ f.session = 0 := by decide
  have hLast : (overlapping.life 0).lastFire? = some (some 1) := by decide
  obtain ⟨-, hRunning, -, hStay⟩ := Reachable.phase_exact reachable_overlapping hm
  obtain ⟨hTimer, hAwaits⟩ := hRunning.mp hPhase
  have hSuperseded : (overlapping.life s.number).lastFire? ≠ some (some f.run) := by
    rw [hNumber s hm, hLast, hRun]
    decide
  obtain ⟨t, ht, hSame, hKept⟩ :=
    hStay (Or.inr hPhase) f hf (hOwn.trans (hNumber s hm).symm) hSuperseded
  exact ⟨s, hm, hPhase, hTimer, hAwaits, f, hf, hRun, t, ht, hSame, hKept.trans hPhase⟩

end

end Host

end LiveLine
