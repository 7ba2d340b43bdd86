import LiveLine.Proofs.Courses
import LiveLine.Proofs.Ownership
import LiveLine.Proofs.Phases

/-!
# The cancel policy

Under the cancel policy an evaluation aborts the run that it supersedes, also where it rejects the
line.  A session so has one run in flight at most, which is that of its last evaluation, and once
its phase is settled nothing is left that could change what it shows.

* `Sole`: the runs of a session in flight are that of its last evaluation, or none.
* `Course.rests`: a settled session stays as it is until it is called.
* `Reachable.cancel_exact`: both, in every reachable state.
-/

namespace LiveLine

/-- The run of a session in flight, if there is one, is that of its last evaluation, and the
session can abort it. -/
structure Sole (l : Life) : Prop where
  current : ∀ f ∈ l.flights, l.lastFire? = some (some f.run)
  held : ∀ f ∈ l.flights, ∃ s, l.session = some s ∧ s.newest = some f.run

namespace Sole

variable {w : Setup} {h h' : Host} {s t : Session} {l l' : Life}

theorem of_no_flights (hFlights : ∀ f, f ∉ l.flights) : Sole l :=
  ⟨fun f hf => absurd hf (hFlights f), fun f hf => absurd hf (hFlights f)⟩

/-- Fewer runs in flight and a session with the same handle make no difference. -/
theorem anti (ho : Sole l) (hSession : ∀ s, l.session = some s →
      ∃ t, l'.session = some t ∧ t.newest = s.newest)
    (hFlights : ∀ f ∈ l'.flights, f ∈ l.flights) (hFire : l'.lastFire? = l.lastFire?) :
    Sole l' := by
  refine ⟨fun f hf => hFire.trans (ho.current f (hFlights f hf)), fun f hf => ?_⟩
  obtain ⟨s, hs, hNewest⟩ := ho.held f (hFlights f hf)
  obtain ⟨t, ht, hSame⟩ := hSession s hs
  exact ⟨t, ht, hSame.trans hNewest⟩

/-- An evaluation leaves no older run in flight. -/
theorem not_mem_supersede (ho : Sole l) (hs : l.session = some s)
    (hCancel : w.onSupersede = .cancel) (f : Flight) : f ∉ (l.supersede w s).flights := by
  intro hf
  obtain ⟨hf, hOther⟩ := Life.mem_flights_supersede.mp hf
  obtain ⟨t, ht, hNewest⟩ := ho.held f hf
  obtain rfl := Option.some.inj (hs.symm.trans ht)
  exact hOther hCancel hNewest

/-- The end of a session leaves no run in flight. -/
theorem not_mem_release (ho : Sole l) (hs : l.session = some s) (f : Flight) :
    f ∉ (l.release s).flights := by
  intro hf
  obtain ⟨hf, hOther⟩ := Life.mem_flights_release.mp hf
  obtain ⟨t, ht, hNewest⟩ := ho.held f hf
  obtain rfl := Option.some.inj (hs.symm.trans ht)
  exact hOther hNewest

theorem fired (hCancel : w.onSupersede = .cancel) (ho : Sole l) (hs : l.session = some s)
    (hFire : Host.Fire w h h' s l l') : Sole l' := by
  cases hFire with
  | off =>
    refine ho.anti (fun t ht => ?_) (fun _ hf => hf) rfl
    exact ⟨s, rfl, by rw [Option.some.inj (hs.symm.trans ht)]⟩
  | started =>
    have hLast : (((l.supersede w s).record [.started h.started s.request]).launch
        (h.takeoff w (s.evaluated w))).lastFire? = some (some h.started) := by
      rw [Life.lastFire?, Life.last?_launch, Life.last?_started Happening.reading_fire?]
      rfl
    have hOnly : ∀ f ∈ (((l.supersede w s).record [.started h.started s.request]).launch
        (h.takeoff w (s.evaluated w))).flights, f.run = h.started := by
      intro f hf
      rcases Life.mem_flights_launch.mp hf with hf | rfl
      · exact absurd hf (ho.not_mem_supersede hs hCancel f)
      · rfl
    exact ⟨fun f hf => hLast.trans (by rw [hOnly f hf]),
      fun f hf => ⟨_, rfl, congrArg some (hOnly f hf).symm⟩⟩
  | rejected => exact .of_no_flights (ho.not_mem_supersede hs hCancel)

/-- Under the cancel policy every move of a life leaves one run in flight at most. -/
theorem move (hCancel : w.onSupersede = .cancel) (ho : Sole l) (hMove : Host.Move w h h' l l') :
    Sole l' := by
  cases hMove with
  | opened => exact .of_no_flights fun f => List.not_mem_nil
  | @edited l s hs snapshot =>
    refine ho.anti (fun t ht => ?_) (fun _ hf => hf) rfl
    exact ⟨_, rfl, by rw [Option.some.inj (hs.symm.trans ht)]⟩
  | @notified l s hs hDisposed =>
    refine ho.anti (fun t ht => ?_) (fun _ hf => hf)
      (Life.last?_record Happening.reading_fire? (Happening.quiet_scheduled _))
    exact ⟨_, rfl, by rw [Option.some.inj (hs.symm.trans ht)]⟩
  | @fired l l' s hs pre hPre hFire =>
    have hQuiet := Happening.quiet_of_firing hPre
    have hRest : Sole ((l.record pre).hold { s with timer := s.timer.cancel }) := by
      refine ho.anti (fun t ht => ?_) (fun _ hf => hf)
        (Life.last?_record Happening.reading_fire? hQuiet)
      exact ⟨_, rfl, by rw [Option.some.inj (hs.symm.trans ht)]⟩
    exact hRest.fired hCancel rfl hFire
  | @completed l l' f hf hLanding =>
    cases hLanding with
    | ignored =>
      exact ho.anti (fun t ht => ⟨t, ht, rfl⟩) (fun g hg => (Life.mem_flights_land.mp hg).1)
        (Life.last?_finished f)
    | @presented s hs =>
      refine ho.anti (fun t ht => ?_) (fun g hg => (Life.mem_flights_land.mp hg).1)
        (Life.last?_hearing Happening.reading_fire? ..)
      exact ⟨_, rfl, by rw [Option.some.inj (hs.symm.trans ht)]; rfl⟩
  | disposed hs => exact .of_no_flights (ho.not_mem_release hs)
  | left hs => exact .of_no_flights (ho.not_mem_release hs)

end Sole

namespace Host

/-- Whether an act is a call of the session of an editor: to open it again, to evaluate its line
now or when changes settle, or to dispose it. -/
def Act.Calls (id : EditorId) : Act → Prop
  | openEditor id' _ | notify id' | begin id' | dispose id' | evict id' => id' = id
  | _ => False

theorem Act.IsPassing.not_calls {a : Act} (ha : a.IsPassing) (id : EditorId) : ¬ a.Calls id := by
  cases a <;> simp_all [IsPassing, Calls]

section

variable {owner : Nat → EditorId} {w : Setup} {h g : Host} {s t : Session} {a : Act}

theorem Reachable.sole (hCancel : w.onSupersede = .cancel) (hr : Reachable w h) (n : Nat) :
    Sole (h.life n) :=
  Leads.life (P := Sole) ⟨fun _ => 0, Sound.initial⟩
    (.of_no_flights fun f => by simp [life]) (fun _ ho hMove => ho.move hCancel hMove) hr

/-- In a settled phase a session has no run in flight. -/
theorem Reachable.session_ne_of_settled (hCancel : w.onSupersede = .cancel) (hr : Reachable w h)
    (hm : s ∈ h.sessions) (hSettled : s.phase.isSettled = true) {f : Flight}
    (hf : f ∈ h.flights) : f.session ≠ s.number := by
  intro hOwn
  refine (hr.settled hm hSettled).2 ⟨f, hf, hOwn, ?_⟩
  exact (hr.sole hCancel s.number).current f (mem_flights_life.mpr ⟨hf, hOwn⟩)

/-- A session in another state that shows the same, and has made no further calls. -/
structure Rests (s : Session) (l l' : Life) (t : Session) : Prop where
  session : l'.session = some t
  phase : t.phase = s.phase
  presenter : t.presenter = s.presenter
  calls : l'.calls = l.calls

/-- An act that does not call a settled session leaves what it shows. -/
theorem Reachable.rests (hCancel : w.onSupersede = .cancel) (hr : Reachable w h)
    (hm : s ∈ h.sessions) (hSettled : s.phase.isSettled = true) (possible : a.Possible h)
    (hCalls : ¬ a.Calls s.editor) :
    ∃ t, Rests s (h.life s.number) ((h.act w a).life s.number) t ∧ t.editor = s.editor := by
  obtain ⟨owner, hs⟩ := hr.sound
  have hSession := hs.life_session hm
  by_cases hn : a.subject? h = some s.number
  swap
  · rw [hs.life_act_of_ne possible hn]
    exact ⟨s, ⟨hSession, rfl, rfl, rfl⟩, rfl⟩
  have hEditor : ∀ id, (h.session? id).map Session.number = some s.number →
      id = s.editor := by
    intro id hn
    obtain ⟨t, ht, rfl, hNumber⟩ := hs.mem_of_subject hn
    rw [hs.eq_of_number ht hm hNumber]
  cases a with
  | openEditor id snapshot =>
    exact absurd (Option.some.inj hn) (Nat.ne_of_gt (hs.known s hm).number_lt)
  | edit id text cursor =>
    obtain rfl := hEditor id hn
    have hLife := congrFun (hs.life_edit hm text cursor) s.number
    rw [Function.update_self] at hLife
    rw [show (h.act w (.edit s.editor text cursor)).life s.number = _ from hLife]
    exact ⟨_, ⟨rfl, rfl, rfl, rfl⟩, rfl⟩
  | elapse id =>
    obtain rfl := hEditor id hn
    obtain ⟨t, hf, hPending⟩ := possible
    obtain ⟨ht, he⟩ := hs.mem_of_session? hf
    rw [hs.sorted.eq_of_editor ht hm he, (hr.settled hm hSettled).1] at hPending
    exact absurd hPending (by decide)
  | complete f =>
    exact absurd (Option.some.inj hn) (hr.session_ne_of_settled hCancel hm hSettled possible)
  | notify id => exact absurd (hEditor id hn) hCalls
  | begin id => exact absurd (hEditor id hn) hCalls
  | dispose id => exact absurd (hEditor id hn) hCalls
  | evict id => exact absurd (hEditor id hn) hCalls
  | focus => exact absurd hn (by simp [Act.subject?])
  | tick => exact absurd hn (by simp [Act.subject?])

/-- A settled session rests until it is called. -/
theorem Course.rests (hCancel : w.onSupersede = .cancel) (hr : Reachable w h)
    (hm : s ∈ h.sessions) (hSettled : s.phase.isSettled = true) {c : List Deed}
    (hc : Course w h c g) (hCalls : ∀ d ∈ c, ¬ d.act.Calls s.editor) :
    ∃ t, Rests s (h.life s.number) (g.life s.number) t ∧ t.editor = s.editor := by
  induction hc with
  | nil =>
    obtain ⟨owner, hs⟩ := hr.sound
    exact ⟨s, ⟨hs.life_session hm, rfl, rfl, rfl⟩, rfl⟩
  | @cons c g prior a possible ih =>
    obtain ⟨t, ht, he⟩ := ih fun d hd => hCalls d (List.mem_cons_of_mem _ hd)
    have hg : Reachable w g := hr.trans prior.leads
    obtain ⟨owner, hs⟩ := hg.sound
    obtain ⟨hMem, hNumber⟩ := hs.numbered?_eq_some.mp ht.session
    obtain ⟨u, hu, he'⟩ := hg.rests hCancel hMem (by rw [ht.phase, hSettled]) possible
      (by rw [he]; exact hCalls _ (List.mem_cons_self ..))
    rw [hNumber] at hu
    exact ⟨u, ⟨hu.session, hu.phase.trans ht.phase, hu.presenter.trans ht.presenter,
      hu.calls.trans ht.calls⟩, he'.trans he⟩

/-- **Under the cancel policy nothing superseded is ever shown.**  A session has one run in flight
at most, and it is the run of the last evaluation, so that every completion is one of that run; a
completion concerns its own session only.  Once the phase of a session is settled, its phase, what
it shows and its calls to the surface stay as they are, whatever else happens, until the session is
called. -/
theorem Reachable.cancel_exact (hCancel : w.onSupersede = .cancel) (hr : Reachable w h) :
    (∀ f ∈ h.flights, ∀ f' ∈ h.flights, f.session = f'.session → f = f') ∧
    (∀ f ∈ h.flights, (h.life f.session).lastFire? = some (some f.run) ∧
      ∀ n, n ≠ f.session → (h.complete w f).life n = h.life n) ∧
    ∀ s ∈ h.sessions, s.phase = .idle ∨ s.phase = .annotatedOutput ∨ s.phase = .annotatedError →
      ∀ c g, Course w h c g → (∀ d ∈ c, ¬ d.act.Calls s.editor) →
        ∃ t ∈ g.sessions, t.number = s.number ∧ t.phase = s.phase ∧ t.presenter = s.presenter ∧
          (g.life s.number).calls = (h.life s.number).calls := by
  obtain ⟨owner, hs⟩ := hr.sound
  have hCurrent : ∀ f ∈ h.flights, (h.life f.session).lastFire? = some (some f.run) :=
    fun f hf => (hr.sole hCancel f.session).current f (mem_flights_life.mpr ⟨hf, rfl⟩)
  refine ⟨fun f hf f' hf' hSame => ?_, fun f hf => ⟨hCurrent f hf, fun n hn => ?_⟩,
    fun s hm hPhase c g hc hCalls => ?_⟩
  · have hLast := (hCurrent f hf).symm.trans (hSame ▸ hCurrent f' hf')
    exact hs.eq_of_run hf hf' (Option.some.inj (Option.some.inj hLast))
  · exact hs.life_act_of_ne (a := .complete f) hf fun h => hn (Option.some.inj h).symm
  · have hSettled : s.phase.isSettled = true := by
      rcases hPhase with hPhase | hPhase | hPhase <;> rw [hPhase] <;> rfl
    obtain ⟨t, ht, -⟩ := hc.rests hCancel hr hm hSettled hCalls
    obtain ⟨owner', hg⟩ := Reachable.sound (hr.trans hc.leads)
    obtain ⟨hMem, hNumber⟩ := hg.numbered?_eq_some.mp ht.session
    exact ⟨t, hMem, hNumber, ht.phase, ht.presenter, ht.calls⟩

/-- Runs take a second, and a newer evaluation aborts them. -/
def cancelling : Setup := { sample fun _ => 1000 with onSupersede := .cancel }

/-- A run is superseded by another one, which completes. -/
def answered : Host :=
  run cancelling {} [.openEditor 1 ⟨⟨"print(1)\n".toList⟩, 0⟩, .notify 1, .advance 10, .notify 1,
    .advance 1010]

theorem cancel_exact_answered :
    cancelling.onSupersede = .cancel ∧ Reachable cancelling answered ∧
      ∃ s ∈ answered.sessions, s.phase = .annotatedOutput ∧
        (∀ d : Decoration.Id, d ∈ s.presenter.decorations ↔ d = 1) ∧
        ∃ t ∈ (answered.step cancelling (.advance 5000)).sessions, t.number = s.number ∧
          t.phase = s.phase ∧ t.presenter = s.presenter ∧
          ((answered.step cancelling (.advance 5000)).life s.number).calls =
            (answered.life s.number).calls := by
  have hr : Reachable cancelling answered := .run _
  obtain ⟨s, hm, hPhase, hHeld⟩ : ∃ s ∈ answered.sessions, s.phase = .annotatedOutput ∧
      s.presenter.decorations = [1] := by decide
  obtain ⟨c, hc, hPassing⟩ :=
    Passes.advanceTo (w := cancelling) hr.sound (answered.now + 5000)
  exact ⟨rfl, hr, s, hm, hPhase, by simp [hHeld],
    (Reachable.cancel_exact rfl hr).2.2 s hm (Or.inr (Or.inl hPhase)) c _ hc
      fun d hd => (hPassing d hd).not_calls s.editor⟩

end

end Host

end LiveLine
