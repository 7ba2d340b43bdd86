import LiveLine.Proofs.Ownership

/-!
# Silence after disposal

A session that has come to its end is closed for good: calls do nothing to it, it has no timer that
could elapse, and runs that it has left to finish complete without being heard.

* `Trails.move`: a move of a life that has come to its end is noticed by nobody.
* `Leads.trails`: so are all acts after the end.
* `Disposal.silent`: what the surface, the counters and other sessions see of it.
-/

namespace LiveLine

/-- Whether neither the surface nor a counter takes notice of an entry. -/
def Happening.isSilent : Happening → Bool
  | finished .. | disposed => true
  | _ => false

namespace Session

variable {s : Session}

theorem phase_of_closed (hClosed : s.closed = s) : s.phase = .idle := by
  rw [← hClosed]
  rfl

theorem presenter_of_closed (hClosed : s.closed = s) : s.presenter = {} := by
  rw [← hClosed]
  rfl

theorem isPending_of_closed (hClosed : s.closed = s) : s.timer.isPending = false := by
  rw [← hClosed]
  rfl

theorem supersededBy_of_closed (hClosed : s.closed = s) : Host.supersededBy s = [] := by
  rw [Host.supersededBy, isPending_of_closed hClosed]
  rfl

/-- A closed session has nothing more to let go of. -/
theorem parting_of_closed (hClosed : s.closed = s) (l : Life) :
    Life.parting s (l.newest? s) = [.disposed] := by
  have hNewest : l.newest? s = none := by
    rw [← hClosed]
    rfl
  rw [Life.parting, hNewest, supersededBy_of_closed hClosed, presenter_of_closed hClosed]
  rfl

end Session

/-- A life goes on without a new run, and without anything that is noticed. -/
structure Trails (l l' : Life) : Prop where
  flights : ∀ f ∈ l'.flights, f ∈ l.flights
  history : ∃ es : List Happening, (∀ e ∈ es, e.isSilent = true) ∧ l'.history = es ++ l.history

namespace Trails

variable {w : Setup} {h h' : Host} {s : Session} {l l' l'' : Life}

theorem refl (l : Life) : Trails l l := ⟨fun _ hf => hf, [], by simp, rfl⟩

theorem trans (ht : Trails l l') (ht' : Trails l' l'') : Trails l l'' := by
  obtain ⟨es, hes, hHistory⟩ := ht.history
  obtain ⟨es', hes', hHistory'⟩ := ht'.history
  refine ⟨fun f hf => ht.flights f (ht'.flights f hf), es' ++ es, fun e he => ?_, ?_⟩
  · exact (List.mem_append.mp he).elim (hes' e) (hes e)
  · rw [hHistory', hHistory, List.append_assoc]

theorem release (hClosed : s.closed = s) (l : Life) : Trails l (l.release s) := by
  refine ⟨fun f hf => (Life.mem_flights_release.mp hf).1, [.disposed],
    by simp [Happening.isSilent], ?_⟩
  rw [Life.history_release, Session.parting_of_closed hClosed]
  rfl

/-- A move of a life that has come to its end is noticed by nobody. -/
theorem move (he : Ended l) (ht : ∀ s, l.session = some s → s.disposed = true → s.closed = s)
    (hMove : Host.Move w h h' l l') : Trails l l' := by
  have hClosed : ∀ {s : Session}, l.session = some s → s.closed = s :=
    fun hs => ht _ hs (he.disposed _ hs)
  have hOpen : ∀ {s : Session} {p : Prop}, l.session = some s → s.disposed = false → p :=
    fun hs hOpen => absurd ((he.disposed _ hs).symm.trans hOpen) (by decide)
  cases hMove with
  | opened => exact absurd he.history List.not_mem_nil
  | edited hs snapshot => exact ⟨fun _ hf => hf, (refl l).history⟩
  | notified hs hDisposed => exact hOpen hs hDisposed
  | @fired l l' s hs pre hPre hFire =>
    cases hFire with
    | off =>
      -- the timer of a closed session is not pending, so it neither elapses nor gives way
      have hNone : pre = [] := by
        rcases hPre with ⟨-, hPending⟩ | rfl
        · rw [Session.isPending_of_closed (hClosed hs)] at hPending
          exact absurd hPending (by decide)
        · exact Session.supersededBy_of_closed (hClosed hs)
      subst hNone
      exact ⟨fun _ hf => hf, (refl l).history⟩
    | started hDisposed => exact hOpen hs hDisposed
    | rejected hDisposed => exact hOpen hs hDisposed
  | @completed l l' f hf hLanding =>
    cases hLanding with
    | ignored =>
      exact ⟨fun g hg => (Life.mem_flights_land.mp hg).1, [.finished f.run f.result],
        by simp [Happening.isSilent], rfl⟩
    | presented hs hDisposed => exact hOpen hs hDisposed
  | disposed hs => exact ⟨(release (hClosed hs) l).flights, (release (hClosed hs) l).history⟩
  | left hs => exact ⟨(release (hClosed hs) l).flights, (release (hClosed hs) l).history⟩

theorem calls (ht : Trails l l') : l'.calls = l.calls := by
  obtain ⟨es, hes, hHistory⟩ := ht.history
  have hNone : es.filterMap Happening.call? = [] := by
    refine List.filterMap_eq_nil_iff.mpr fun e he => ?_
    have hSilent := hes e he
    cases e <;> simp_all [Happening.isSilent, Happening.call?]
  rw [Life.calls, hHistory, List.filterMap_append, hNone, List.nil_append, Life.calls]

/-- Nothing that is noticed is counted. -/
theorem countP_history (ht : Trails l l') {p : Happening → Bool}
    (hp : ∀ e : Happening, e.isSilent = true → p e = false) :
    l'.history.countP p = l.history.countP p := by
  obtain ⟨es, hes, hHistory⟩ := ht.history
  have hNone : es.countP p = 0 :=
    List.countP_eq_zero.mpr fun e he => by simp [hp e (hes e he)]
  rw [hHistory, List.countP_append, hNone, Nat.zero_add]

end Trails

namespace Host

/-- What one session has added to the telemetry. -/
def telemetry (h : Host) (n : Nat) : Telemetry :=
  .ofEntries (h.journal.filter (·.session = n))

section

variable {owner : Nat → EditorId} {w : Setup} {h h' g : Host} {s : Session}

theorem telemetry_of_trails {n : Nat} (ht : Trails (h.life n) (g.life n)) :
    g.telemetry n = h.telemetry n := by
  -- what is counted is told from the event of an entry, whatever session it names
  have hCount : ∀ p : Entry → Bool, (∀ e : Entry, p e = p ⟨n, 0, e.event⟩) →
      (∀ e : Happening, e.isSilent = true → p ⟨n, 0, e⟩ = false) →
        (g.journal.filter (·.session = n)).countP p =
          (h.journal.filter (·.session = n)).countP p := by
    intro p hEvent hSilent
    have hSame := ht.countP_history (p := fun e => p ⟨n, 0, e⟩) hSilent
    rw [life, life, List.countP_map, List.countP_map] at hSame
    have hRead : (fun e => p ⟨n, 0, e⟩) ∘ Entry.event = p := funext fun e => (hEvent e).symm
    rwa [hRead] at hSame
  simp only [telemetry, Telemetry.ofEntries, Telemetry.mk.injEq]
  refine ⟨hCount _ (fun _ => rfl) ?_, hCount _ (fun _ => rfl) ?_, hCount _ (fun _ => rfl) ?_,
    hCount _ (fun _ => rfl) ?_, hCount _ (fun _ => rfl) ?_, hCount _ (fun _ => rfl) ?_⟩ <;>
  · intro e he
    cases e <;> first | rfl | exact absurd he Bool.false_ne_true

/-- After the end of a session nothing of it is noticed. -/
theorem Leads.trails {n : Nat} (hr : Reachable w h) (he : Ended (h.life n)) (hl : Leads w h g) :
    Trails (h.life n) (g.life n) := by
  obtain ⟨owner, hs⟩ := hr.sound
  have hClosed : ∀ s, (h.life n).session = some s → s.disposed = true → s.closed = s := by
    intro s hSome
    obtain ⟨hm, -⟩ := hs.numbered?_eq_some.mp hSome
    exact hr.closed_of_disposed hm
  have hKeep := Leads.life
    (P := fun l => Ended l ∧ (∀ s, l.session = some s → s.disposed = true → s.closed = s) ∧
      Trails (h.life n) l) ⟨owner, hs⟩ ⟨he, hClosed, .refl _⟩ (fun _ ht hMove => ?_) hl
  · exact hKeep.2.2
  · obtain ⟨he, hClosed, ht⟩ := ht
    exact ⟨(he.move hMove).1, hMove.closed_of_disposed hClosed, ht.trans (.move he hClosed hMove)⟩

/-- A run that is left to finish after the end of its session is not heard. -/
theorem complete_of_ended {f : Flight} (he : Ended (h.life f.session)) :
    h.complete w f = { h.land f.run with
      journal := ⟨f.session, f.editor, .finished f.run f.result⟩ :: h.journal } := by
  unfold Host.complete
  dsimp only
  split
  · rfl
  · rename_i t ht
    rw [if_pos]
    simp [he.disposed t ht]

/-- **A session is silent after its end.**  Whatever happens afterwards, it makes no call to the
surface, adds nothing to the telemetry and starts no run; where the host still has it, it is idle,
its timer is not pending and it shows nothing.  Runs that it has left to finish complete without
touching any session, that of the same editor included. -/
theorem Disposal.silent (hr : Reachable w h) (hm : s ∈ h.sessions)
    (hd : Disposal w h s.editor h') (hl : Leads w h' g) :
    (g.life s.number).calls = (h'.life s.number).calls ∧
    g.telemetry s.number = h'.telemetry s.number ∧
    (∀ f ∈ g.flights, f.session = s.number → f ∈ h'.flights) ∧
    (∀ t ∈ g.sessions, t.number = s.number →
      t.phase = .idle ∧ t.timer.isPending = false ∧ ∀ kind, t.presenter.active? kind = none) ∧
    ∀ f ∈ g.flights, f.session = s.number →
      (g.complete w f).sessions = g.sessions ∧
        ∀ n, n ≠ s.number → (g.complete w f).life n = g.life n := by
  obtain ⟨owner, hs⟩ := hr.sound
  have hr' : Reachable w h' := hr.trans (hd.leads hs)
  have hg : Reachable w g := hr'.trans hl
  have hEnded : Ended (h'.life s.number) := (hd.remains hs hm).ended
  have hEnded' : Ended (g.life s.number) := hl.ended hr'.sound hEnded
  have hTrails := Leads.trails hr' hEnded hl
  obtain ⟨owner', hSound⟩ := hg.sound
  refine ⟨hTrails.calls, telemetry_of_trails hTrails, fun f hf hOwn => ?_, fun t ht hn => ?_,
    fun f hf hOwn => ⟨?_, fun n hn => ?_⟩⟩
  · exact (mem_flights_life.mp (hTrails.flights f (mem_flights_life.mpr ⟨hf, hOwn⟩))).1
  · have hClosed : t.closed = t :=
      hg.closed_of_disposed ht (hEnded'.disposed t (hn ▸ hSound.life_session ht))
    refine ⟨Session.phase_of_closed hClosed, Session.isPending_of_closed hClosed, fun kind => ?_⟩
    rw [Session.presenter_of_closed hClosed, Presenter.active?_empty]
  · rw [complete_of_ended (hOwn ▸ hEnded')]
    rfl
  · exact hSound.life_act_of_ne (a := .complete f) hf
      fun h => hn ((Option.some.inj h).symm.trans hOwn)

/-- The editor of two overlapping runs is opened again, and changes before the first of them
completes. -/
def succeeded : Host := (overlapping.openEditor (sample fun _ => 1000) 1 ⟨⟨[]⟩, 0⟩).notify 1

theorem silent_succeeded :
    ∃ s ∈ overlapping.sessions, ∃ f ∈ succeeded.flights, f.session = s.number ∧
      ∃ t ∈ succeeded.sessions, t.editor = s.editor ∧ t.number ≠ s.number ∧ t.phase = .pending ∧
        (succeeded.complete (sample fun _ => 1000) f).sessions = succeeded.sessions ∧
        (succeeded.life s.number).calls =
          ((overlapping.openEditor (sample fun _ => 1000) 1 ⟨⟨[]⟩, 0⟩).life s.number).calls := by
  obtain ⟨s, hm, hNumber, hEditor⟩ :
    ∃ s ∈ overlapping.sessions, s.number = 0 ∧ s.editor = 1 := by decide
  obtain ⟨f, hf, hOwn⟩ : ∃ f ∈ succeeded.flights, f.session = 0 := by decide
  obtain ⟨t, ht, he, hn, hPhase⟩ :
    ∃ t ∈ succeeded.sessions, t.editor = 1 ∧ t.number = 1 ∧ t.phase = .pending := by decide
  have hd : Disposal (sample fun _ => 1000) overlapping s.editor
      (overlapping.openEditor (sample fun _ => 1000) 1 ⟨⟨[]⟩, 0⟩) := by
    rw [hEditor]
    exact .reopened _
  have hl : Leads (sample fun _ => 1000)
      (overlapping.openEditor (sample fun _ => 1000) 1 ⟨⟨[]⟩, 0⟩) succeeded :=
    .single (.notify 1) trivial
  obtain ⟨hCalls, -, -, -, hLate⟩ := Disposal.silent reachable_overlapping hm hd hl
  refine ⟨s, hm, f, hf, hOwn.trans hNumber.symm, t, ht, he.trans hEditor.symm, ?_, hPhase,
    (hLate f hf (hOwn.trans hNumber.symm)).1, hCalls⟩
  rw [hn, hNumber]
  decide

end

end Host

end LiveLine
