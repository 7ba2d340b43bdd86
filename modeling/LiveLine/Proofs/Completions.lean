import LiveLine.Proofs.Ownership
import LiveLine.Proofs.Parts
import LiveLine.Proofs.Phases

/-!
# Completions that are heeded

A run that completes is heeded if its session has not come to its end before and, under the cancel
policy, no later evaluation has superseded the run.  Both can be read off the history of the
session.  The surface hears of a run when it is heeded, and of no other.

* `Chronicled`: the end of a session is written down in its history.
* `Host.Heeds`, `Host.Reachable.exists_attends_iff`: which runs a session takes notice of.
* `Host.Sound.calls_complete`: what the surface is told of a run.
-/

namespace LiveLine

/-- A session that is not there, although it has runs in flight, or is there and disposed has its
end in its history; any other has not. -/
structure Chronicled (l : Life) : Prop where
  disposed : ∀ s, l.session = some s → (s.disposed = true ↔ .disposed ∈ l.history)
  gone : l.session = none → l.flights ≠ [] → .disposed ∈ l.history

namespace Chronicled

theorem disposed_mem_record {l : Life} {es : List Happening} (hes : .disposed ∉ es) :
    .disposed ∈ (l.record es).history ↔ .disposed ∈ l.history := by
  simp [hes]

theorem disposed_not_mem_supersededBy (s : Session) : .disposed ∉ Host.supersededBy s := by
  unfold Host.supersededBy
  split <;> simp

theorem disposed_mem_supersede {w : Setup} {l : Life} {s : Session} :
    .disposed ∈ (l.supersede w s).history ↔ .disposed ∈ l.history := by
  unfold Life.supersede
  split
  · split
    · exact disposed_mem_record (by simp)
    · rfl
  · rfl

theorem disposed_not_mem_hearing (w : Setup) (issued : Nat) (s : Session) (f : Flight) :
    .disposed ∉ s.hearing w issued f := by
  unfold Session.hearing Host.fateEntries
  cases (s.presentation w issued f).fate <;> simp

theorem disposed_mem_release (l : Life) (s : Session) : .disposed ∈ (l.release s).history := by
  rw [Life.history_release]
  simp [Life.parting]

variable {w : Setup} {h h' : Host} {l l' : Life} {s : Session}

/-- A session that is there is all there is to say. -/
theorem of_session (hs : l.session = some s)
    (hEnd : s.disposed = true ↔ .disposed ∈ l.history) : Chronicled l where
  disposed := by
    intro t ht
    obtain rfl := Option.some.inj (hs.symm.trans ht)
    exact hEnd
  gone hNone := absurd (hs.symm.trans hNone) (Option.some_ne_none s)

theorem not_mem_of_open (hc : Chronicled l) (hs : l.session = some s)
    (hOpen : s.disposed = false) : .disposed ∉ l.history :=
  mt (hc.disposed s hs).mpr (by simp [hOpen])

theorem fired (hc : Chronicled l) (hs : l.session = some s) {pre : List Happening}
    (hPre : .disposed ∉ pre)
    (hFire : Host.Fire w h h' { s with timer := s.timer.cancel }
      ((l.record pre).hold { s with timer := s.timer.cancel }) l') : Chronicled l' := by
  have hSame := (hc.disposed s hs).trans (disposed_mem_record hPre).symm
  have hEvaluated : ∀ es : List Happening, .disposed ∉ es →
      (.disposed ∈ ((((l.record pre).hold { s with timer := s.timer.cancel }).supersede w
        { s with timer := s.timer.cancel }).record es).history ↔
          .disposed ∈ (l.record pre).history) :=
    fun es hes => (disposed_mem_record hes).trans disposed_mem_supersede
  cases hFire with
  | off => exact .of_session rfl hSame
  | started => exact .of_session rfl (hSame.trans (hEvaluated _ (by simp)).symm)
  | rejected => exact .of_session rfl (hSame.trans (hEvaluated _ (by simp)).symm)

theorem landed (hc : Chronicled l) {f : Flight} (hf : f ∈ l.flights)
    (hLanding : Host.Landing w h h' f l l') : Chronicled l' := by
  have hMem : .disposed ∈ ((l.land f.run).record [.finished f.run f.result]).history ↔
      .disposed ∈ l.history := disposed_mem_record (by simp)
  cases hLanding with
  | ignored =>
    exact ⟨fun s hs => (hc.disposed s hs).trans hMem.symm,
      fun hNone _ => hMem.mpr (hc.gone hNone (List.ne_nil_of_mem hf))⟩
  | @presented s hs hDisposed =>
    refine .of_session rfl (iff_of_false (by simp [Session.heard, hDisposed]) ?_)
    exact mt (disposed_mem_record (disposed_not_mem_hearing w h.issued s f)).mp
      (mt hMem.mp (hc.not_mem_of_open hs hDisposed))

/-- Every move of a life keeps its chronicle. -/
theorem move (hc : Chronicled l) (hMove : Host.Move w h h' l l') : Chronicled l' := by
  cases hMove with
  | opened id snapshot =>
    exact .of_session rfl (iff_of_false (by simp [Setup.session]) (by simp [Life.hold]))
  | @edited l s hs snapshot => exact .of_session rfl (hc.disposed s hs)
  | @notified l s hs hDisposed =>
    have hEntries : .disposed ∉ Host.supersededBy s ++ [.scheduled] := by
      simp [disposed_not_mem_supersededBy]
    exact .of_session rfl ((hc.disposed s hs).trans (disposed_mem_record hEntries).symm)
  | @fired l l' s hs pre hPre hFire =>
    refine hc.fired hs ?_ hFire
    rcases hPre with ⟨rfl, -⟩ | rfl
    · simp
    · exact disposed_not_mem_supersededBy s
  | completed hf hLanding => exact hc.landed hf hLanding
  | @disposed l s hs => exact .of_session rfl (iff_of_true rfl (disposed_mem_release l s))
  | @left l s hs => exact ⟨fun t ht => absurd ht (by simp), fun _ _ => disposed_mem_release l s⟩

end Chronicled

namespace Host

/-- Whether a run that completes is heeded: the session that started it has not come to its end
and, under the cancel policy, has evaluated no line since. -/
def Heeds (w : Setup) (h : Host) (f : Flight) : Prop :=
  .disposed ∉ (h.life f.session).history ∧
    (w.onSupersede = .cancel → (h.life f.session).lastFire? = some (some f.run))

instance (w : Setup) (h : Host) (f : Flight) : Decidable (h.Heeds w f) :=
  inferInstanceAs (Decidable (_ ∧ _))

section

variable {owner : Nat → EditorId} {w : Setup} {h h' : Host} {s : Session} {f : Flight} {a : Act}

theorem Reachable.chronicled (hr : Reachable w h) (n : Nat) : Chronicled (h.life n) :=
  Leads.life (P := Chronicled) ⟨fun _ => 0, Sound.initial⟩
    ⟨fun s hs => absurd hs (by simp [Host.life, numbered?]),
      fun _ hFlights => absurd rfl hFlights⟩
    (fun _ hc hMove => hc.move hMove) hr

/-- **The session of a run takes notice of it just when the run is heeded.** -/
theorem Reachable.exists_attends_iff (hr : Reachable w h) (hf : f ∈ h.flights) :
    (∃ s, h.numbered? f.session = some s ∧ s.attends w f) ↔ h.Heeds w f := by
  obtain ⟨owner, hs⟩ := hr.sound
  have hChronicled := hr.chronicled f.session
  have hFlight : f ∈ (h.life f.session).flights := mem_flights_life.mpr ⟨hf, rfl⟩
  have hCurrent : ∀ s, h.numbered? f.session = some s →
      (s.outdates f = false ↔ (h.life f.session).lastFire? = some (some f.run)) := by
    intro s hSome
    obtain ⟨hm, hn⟩ := hs.numbered?_eq_some.mp hSome
    have hTracked := hr.tracked hm
    rw [hn] at hTracked
    exact hTracked.current f hFlight
  constructor
  · rintro ⟨s, hSome, -, hDisposed, hHeard⟩
    refine ⟨fun hMem => ?_, fun hCancel => (hCurrent s hSome).mp ?_⟩
    · exact absurd (hDisposed.symm.trans ((hChronicled.disposed s hSome).mpr hMem)) (by decide)
    · exact hHeard.resolve_right fun hFinish => absurd (hCancel.symm.trans hFinish) (by decide)
  · rintro ⟨hOpen, hLast⟩
    cases hSome : h.numbered? f.session with
    | none => exact absurd (hChronicled.gone hSome (List.ne_nil_of_mem hFlight)) hOpen
    | some s =>
      refine ⟨s, rfl, (hs.numbered?_eq_some.mp hSome).2, ?_, ?_⟩
      · simpa using mt (hChronicled.disposed s hSome).mp hOpen
      · cases hPolicy : w.onSupersede with
        | finish => exact Or.inr rfl
        | cancel => exact Or.inl ((hCurrent s hSome).mpr (hLast hPolicy))

/-! ### Runs in flight -/

theorem Move.mem_flights {l l' : Life} (hMove : Move w h h' l l') (hf : f ∈ l'.flights) :
    f ∈ l.flights ∨ f.run = h.started := by
  cases hMove with
  | opened => exact absurd hf List.not_mem_nil
  | edited | notified => exact Or.inl hf
  | fired hs hPre hFire =>
    cases hFire with
    | off => exact Or.inl hf
    | started =>
      rcases Life.mem_flights_launch.mp hf with hf | rfl
      · exact Or.inl (Life.mem_flights_supersede.mp hf).1
      · exact Or.inr rfl
    | rejected => exact Or.inl (Life.mem_flights_supersede.mp hf).1
  | completed _ hLanding =>
    cases hLanding with
    | ignored | presented => exact Or.inl (Life.mem_flights_land.mp hf).1
  | disposed | left => exact Or.inl (Life.mem_flights_release.mp hf).1

/-- A run in flight after an act was in flight before, or is new. -/
theorem Sound.mem_flights_act (hs : Sound owner h) (possible : a.Possible h)
    (hf : f ∈ (h.act w a).flights) : f ∈ h.flights ∨ f.run = h.started := by
  have hFlight : f ∈ ((h.act w a).life f.session).flights := mem_flights_life.mpr ⟨hf, rfl⟩
  rcases (hs.turn possible).life with hSame | ⟨n, l', hMove, hLife⟩
  · rw [hSame] at hFlight
    exact Or.inl (mem_flights_life.mp hFlight).1
  · rw [hLife] at hFlight
    by_cases hn : f.session = n
    · subst hn
      rw [Function.update_self] at hFlight
      exact (hMove.mem_flights hFlight).imp_left fun hf => (mem_flights_life.mp hf).1
    · rw [Function.update_of_ne hn] at hFlight
      exact Or.inl (mem_flights_life.mp hFlight).1

theorem flights_complete (w : Setup) (h : Host) (f : Flight) :
    (h.complete w f).flights = (h.land f.run).flights := by
  unfold complete
  dsimp only
  split
  · rfl
  · split <;> rfl

/-! ### What the surface is told -/

theorem calls_log (h : Host) (s : Session) (es : List Happening) :
    (h.log s es).calls = h.calls ++ (es.filterMap Happening.call?).map (s.editor, ·) := by
  have hEntries : surfaceCalls (es.map s.entry) =
      (es.filterMap Happening.call?).map (s.editor, ·) := by
    rw [surfaceCalls, List.filterMap_map, List.map_filterMap]
    refine List.filterMap_congr fun e _ => ?_
    cases e <;> rfl
  rw [calls, calls, ← hEntries, surfaceCalls, surfaceCalls, surfaceCalls, log,
    List.reverse_append, List.reverse_reverse, List.filterMap_append]

/-- A host once a run is out of the air, before the session of the run takes notice. -/
def finish (h : Host) (f : Flight) : Host :=
  { h.land f.run with journal := ⟨f.session, f.editor, .finished f.run f.result⟩ :: h.journal }

@[simp] theorem calls_finish (h : Host) (f : Flight) : (h.finish f).calls = h.calls := by
  rw [calls, finish, List.reverse_cons, surfaceCalls, List.filterMap_append]
  exact List.append_nil _

theorem complete_of_attends (hSome : h.numbered? f.session = some s) (hAttends : s.attends w f) :
    h.complete w f = (h.finish f).presentResult w s f := by
  obtain ⟨-, hDisposed, hHeard⟩ := hAttends
  have hFound : (h.finish f).numbered? f.session = some s := hSome
  have hIn : ¬ (s.disposed || (f.generation ≠ s.generation && w.onSupersede = .cancel)) = true := by
    rw [Session.outdates] at hHeard
    cases hPolicy : w.onSupersede <;> simp_all
  rw [complete, ← finish, hFound]
  exact if_neg hIn

theorem Sound.complete_of_ignored (hs : Sound owner h)
    (hIgnored : ¬ ∃ s, h.numbered? f.session = some s ∧ s.attends w f) :
    h.complete w f = h.finish f := by
  rw [Host.complete, ← finish]
  cases hSome : (h.finish f).numbered? f.session with
  | none => rfl
  | some s =>
    have hn := (hs.numbered?_eq_some.mp (show h.numbered? f.session = some s from hSome)).2
    refine if_pos ?_
    by_contra hIn
    refine hIgnored ⟨s, hSome, hn, ?_⟩
    rw [Session.outdates]
    cases hPolicy : w.onSupersede <;> simp_all

/-- What the surface is told of a run of which its session takes notice: decorations first, and the
alert after them. -/
theorem Sound.calls_complete (hs : Sound owner h) (hf : f ∈ h.flights)
    (hSome : h.numbered? f.session = some s) (hAttends : s.attends w f) :
    (h.complete w f).calls = h.calls ++ ((s.presentation w h.issued f).calls ++
      ((f.verdict w).alert.map SurfaceCall.alert).toList).map (f.editor, ·) := by
  have he : s.editor = f.editor :=
    (hs.mem_of_session? ((hs.numbered?_of_flight hf).mp hSome).1).2
  have hLog := calls_log (h.finish f) s (s.hearing w h.issued f)
  rw [calls_finish, filterMap_hearing, he] at hLog
  rw [complete_of_attends hSome hAttends]
  exact hLog

end

end Host

end LiveLine
