import LiveLine.Proofs.Parts
import Mathlib.Data.List.Forall2

/-!
# What can be told of a life without names

Sessions, runs and decorations are numbered over a whole host.  The view of a life is what is left
when these names are taken away: of a run in flight, whether the session that is open started it
and whether that session can abort it; of everything else, all but the numbers.  What an update
makes of a life without names depends on the life without names only.

* `Life.view`: a life without names.
* `view_hold`, `view_supersede`, `view_release`, `view_launch`, `view_complete`: equal views stay
  equal.
-/

namespace LiveLine

def SurfaceCall.anonymous : SurfaceCall → SurfaceCall
  | apply _ decoration => apply 0 decoration
  | remove _ => remove 0
  | alert message => alert message

def Happening.anonymous : Happening → Happening
  | cancelled _ => cancelled 0
  | started _ request => started 0 request
  | finished _ result => finished 0 result
  | called call => called call.anonymous
  | aborted _ => aborted 0
  | e => e

def Shown.anonymous (s : Shown) : Shown := { s with decorations := s.decorations.map fun _ => 0 }

def Presenter.anonymous (p : Presenter) : Presenter :=
  ⟨p.output.map Shown.anonymous, p.error.map Shown.anonymous⟩

def Session.anonymous (s : Session) : Session :=
  { s with number := 0, presenter := s.presenter.anonymous, newest := none }

/-- A run in flight without its number. -/
structure Sight where
  generation : Nat
  request : Request
  due : Nat
  result : RunResult
  /-- Whether the session that is open started the run. -/
  isOwn : Bool
  /-- Whether the session that is open can abort the run. -/
  isNewest : Bool
  deriving DecidableEq, Repr

/-- The run as it looks where no session is open. -/
def Sight.strange (x : Sight) : Sight := { x with isOwn := false, isNewest := false }

/-- What a session, or its absence, sees of a run in flight. -/
def Flight.sight (s? : Option Session) (f : Flight) : Sight where
  generation := f.generation
  request := f.request
  due := f.due
  result := f.result
  isOwn := s?.any (·.number = f.session)
  isNewest := s?.any (·.newest = some f.run)

/-- A life without names. -/
structure View where
  session : Option Session
  flights : List Sight
  history : List Happening
  deriving DecidableEq, Repr

namespace Life

def view (l : Life) : View where
  session := l.session.map Session.anonymous
  flights := l.flights.map (Flight.sight l.session)
  history := l.history.map Happening.anonymous

end Life

/-- Setups that differ in what runs do and in the names of decorations at most. -/
structure Setup.Agrees (w w' : Setup) : Prop where
  debounce : w.debounce = w'.debounce
  colors : w.colors = w'.colors
  onSupersede : w.onSupersede = w'.onSupersede
  evaluates : w.evaluates = w'.evaluates

namespace Session

/-- Two sessions that differ in their names at most. -/
structure Alike (s t : Session) : Prop where
  editor : s.editor = t.editor
  snapshot : s.snapshot = t.snapshot
  timer : s.timer = t.timer
  phase : s.phase = t.phase
  presenter : s.presenter.anonymous = t.presenter.anonymous
  generation : s.generation = t.generation
  disposed : s.disposed = t.disposed

theorem anonymous_eq_iff {s t : Session} : s.anonymous = t.anonymous ↔ s.Alike t := by
  constructor
  · intro h
    simp only [anonymous, mk.injEq, true_and] at h
    obtain ⟨h₁, h₂, h₃, h₄, h₅, h₆, h₇⟩ := h
    exact ⟨h₁, h₂, h₃, h₄, h₅, h₆, h₇⟩
  · rintro ⟨h₁, h₂, h₃, h₄, h₅, h₆, h₇⟩
    simp only [anonymous, h₁, h₂, h₃, h₄, h₅, h₆, h₇]

end Session

/-! ### Presenting -/

section Presenting

variable {p p' : Presenter} {d : Document} {a : Annotation} {issued issued' : Nat}
  {ids ids' : Nat → Decoration.Id}

theorem map_anonymous_removeCalls (s? : Option Shown) :
    (Shown.removeCalls s?).map SurfaceCall.anonymous =
      Shown.removeCalls (s?.map Shown.anonymous) := by
  cases s? with
  | none => rfl
  | some s => simp [Shown.removeCalls, Shown.anonymous, SurfaceCall.anonymous, Function.comp_def]

theorem map_anonymous_applyCalls (ds : List Decoration) :
    (applyCalls ids issued ds).map SurfaceCall.anonymous = ds.map (.apply 0) := by
  induction ds generalizing issued with
  | nil => rfl
  | cons d ds ih => exact congrArg (_ :: ·) ih

namespace Presenter

theorem map_anonymous_clearCalls (p : Presenter) :
    p.clearCalls.map SurfaceCall.anonymous = p.anonymous.clearCalls := by
  rw [clearCalls, List.map_append, map_anonymous_removeCalls, map_anonymous_removeCalls]
  rfl

theorem shown?_anonymous (p : Presenter) (kind : Annotation.Kind) :
    p.anonymous.shown? kind = (p.shown? kind).map Shown.anonymous := by
  cases kind <;> rfl

theorem active?_anonymous (p : Presenter) (kind : Annotation.Kind) :
    p.anonymous.active? kind = p.active? kind := by
  rw [active?, shown?_anonymous, Option.map_map]
  rfl

theorem put_anonymous (p : Presenter) (kind : Annotation.Kind) (s? : Option Shown) :
    (p.put kind s?).anonymous = p.anonymous.put kind (s?.map Shown.anonymous) := by
  cases kind <;> rfl

/-- What is presented, and how, is the same whatever the decorations are called. -/
theorem present_alike (hp : p.anonymous = p'.anonymous) :
    (p.present d issued a ids).presenter.anonymous =
        (p'.present d issued' a ids').presenter.anonymous ∧
      (p.present d issued a ids).calls.map SurfaceCall.anonymous =
        (p'.present d issued' a ids').calls.map SurfaceCall.anonymous ∧
      (p.present d issued a ids).fate = (p'.present d issued' a ids').fate := by
  have hShown : (p.shown? a.kind).map Shown.anonymous = (p'.shown? a.kind).map Shown.anonymous := by
    rw [← shown?_anonymous, ← shown?_anonymous, hp]
  unfold present
  split
  · refine ⟨rfl, ?_, rfl⟩
    rw [map_anonymous_clearCalls, map_anonymous_clearCalls, hp]
  · dsimp only
    split
    · refine ⟨?_, ?_, rfl⟩
      · rw [put_anonymous, put_anonymous, hp]
        simp [Shown.anonymous, Function.comp_def]
      · simp only [List.map_append, map_anonymous_removeCalls, map_anonymous_applyCalls, hShown]
    · refine ⟨?_, ?_, rfl⟩
      · rw [put_anonymous, put_anonymous, hp]
      · rw [map_anonymous_removeCalls, map_anonymous_removeCalls, hShown]

end Presenter

end Presenting

/-! ### Sessions that are alike -/

namespace Session.Alike

variable {w w' : Setup} {s s' : Session} {f f' : Flight} {issued issued' : Nat}
  {s? s?' : Option Session}

theorem map_anonymous_called (calls : List SurfaceCall) :
    (calls.map Happening.called).map Happening.anonymous =
      (calls.map SurfaceCall.anonymous).map .called := by
  simp [Function.comp_def, Happening.anonymous]

theorem request (hs : s.Alike s') : s.request = s'.request := by
  rw [Session.request, Session.request, hs.snapshot]

theorem evaluated (hs : s.Alike s') : (s.evaluated w).Alike (s'.evaluated w') :=
  ⟨hs.editor, hs.snapshot, hs.timer, hs.phase, hs.presenter, congrArg (· + 1) hs.generation,
    hs.disposed⟩

theorem closed (hs : s.Alike s') : s.closed.Alike s'.closed :=
  ⟨hs.editor, hs.snapshot, congrArg Debouncer.cancel hs.timer, rfl, rfl, hs.generation, rfl⟩

theorem supersededBy (hs : s.Alike s') :
    (Host.supersededBy s).map Happening.anonymous =
      (Host.supersededBy s').map Happening.anonymous := by
  rw [Host.supersededBy, Host.supersededBy, hs.timer]

theorem clearCalls (hs : s.Alike s') :
    (s.presenter.clearCalls.map Happening.called).map Happening.anonymous =
      (s'.presenter.clearCalls.map Happening.called).map Happening.anonymous := by
  rw [map_anonymous_called, map_anonymous_called, Presenter.map_anonymous_clearCalls,
    Presenter.map_anonymous_clearCalls, hs.presenter]

theorem parting (hs : s.Alike s') {abort abort' : Option RunNumber}
    (hAbort : abort.isSome = abort'.isSome) :
    (Life.parting s abort).map Happening.anonymous =
      (Life.parting s' abort').map Happening.anonymous := by
  have hAborted : (abort.map Happening.aborted).toList.map Happening.anonymous =
      (abort'.map Happening.aborted).toList.map Happening.anonymous := by
    cases abort <;> cases abort' <;> first | rfl | cases hAbort
  simp only [Life.parting, List.map_append, hs.supersededBy, hs.clearCalls, hAborted]

theorem verdict (hw : w.Agrees w') (hf : f.sight s? = f'.sight s?') :
    f.verdict w = f'.verdict w' := by
  simp only [Flight.sight, Sight.mk.injEq] at hf
  rw [Flight.verdict, Flight.verdict, hw.colors, hf.2.1, hf.2.2.2.1]

theorem outdates (hs : s.Alike s') (hf : f.sight s? = f'.sight s?') :
    s.outdates f = s'.outdates f' := by
  simp only [Flight.sight, Sight.mk.injEq] at hf
  rw [Session.outdates, Session.outdates, hf.1, hs.generation]

theorem presentation (hw : w.Agrees w') (hs : s.Alike s') (hf : f.sight s? = f'.sight s?')
    (issued issued' : Nat) :
    (s.presentation w issued f).presenter.anonymous =
        (s'.presentation w' issued' f').presenter.anonymous ∧
      (s.presentation w issued f).calls.map SurfaceCall.anonymous =
        (s'.presentation w' issued' f').calls.map SurfaceCall.anonymous ∧
      (s.presentation w issued f).fate = (s'.presentation w' issued' f').fate := by
  rw [Session.presentation, Session.presentation, verdict hw hf, hs.snapshot]
  exact Presenter.present_alike hs.presenter

theorem fateEntries (hs : s.Alike s') (v : Verdict) (stale : Bool) {p p' : Presentation}
    (hFate : p.fate = p'.fate) :
    Host.fateEntries s v stale p = Host.fateEntries s' v stale p' := by
  simp only [Host.fateEntries, hs.snapshot, hFate]

theorem hearing (hw : w.Agrees w') (hs : s.Alike s') (hf : f.sight s? = f'.sight s?')
    (issued issued' : Nat) :
    (s.hearing w issued f).map Happening.anonymous =
      (s'.hearing w' issued' f').map Happening.anonymous := by
  obtain ⟨-, hCalls, hFate⟩ := presentation hw hs hf issued issued'
  have hLine : f.request.targetLine = f'.request.targetLine := by
    simp only [Flight.sight, Sight.mk.injEq] at hf
    rw [hf.2.1]
  rw [Session.hearing, Session.hearing, verdict hw hf, hs.fateEntries _ _ hFate, hs.outdates hf,
    hLine]
  simp only [List.map_append, List.map_cons, map_anonymous_called, hCalls]

theorem heard (hw : w.Agrees w') (hs : s.Alike s') (hf : f.sight s? = f'.sight s?')
    (issued issued' : Nat) : (s.heard w issued f).Alike (s'.heard w' issued' f') := by
  obtain ⟨hPresenter, -, hFate⟩ := presentation hw hs hf issued issued'
  refine ⟨hs.editor, hs.snapshot, hs.timer, ?_, hPresenter, hs.generation, hs.disposed⟩
  simp only [Session.heard, Session.phaseAfter, hs.phase, hs.outdates hf, verdict hw hf, hFate]

end Session.Alike

namespace Life

variable {w w' : Setup} {l l' : Life} {s s' t t' : Session} {f f' : Flight}
  {es es' : List Happening}

/-! ### What updates leave of the runs in flight -/

@[simp] theorem session_supersede (l : Life) (s : Session) :
    (l.supersede w s).session = l.session := by
  unfold supersede
  split
  · split <;> rfl
  · rfl

@[simp] theorem session_release (l : Life) (s : Session) : (l.release s).session = l.session := by
  unfold release
  split <;> rfl

/-- Taking the run that a session can abort out of the air. -/
theorem flights_newest? (l : Life) (s : Session) :
    ((l.newest? s).elim l l.land).flights = l.flights.filter fun f => s.newest ≠ some f.run := by
  cases hRun : l.newest? s with
  | none =>
    refine (List.filter_eq_self.mpr fun f hf => ?_).symm
    simp only [decide_eq_true_eq]
    intro hNewest
    have hSome := newest?_eq_some.mpr ⟨hNewest, f, hf, rfl⟩
    exact absurd (hRun.symm.trans hSome) (by simp)
  | some run =>
    obtain ⟨hNewest, -⟩ := newest?_eq_some.mp hRun
    simp only [Option.elim, land, hNewest, Option.some.injEq, ne_eq, eq_comm]

theorem flights_supersede (l : Life) (s : Session) :
    (l.supersede w s).flights =
      if w.onSupersede = .cancel then l.flights.filter fun f => s.newest ≠ some f.run
      else l.flights := by
  rw [← flights_newest?]
  unfold supersede
  split
  · split <;> simp_all
  · rfl

theorem history_supersede (l : Life) (s : Session) :
    (l.supersede w s).history =
      (if w.onSupersede = .cancel then ((l.newest? s).map .cancelled).toList else []) ++
        l.history := by
  unfold supersede
  split
  · split <;> simp_all
  · rfl

theorem flights_release (l : Life) (s : Session) :
    (l.release s).flights = l.flights.filter fun f => s.newest ≠ some f.run := by
  rw [← flights_newest?]
  unfold release
  split <;> simp_all [land]

/-! ### Equal views stay equal -/

theorem view_eq_iff :
    l.view = l'.view ↔
      l.session.map Session.anonymous = l'.session.map Session.anonymous ∧
        l.flights.map (Flight.sight l.session) = l'.flights.map (Flight.sight l'.session) ∧
        l.history.map Happening.anonymous = l'.history.map Happening.anonymous :=
  View.mk.injEq .. |>.to_iff

theorem exists_session_of_view (hl : l.view = l'.view) (hs : l.session = some s) :
    ∃ s', l'.session = some s' ∧ s.Alike s' := by
  obtain ⟨hSession, -, -⟩ := view_eq_iff.mp hl
  rw [hs, Option.map_some] at hSession
  obtain ⟨s', hs', hAlike⟩ := Option.map_eq_some_iff.mp hSession.symm
  exact ⟨s', hs', Session.anonymous_eq_iff.mp hAlike.symm⟩

theorem session_eq_none_of_view (hl : l.view = l'.view) (hs : l.session = none) :
    l'.session = none := by
  obtain ⟨hSession, -, -⟩ := view_eq_iff.mp hl
  rw [hs] at hSession
  exact Option.map_eq_none_iff.mp hSession.symm

theorem alike_of_view (hl : l.view = l'.view) (hs : l.session = some s)
    (hs' : l'.session = some s') : s.Alike s' := by
  obtain ⟨t, ht, hAlike⟩ := exists_session_of_view hl hs
  rwa [Option.some.inj (hs'.symm.trans ht)]

theorem sights_of_view (hl : l.view = l'.view) (hs : l.session = some s)
    (hs' : l'.session = some s') :
    l.flights.map (Flight.sight (some s)) = l'.flights.map (Flight.sight (some s')) := by
  rw [← hs, ← hs']
  exact (view_eq_iff.mp hl).2.1

theorem view_record (hl : l.view = l'.view)
    (hes : es.map Happening.anonymous = es'.map Happening.anonymous) :
    (l.record es).view = (l'.record es').view := by
  obtain ⟨hSession, hFlights, hHistory⟩ := view_eq_iff.mp hl
  refine view_eq_iff.mpr ⟨hSession, hFlights, ?_⟩
  simp only [history_record, List.map_append, List.map_reverse, hes, hHistory]

/-- A session that takes the place of another, for which the runs in flight look as they should. -/
theorem view_hold (hl : l.view = l'.view) (ht : t.Alike t')
    (hFlights : l.flights.map (Flight.sight (some t)) = l'.flights.map (Flight.sight (some t'))) :
    (l.hold t).view = (l'.hold t').view :=
  view_eq_iff.mpr ⟨congrArg some (Session.anonymous_eq_iff.mpr ht), hFlights,
    (view_eq_iff.mp hl).2.2⟩

/-- Runs look the same to two states of a session that can abort the same of them. -/
theorem map_sight_eq {fs : List Flight} (hNumber : t.number = s.number)
    (hNewest : ∀ f ∈ fs, t.newest = some f.run ↔ s.newest = some f.run) :
    fs.map (Flight.sight (some t)) = fs.map (Flight.sight (some s)) := by
  refine List.map_congr_left fun f hf => ?_
  simp only [Flight.sight, Option.any_some, hNumber, hNewest f hf]

/-- A session that keeps its number and the run that it can abort. -/
theorem view_hold_same (hl : l.view = l'.view) (hs : l.session = some s)
    (hs' : l'.session = some s') (ht : t.Alike t') (hNumber : t.number = s.number)
    (hNumber' : t'.number = s'.number) (hNewest : t.newest = s.newest)
    (hNewest' : t'.newest = s'.newest) : (l.hold t).view = (l'.hold t').view := by
  refine view_hold hl ht ?_
  rw [map_sight_eq hNumber fun f _ => by rw [hNewest],
    map_sight_eq hNumber' fun f _ => by rw [hNewest']]
  exact sights_of_view hl hs hs'

/-- The runs that a session cannot abort are those that do not look so. -/
theorem map_sight_filter (fs : List Flight) (s : Session) :
    (fs.filter fun f => s.newest ≠ some f.run).map (Flight.sight (some s)) =
      (fs.map (Flight.sight (some s))).filter (!·.isNewest) := by
  rw [List.filter_map]
  congr 1
  refine List.filter_congr fun f _ => ?_
  simp [Flight.sight]

theorem isSome_newest? (l : Life) (s : Session) :
    (l.newest? s).isSome = (l.flights.map (Flight.sight (some s))).any (·.isNewest) := by
  rw [Bool.eq_iff_iff, Option.isSome_iff_exists, List.any_map, List.any_eq_true]
  constructor
  · rintro ⟨run, hRun⟩
    obtain ⟨hNewest, f, hf, rfl⟩ := newest?_eq_some.mp hRun
    exact ⟨f, hf, by simp [Flight.sight, hNewest]⟩
  · rintro ⟨f, hf, hNewest⟩
    exact ⟨f.run, newest?_eq_some.mpr ⟨by simpa [Flight.sight] using hNewest, f, hf, rfl⟩⟩

theorem isSome_newest?_of_view (hl : l.view = l'.view) (hs : l.session = some s)
    (hs' : l'.session = some s') : (l.newest? s).isSome = (l'.newest? s').isSome := by
  rw [isSome_newest?, isSome_newest?, sights_of_view hl hs hs']

theorem view_supersede (hw : w.Agrees w') (hl : l.view = l'.view) (hs : l.session = some s)
    (hs' : l'.session = some s') : (l.supersede w s).view = (l'.supersede w' s').view := by
  obtain ⟨hSession, -, hHistory⟩ := view_eq_iff.mp hl
  have hSights := sights_of_view hl hs hs'
  have hNewest := isSome_newest?_of_view hl hs hs'
  refine view_eq_iff.mpr ⟨?_, ?_, ?_⟩
  · rw [session_supersede, session_supersede, hSession]
  · rw [session_supersede, session_supersede, hs, hs', flights_supersede, flights_supersede,
      hw.onSupersede]
    split
    · rw [map_sight_filter, map_sight_filter, hSights]
    · exact hSights
  · have hCancelled : ((l.newest? s).map Happening.cancelled).toList.map Happening.anonymous =
        ((l'.newest? s').map Happening.cancelled).toList.map Happening.anonymous := by
      cases hRun : l.newest? s <;> cases hRun' : l'.newest? s' <;> simp_all [Happening.anonymous]
    rw [history_supersede, history_supersede, List.map_append, List.map_append, hHistory,
      hw.onSupersede]
    split
    · rw [hCancelled]
    · rfl

theorem view_release (hl : l.view = l'.view) (hs : l.session = some s)
    (hs' : l'.session = some s') : (l.release s).view = (l'.release s').view := by
  obtain ⟨hSession, -, hHistory⟩ := view_eq_iff.mp hl
  refine view_eq_iff.mpr ⟨?_, ?_, ?_⟩
  · rw [session_release, session_release, hSession]
  · rw [session_release, session_release, hs, hs', flights_release, flights_release,
      map_sight_filter, map_sight_filter, sights_of_view hl hs hs']
  · rw [history_release, history_release, List.map_append, List.map_append, List.map_reverse,
      List.map_reverse, hHistory, (alike_of_view hl hs hs').parting
        (isSome_newest?_of_view hl hs hs')]

/-- A session that has let go of everything and is kept. -/
theorem view_closed (hl : l.view = l'.view) (hs : l.session = some s) (hs' : l'.session = some s') :
    ((l.release s).hold s.closed).view = ((l'.release s').hold s'.closed).view := by
  have hRelease := view_release hl hs hs'
  have hGone : ∀ {l : Life} {s : Session}, ∀ f ∈ (l.release s).flights,
      s.closed.newest = some f.run ↔ s.newest = some f.run := by
    intro l s f hf
    obtain ⟨-, hOther⟩ := mem_flights_release.mp hf
    exact iff_of_false (by simp [Session.closed]) hOther
  refine view_hold hRelease (alike_of_view hl hs hs').closed ?_
  rw [map_sight_eq (t := s.closed) (s := s) rfl hGone,
    map_sight_eq (t := s'.closed) (s := s') rfl hGone]
  exact sights_of_view hRelease (by rw [session_release, hs]) (by rw [session_release, hs'])

theorem map_sight_none (fs : List Flight) (s? : Option Session) :
    fs.map (Flight.sight none) = (fs.map (Flight.sight s?)).map Sight.strange := by
  rw [List.map_map]
  rfl

theorem view_leave (hl : l.view = l'.view) : l.leave.view = l'.leave.view := by
  obtain ⟨-, hFlights, hHistory⟩ := view_eq_iff.mp hl
  refine view_eq_iff.mpr ⟨rfl, ?_, hHistory⟩
  show l.flights.map (Flight.sight none) = l'.flights.map (Flight.sight none)
  rw [map_sight_none _ l.session, map_sight_none _ l'.session, hFlights]

/-- A session that is opened has started none of the runs in flight. -/
theorem view_opened (hl : l.view = l'.view) (ht : t.Alike t')
    (hFresh : ∀ f ∈ l.flights, f.session ≠ t.number)
    (hFresh' : ∀ f ∈ l'.flights, f.session ≠ t'.number)
    (hNewest : t.newest = none) (hNewest' : t'.newest = none) :
    (l.hold t).view = (l'.hold t').view := by
  have hStrange : ∀ {l : Life} {t : Session}, (∀ f ∈ l.flights, f.session ≠ t.number) →
      t.newest = none →
        l.flights.map (Flight.sight (some t)) = l.flights.map (Flight.sight none) := by
    intro l t hFresh hNewest
    refine List.map_congr_left fun f hf => ?_
    simp [Flight.sight, hNewest, Ne.symm (hFresh f hf)]
  refine view_hold hl ht ?_
  rw [hStrange hFresh hNewest, hStrange hFresh' hNewest', map_sight_none _ l.session,
    map_sight_none _ l'.session, (view_eq_iff.mp hl).2.1]

/-- A session that starts a run can abort this one, and no older one. -/
theorem view_launch (hl : l.view = l'.view) (hs : l.session = some s) (hs' : l'.session = some s')
    (ht : t.Alike t') (hNumber : t.number = s.number) (hNumber' : t'.number = s'.number)
    (hNewest : t.newest = some f.run) (hNewest' : t'.newest = some f'.run)
    (hFresh : ∀ g ∈ l.flights, g.run ≠ f.run) (hFresh' : ∀ g ∈ l'.flights, g.run ≠ f'.run)
    (hf : f.sight (some t) = f'.sight (some t')) :
    ((l.launch f).hold t).view = ((l'.launch f').hold t').view := by
  have hOlder : ∀ {l : Life} {s t : Session} {f : Flight}, t.number = s.number →
      t.newest = some f.run → (∀ g ∈ l.flights, g.run ≠ f.run) →
      l.flights.map (Flight.sight (some t)) =
        (l.flights.map (Flight.sight (some s))).map fun x => { x with isNewest := false } := by
    intro l s t f hNumber hNewest hFresh
    rw [List.map_map]
    refine List.map_congr_left fun g hg => ?_
    simp [Flight.sight, hNumber, hNewest, Ne.symm (hFresh g hg)]
  refine view_eq_iff.mpr ⟨congrArg some (Session.anonymous_eq_iff.mpr ht), ?_,
    (view_eq_iff.mp hl).2.2⟩
  show (l.flights ++ [f]).map (Flight.sight (some t)) =
    (l'.flights ++ [f']).map (Flight.sight (some t'))
  rw [List.map_append, List.map_append, hOlder hNumber hNewest hFresh,
    hOlder hNumber' hNewest' hFresh', sights_of_view hl hs hs', List.map_singleton,
    List.map_singleton, hf]

/-! ### Runs that complete -/

/-- Two runs that have the same place among runs that look the same. -/
structure Counterpart (l l' : Life) (f f' : Flight) : Prop where
  exists_split : ∃ pre post pre' post', l.flights = pre ++ f :: post ∧
    l'.flights = pre' ++ f' :: post' ∧
    pre.map (Flight.sight l.session) = pre'.map (Flight.sight l'.session) ∧
    post.map (Flight.sight l.session) = post'.map (Flight.sight l'.session)
  sight : f.sight l.session = f'.sight l'.session

/-- Landing one of several runs leaves the others. -/
theorem flights_land {pre post : List Flight} (hFlights : l.flights = pre ++ f :: post)
    (hRuns : (l.flights.map Flight.run).Nodup) : (l.land f.run).flights = pre ++ post := by
  rw [hFlights, List.map_append, List.map_cons, List.nodup_middle, List.nodup_cons,
    List.mem_append] at hRuns
  have hOther : ∀ g ∈ pre ++ post, g.run ≠ f.run := by
    intro g hg hr
    refine hRuns.1 ?_
    rw [← hr]
    exact (List.mem_append.mp hg).imp (List.mem_map_of_mem) (List.mem_map_of_mem)
  rw [land, hFlights, List.filter_append, List.filter_cons_of_neg (by simp), ← List.filter_append]
  exact List.filter_eq_self.mpr fun g hg => by simpa using hOther g hg

theorem view_land (hl : l.view = l'.view) (hRuns : (l.flights.map Flight.run).Nodup)
    (hRuns' : (l'.flights.map Flight.run).Nodup) (hf : Counterpart l l' f f') :
    (l.land f.run).view = (l'.land f'.run).view := by
  obtain ⟨hSession, -, hHistory⟩ := view_eq_iff.mp hl
  obtain ⟨pre, post, pre', post', hFlights, hFlights', hPre, hPost⟩ := hf.exists_split
  refine view_eq_iff.mpr ⟨hSession, ?_, hHistory⟩
  rw [flights_land hFlights hRuns, flights_land hFlights' hRuns', List.map_append, List.map_append]
  exact congrArg₂ (· ++ ·) hPre hPost

theorem attends_iff (hw : w.Agrees w') (hs : l.session = some s) (hs' : l'.session = some s')
    (hAlike : s.Alike s') (hf : f.sight l.session = f'.sight l'.session) :
    s.attends w f ↔ s'.attends w' f' := by
  have hOwn : s.number = f.session ↔ s'.number = f'.session := by
    have hIsOwn := congrArg Sight.isOwn hf
    simpa [Flight.sight, hs, hs'] using hIsOwn
  rw [Session.attends, Session.attends, hOwn, hAlike.disposed, hAlike.outdates hf, hw.onSupersede]

theorem view_complete (hw : w.Agrees w') (hl : l.view = l'.view)
    (hRuns : (l.flights.map Flight.run).Nodup) (hRuns' : (l'.flights.map Flight.run).Nodup)
    (hf : Counterpart l l' f f') (issued issued' : Nat) :
    (l.complete w issued f).view = (l'.complete w' issued' f').view := by
  have hResult : f.result = f'.result := by
    have hSight := hf.sight
    simp only [Flight.sight, Sight.mk.injEq] at hSight
    exact hSight.2.2.2.1
  have hLanded : ((l.land f.run).record [.finished f.run f.result]).view =
      ((l'.land f'.run).record [.finished f'.run f'.result]).view :=
    view_record (view_land hl hRuns hRuns' hf) (by simp [Happening.anonymous, hResult])
  unfold complete
  dsimp only
  cases hs : l.session with
  | none =>
    rw [session_eq_none_of_view hl hs]
    exact hLanded
  | some s =>
    obtain ⟨s', hs', hAlike⟩ := exists_session_of_view hl hs
    rw [hs']
    dsimp only
    have hAttends := attends_iff hw hs hs' hAlike hf.sight
    by_cases hIn : s.attends w f
    · rw [if_pos hIn, if_pos (hAttends.mp hIn)]
      exact view_hold_same (view_record hLanded (hAlike.hearing hw hf.sight issued issued')) hs hs'
        (hAlike.heard hw hf.sight issued issued') rfl rfl rfl rfl
    · rw [if_neg hIn, if_neg (mt hAttends.mpr hIn)]
      exact hLanded

end Life

end LiveLine
