import LiveLine.Proofs.Phases
import LiveLine.Proofs.Presenting

/-!
# Annotated phases

An annotated phase tells that an annotation of its kind is shown.  The completion of a superseded
run can take that annotation away and leave the phase: it empties the slot of its kind, and where
its line is gone from the document there is nothing to fill the slot with, nor does the phase move.

* `Told`: what an annotated phase says of the last annotation of its kind that a run gave.
* `Host.Reachable.not_isTruthful`: the phase is wrong just where that annotation came of a
  superseded run and was dropped.
-/

namespace LiveLine

/-- The kind of annotation that is shown in a phase. -/
def Phase.annotates? : Phase → Option Annotation.Kind
  | annotatedOutput => some .output
  | annotatedError => some .error
  | idle | pending | running => none

/-- In an annotated phase, an annotation of its kind is shown. -/
def Session.IsTruthful (s : Session) : Prop :=
  (s.phase = .annotatedOutput → ∃ note, s.presenter.active? .output = some note) ∧
  (s.phase = .annotatedError → ∃ note, s.presenter.active? .error = some note)

theorem Session.isTruthful_iff {s : Session} :
    s.IsTruthful ↔ ∀ kind, s.phase.annotates? = some kind →
      ∃ note, s.presenter.active? kind = some note := by
  unfold IsTruthful
  cases s.phase <;> simp [Phase.annotates?]

theorem Phase.isSettled_of_annotates? {p : Phase} {kind : Annotation.Kind}
    (hKind : p.annotates? = some kind) : p.isSettled = true := by
  cases p <;> simp_all [annotates?, isSettled]

theorem Phase.annotates?_ofFate {kind : Annotation.Kind} (hKind : kind ≠ .clear) (fate : Fate) :
    (ofFate kind fate).annotates? = if fate = .shown then some kind else none := by
  cases kind <;> cases fate <;> first | rfl | exact absurd rfl hKind

theorem Flight.kind_ne_clear (w : Setup) (f : Flight) : (f.verdict w).note.kind ≠ .clear :=
  Verdict.kind_ne_clear w.colors f.result f.request.targetLine

namespace Session

variable {w : Setup} {issued : Nat} {s : Session} {f : Flight} {kind : Annotation.Kind}

theorem fate_presentation : (s.presentation w issued f).fate =
    if s.snapshot.document.hasLine (f.verdict w).note.line then .shown else .dropped :=
  Presenter.fate_present (f.kind_ne_clear w)

theorem active?_heard_self : (s.heard w issued f).presenter.active? (f.verdict w).note.kind =
    if s.snapshot.document.hasLine (f.verdict w).note.line then some (f.verdict w).note
    else none := Presenter.active?_present_self (f.kind_ne_clear w)

theorem active?_heard_of_ne (hKind : kind ≠ (f.verdict w).note.kind) :
    (s.heard w issued f).presenter.active? kind = s.presenter.active? kind :=
  Presenter.active?_present_of_ne (f.kind_ne_clear w) hKind

/-- An annotated phase after a completion: it tells of the annotation that the run gave, or it was
there before, and the annotation of the superseded run was dropped. -/
theorem annotates?_heard (hAnnotates : (s.heard w issued f).phase.annotates? = some kind)
    (hCurrent : s.outdates f = false → s.phase.isSettled = false) :
    kind = (f.verdict w).note.kind ∧
        s.snapshot.document.hasLine (f.verdict w).note.line = true ∨
      s.phase.annotates? = some kind ∧ s.outdates f = true ∧
        s.snapshot.document.hasLine (f.verdict w).note.line = false := by
  have hFate : (s.presentation w issued f).fate =
      if s.snapshot.document.hasLine (f.verdict w).note.line then .shown else .dropped :=
    fate_presentation
  unfold heard phaseAfter at hAnnotates
  dsimp only at hAnnotates
  split at hAnnotates
  · rw [Phase.annotates?_ofFate (f.kind_ne_clear w), hFate] at hAnnotates
    cases hLine : s.snapshot.document.hasLine (f.verdict w).note.line <;> simp_all
  · rename_i hKept
    have hSettled := Phase.isSettled_of_annotates? hAnnotates
    cases hOut : s.outdates f with
    | false => exact absurd (hSettled.symm.trans (hCurrent hOut)) (by decide)
    | true =>
      refine Or.inr ⟨hAnnotates, rfl, ?_⟩
      cases hLine : s.snapshot.document.hasLine (f.verdict w).note.line <;> simp_all

/-- A completion makes a truthful session untruthful just where the annotation of the phase's kind
is replaced by one whose line is not there. -/
theorem not_isTruthful_heard (hTruthful : s.IsTruthful)
    (hCurrent : s.outdates f = false → s.phase.isSettled = false) :
    ¬ (s.heard w issued f).IsTruthful ↔ s.phase.annotates? = some (f.verdict w).note.kind ∧
      s.snapshot.document.hasLine (f.verdict w).note.line = false := by
  rw [isTruthful_iff] at hTruthful ⊢
  constructor
  · intro hUntruthful
    obtain ⟨kind, hAnnotates, hNone⟩ : ∃ kind, (s.heard w issued f).phase.annotates? = some kind ∧
        ∀ note, (s.heard w issued f).presenter.active? kind ≠ some note := by
      simpa only [not_forall, exists_prop, not_exists] using hUntruthful
    rcases annotates?_heard hAnnotates hCurrent with ⟨rfl, hLine⟩ | ⟨hPhase, -, hLine⟩
    · exact absurd (active?_heard_self.trans (if_pos hLine)) (hNone _)
    · by_cases hKind : kind = (f.verdict w).note.kind
      · exact ⟨hKind ▸ hPhase, hLine⟩
      · obtain ⟨note, hNote⟩ := hTruthful kind hPhase
        exact absurd ((active?_heard_of_ne hKind).trans hNote) (hNone note)
  · rintro ⟨hPhase, hLine⟩ hHeard
    have hSettled := Phase.isSettled_of_annotates? hPhase
    have hOut : s.outdates f = true := by
      cases hOut : s.outdates f with
      | true => rfl
      | false => exact absurd (hSettled.symm.trans (hCurrent hOut)) (by decide)
    have hKept : (s.heard w issued f).phase = s.phase := by
      simp [heard, phaseAfter, hOut, fate_presentation, hLine]
    obtain ⟨note, hNote⟩ := hHeard _ (hKept ▸ hPhase)
    rw [active?_heard_self, hLine] at hNote
    exact absurd hNote (by simp)

end Session

/-- What an annotated phase says of the last annotation of its kind that a run gave: it is what is
shown, or it was dropped and came of a superseded run. -/
def Told (w : Setup) (s : Session) (l : Life) : Prop :=
  ∀ kind, s.phase.annotates? = some kind → ∃ heard, l.lastHeard? kind = some heard ∧
    s.presenter.active? kind = (if heard.isShown then some heard.note else none) ∧
    (heard.isShown = false → heard.isStale = true ∧ w.onSupersede = .finish)

namespace Told

variable {w : Setup} {h h' : Host} {s : Session} {l l' : Life} {f : Flight}

theorem of_not_annotated (hPhase : s.phase.annotates? = none) : Told w s l :=
  fun _ hKind => absurd (hPhase.symm.trans hKind) (by simp)

theorem heard (ht : Told w s l) (hCurrent : s.outdates f = false → s.phase.isSettled = false)
    (hHeard : s.outdates f = false ∨ w.onSupersede = .finish) (issued : Nat) :
    Told w (s.heard w issued f)
      (((l.land f.run).record [.finished f.run f.result]).record (s.hearing w issued f)) := by
  intro kind hAnnotates
  have hHistory : ∀ j, (((l.land f.run).record [.finished f.run f.result]).record
      (s.hearing w issued f)).lastHeard? j =
        if (f.verdict w).note.kind = j then some ⟨(f.verdict w).note,
          s.snapshot.document.hasLine (f.verdict w).note.line, s.outdates f⟩
        else l.lastHeard? j := by
    intro j
    rw [Life.lastHeard?, Life.last?_hearing (Happening.reading_heard? j),
      Session.fate_presentation]
    cases hLine : s.snapshot.document.hasLine (f.verdict w).note.line <;>
      by_cases hj : (f.verdict w).note.kind = j <;> simp [Happening.heard?, hj]
  rcases Session.annotates?_heard hAnnotates hCurrent with ⟨rfl, hLine⟩ | ⟨hPhase, hOut, hLine⟩
  · refine ⟨_, (hHistory _).trans (if_pos rfl), ?_, fun hDropped => ?_⟩
    · exact Session.active?_heard_self
    · exact absurd (hLine.symm.trans hDropped) (by decide)
  · by_cases hKind : kind = (f.verdict w).note.kind
    · subst hKind
      refine ⟨_, (hHistory _).trans (if_pos rfl), Session.active?_heard_self, fun _ => ⟨hOut, ?_⟩⟩
      exact hHeard.resolve_left (by simp [hOut])
    · obtain ⟨x, hx, hActive, hStale⟩ := ht kind hPhase
      refine ⟨x, (hHistory kind).trans ((if_neg (Ne.symm hKind)).trans hx), ?_, hStale⟩
      rw [Session.active?_heard_of_ne hKind, hActive]

/-- Every move of a life whose session is tracked keeps what its phase says. -/
theorem move (hRun : ∀ s, l.session = some s → Tracked s l)
    (ht : ∀ s, l.session = some s → Told w s l) (hMove : Host.Move w h h' l l') :
    ∀ s, l'.session = some s → Told w s l' := by
  cases hMove with
  | opened id snapshot =>
    rintro s ⟨⟩
    exact .of_not_annotated rfl
  | @edited l s hs snapshot =>
    rintro t ⟨⟩
    exact ht s hs
  | notified hs hDisposed =>
    rintro s ⟨⟩
    exact .of_not_annotated rfl
  | fired hs hPre hFire =>
    cases hFire with
    | off hDisposed =>
      rintro s ⟨⟩
      refine .of_not_annotated ?_
      exact congrArg Phase.annotates? ((hRun _ hs).closed hDisposed)
    | started =>
      rintro s ⟨⟩
      exact .of_not_annotated rfl
    | rejected =>
      rintro s ⟨⟩
      exact .of_not_annotated rfl
  | @completed l l' f hf hLanding =>
    cases hLanding with
    | ignored =>
      intro s hs kind hKind
      obtain ⟨x, hx, hActive⟩ := ht s hs kind hKind
      exact ⟨x, (Life.last?_finished f).trans hx,
        hActive⟩
    | presented hs hDisposed hHeard =>
      rintro s ⟨⟩
      refine (ht _ hs).heard (fun hOut => ?_) hHeard _
      exact (hRun _ hs).isSettled_of_current hf hOut
  | disposed hs =>
    rintro s ⟨⟩
    exact .of_not_annotated rfl
  | left => exact fun s hs => absurd hs (by simp)

end Told

namespace Host

section

variable {w : Setup} {h : Host} {s : Session}

theorem Reachable.told (hr : Reachable w h) (hm : s ∈ h.sessions) :
    Told w s (h.life s.number) := by
  have ht := Reachable.session (P := fun s l => Tracked s l ∧ Told w s l) ?_ hr hm
  · exact ht.2
  · intro owner h h' n l' hs ht hMove s hSession
    have hTracked : ∀ s, (h.life n).session = some s → Tracked s (h.life n) :=
      fun s hs => (ht s hs).1
    have hTold : ∀ s, (h.life n).session = some s → Told w s (h.life n) := fun s hs => (ht s hs).2
    exact ⟨Tracked.move hs.run_lt hs.eq_of_run_life hTracked hMove s hSession,
      Told.move hTracked hTold hMove s hSession⟩

/-- Of all annotations of the kind of the phase that runs of the session gave, the last one came of
a run that was superseded and left to finish, and it was dropped. -/
def Bereft (w : Setup) (h : Host) (s : Session) : Prop :=
  w.onSupersede = .finish ∧ ∃ kind heard, s.phase.annotates? = some kind ∧
    (h.life s.number).lastHeard? kind = some heard ∧ heard.isStale = true ∧ heard.isShown = false

theorem Reachable.not_isTruthful (hr : Reachable w h) (hm : s ∈ h.sessions) :
    ¬ s.IsTruthful ↔ h.Bereft w s := by
  have ht := hr.told hm
  rw [Session.isTruthful_iff]
  constructor
  · intro hUntruthful
    obtain ⟨kind, hAnnotates, hNone⟩ : ∃ kind, s.phase.annotates? = some kind ∧
        ∀ note, s.presenter.active? kind ≠ some note := by
      simpa only [not_forall, exists_prop, not_exists] using hUntruthful
    obtain ⟨heard, hHeard, hActive, hStale⟩ := ht kind hAnnotates
    cases hShown : heard.isShown with
    | true => exact absurd (hActive.trans (if_pos hShown)) (hNone _)
    | false => exact ⟨(hStale hShown).2, kind, heard, hAnnotates, hHeard, (hStale hShown).1, hShown⟩
  · rintro ⟨-, kind, heard, hAnnotates, hHeard, -, hShown⟩ hTruthful
    obtain ⟨x, hx, hActive, -⟩ := ht kind hAnnotates
    obtain ⟨note, hNote⟩ := hTruthful kind hAnnotates
    obtain rfl := Option.some.inj (hx.symm.trans hHeard)
    rw [hActive, hShown] at hNote
    exact absurd hNote (by simp)

theorem Reachable.not_isTruthful_complete (hr : Reachable w h) (hm : s ∈ h.sessions)
    (hTruthful : s.IsTruthful) {f : Flight} (hf : f ∈ h.flights) (hOwn : f.session = s.number) :
    (∃ t ∈ (h.complete w f).sessions, t.number = s.number ∧ ¬ t.IsTruthful) ↔
      w.onSupersede = .finish ∧ s.phase.annotates? = some (f.verdict w).note.kind ∧
        s.snapshot.document.hasLine (f.verdict w).note.line = false := by
  obtain ⟨owner, hs⟩ := hr.sound
  have ht := hr.tracked hm
  have hCurrent : s.outdates f = false → s.phase.isSettled = false :=
    ht.isSettled_of_current (mem_flights_life.mpr ⟨hf, hOwn⟩)
  obtain ⟨l', hLanding, hSessions⟩ := hs.session_complete (w := w) hf
  rw [hOwn] at hLanding hSessions
  have hSession := hs.life_session hm
  cases hLanding with
  | ignored hIgnored =>
    refine iff_of_false ?_ ?_
    · rintro ⟨t, hMem, hNumber, hUntruthful⟩
      obtain rfl := Option.some.inj (hSession.symm.trans ((hSessions t).mpr ⟨hMem, hNumber⟩))
      exact hUntruthful hTruthful
    · rintro ⟨hFinish, hPhase, -⟩
      rcases hIgnored s hSession with hDisposed | ⟨-, hCancel⟩
      · rw [ht.closed hDisposed] at hPhase
        exact absurd hPhase (by simp [Phase.annotates?])
      · exact absurd (hFinish.symm.trans hCancel) (by decide)
  | presented hSome hDisposed hHeard =>
    obtain rfl := Option.some.inj (hSession.symm.trans hSome)
    have hStep : ¬ (s.heard w h.issued f).IsTruthful ↔
        s.phase.annotates? = some (f.verdict w).note.kind ∧
          s.snapshot.document.hasLine (f.verdict w).note.line = false :=
      Session.not_isTruthful_heard hTruthful hCurrent
    constructor
    · rintro ⟨t, hMem, hNumber, hUntruthful⟩
      obtain rfl := Option.some.inj ((hSessions t).mpr ⟨hMem, hNumber⟩)
      obtain ⟨hPhase, hLine⟩ := hStep.mp hUntruthful
      refine ⟨hHeard.resolve_left fun hOut => ?_, hPhase, hLine⟩
      have hSettled := Phase.isSettled_of_annotates? hPhase
      exact absurd (hSettled.symm.trans (hCurrent hOut)) (by decide)
    · rintro ⟨-, hPhase, hLine⟩
      obtain ⟨hMem, hNumber⟩ := (hSessions _).mp rfl
      exact ⟨_, hMem, hNumber, hStep.mpr ⟨hPhase, hLine⟩⟩

/-- **When annotated phases tell the truth.**  In a reachable state the annotation that the phase
of a session tells of is there, unless a superseded run that was left to finish has taken it away:
a completion does so just where the annotation of the run is of the kind of the phase, and its line
is not in the document. -/
theorem Reachable.isTruthful_exact (hr : Reachable w h) (hm : s ∈ h.sessions) :
    (s.IsTruthful ↔ ¬ h.Bereft w s) ∧
    (s.IsTruthful → ∀ f ∈ h.flights, f.session = s.number →
      ((∃ t ∈ (h.complete w f).sessions, t.number = s.number ∧ ¬ t.IsTruthful) ↔
        w.onSupersede = .finish ∧ s.phase.annotates? = some (f.verdict w).note.kind ∧
          s.snapshot.document.hasLine (f.verdict w).note.line = false)) :=
  ⟨by rw [← hr.not_isTruthful hm, not_not],
    fun hTruthful _ hf hOwn => hr.not_isTruthful_complete hm hTruthful hf hOwn⟩

/-- The first run takes a second, and all others are done at once. -/
def lateFirst : Setup := sample fun run => if run = 0 then 1000 else 0

/-- The line of the first run is taken out of the document, and a second run completes first. -/
def abandoned : Host :=
  run lateFirst {} [.openEditor 1 ⟨⟨"print(1)\nprint(2)".toList⟩, 1⟩, .notify 1, .advance 10,
    .edit 1 (some "print(1)".toList) (some 0), .evaluate 1]

theorem isTruthful_exact_abandoned :
    ∃ s ∈ abandoned.sessions, s.IsTruthful ∧ ∃ f ∈ abandoned.flights,
      ∃ t ∈ (abandoned.complete lateFirst f).sessions,
        t.number = s.number ∧ ¬ t.IsTruthful := by
  obtain ⟨s, hm, hPhase, hActive, hLine⟩ : ∃ s ∈ abandoned.sessions,
      s.phase = .annotatedOutput ∧ (s.presenter.active? .output).isSome ∧
        s.snapshot.document.hasLine 1 = false := by decide
  have hTruthful : s.IsTruthful :=
    ⟨fun _ => Option.isSome_iff_exists.mp hActive, fun hError => by simp [hPhase] at hError⟩
  have hNumber : ∀ t ∈ abandoned.sessions, t.number = 0 := by decide
  obtain ⟨f, hf, hOwn, hKind, hNote⟩ : ∃ f ∈ abandoned.flights, f.session = 0 ∧
      (f.verdict lateFirst).note.kind = .output ∧ (f.verdict lateFirst).note.line = 1 := by decide
  have hBreak := (Reachable.isTruthful_exact (w := lateFirst) (.run _) hm).2 hTruthful f hf
    (hOwn.trans (hNumber s hm).symm)
  refine ⟨s, hm, hTruthful, f, hf, hBreak.mpr ⟨rfl, ?_, ?_⟩⟩
  · rw [hPhase, hKind]
    rfl
  · rw [hNote, hLine]

/-- When the first run completes, the annotation is gone and the phase still tells of it. -/
theorem abandoned_annotated :
    Reachable lateFirst (abandoned.step lateFirst (.advance 5000)) ∧
      ∃ s ∈ (abandoned.step lateFirst (.advance 5000)).sessions,
        s.phase = .annotatedOutput ∧ s.presenter.active? .output = none :=
  ⟨Leads.trans (Reachable.run _) (.step (Reachable.run _).sound _), by decide⟩

end

end Host

end LiveLine
