import LiveLine.Proofs.Moves

/-!
# What the history of a session tells

The history of a life has an entry for each evaluation of the session's cursor line and for each
annotation that came of its runs.  The functions here read the last of some kind, so that
statements about sessions need not speak of what a session keeps for itself.

* `Life.lastFire?`: what the last evaluation came to.
* `Life.lastStarted?`: the last run that was started.
* `Life.lastHeard?`: the last annotation of a kind that came of a completed run, and what was made
  of it.
-/

namespace LiveLine

/-- An annotation that came of a completed run: whether it was shown, and whether a newer
evaluation had superseded the run. -/
structure Hearing where
  note : Annotation
  isShown : Bool
  isStale : Bool

namespace Happening

/-- What an evaluation came to: the run that it started, or nothing where the line was rejected. -/
def fire? : Happening → Option (Option RunNumber)
  | started run _ => some (some run)
  | rejected _ => some none
  | _ => none

def started? : Happening → Option RunNumber
  | started run _ => some run
  | _ => none

def heard? (kind : Annotation.Kind) : Happening → Option Hearing
  | presented note isShown isStale =>
    if note.kind = kind then some ⟨note, isShown, isStale⟩ else none
  | _ => none

def finished? : Happening → Option RunNumber
  | finished run _ => some run
  | _ => none

/-- Whether an entry tells of an evaluation, or of a completed run and the annotation that came of
it. -/
def isTelling : Happening → Bool
  | rejected _ | started .. | finished .. | presented .. => true
  | _ => false

/-- Entries that tell nothing. -/
def Quiet (es : List Happening) : Prop := ∀ e ∈ es, e.isTelling = false

/-- What takes no notice of entries that tell nothing. -/
def Reading {α : Type} (read : Happening → Option α) : Prop :=
  ∀ e : Happening, e.isTelling = false → read e = none

theorem reading_fire? : Reading fire? := by
  intro e he
  cases e <;> simp_all [isTelling, fire?]

theorem reading_started? : Reading started? := by
  intro e he
  cases e <;> simp_all [isTelling, started?]

theorem reading_heard? (kind : Annotation.Kind) : Reading (heard? kind) := by
  intro e he
  cases e <;> simp_all [isTelling, heard?]

theorem reading_finished? : Reading finished? := by
  intro e he
  cases e <;> simp_all [isTelling, finished?]

theorem Quiet.nil : Quiet [] := fun _ he => absurd he List.not_mem_nil

theorem Quiet.append {es es' : List Happening} (hes : Quiet es) (hes' : Quiet es') :
    Quiet (es ++ es') := fun e he => (List.mem_append.mp he).elim (hes e) (hes' e)

theorem Quiet.singleton {e : Happening} (he : e.isTelling = false) : Quiet [e] :=
  fun _ h => by rw [List.mem_singleton.mp h, he]

theorem quiet_called (calls : List SurfaceCall) : Quiet (calls.map .called) := by
  intro e he
  obtain ⟨call, -, rfl⟩ := List.mem_map.mp he
  rfl

theorem quiet_supersededBy (s : Session) : Quiet (Host.supersededBy s) := by
  unfold Host.supersededBy
  split
  · exact .singleton rfl
  · exact .nil

theorem quiet_scheduled (s : Session) : Quiet (Host.supersededBy s ++ [.scheduled]) :=
  (quiet_supersededBy s).append (.singleton rfl)

/-- What is told of a timer that elapses or gives way. -/
theorem quiet_of_firing {s : Session} {es : List Happening} {p : Prop}
    (hes : es = [.fired] ∧ p ∨ es = Host.supersededBy s) : Quiet es := by
  rcases hes with ⟨rfl, -⟩ | rfl
  · exact .singleton rfl
  · exact quiet_supersededBy s

theorem quiet_parting (s : Session) (abort : Option RunNumber) : Quiet (Life.parting s abort) := by
  have hAborted : Quiet (abort.map aborted).toList := by
    cases abort with
    | none => exact .nil
    | some run => exact .singleton rfl
  exact (((quiet_supersededBy s).append hAborted).append (quiet_called _)).append (.singleton rfl)

end Happening

theorem Host.exists_fateEntries_eq (s : Session) (v : Verdict) (stale : Bool) (p : Presentation) :
    ∃ es, Happening.Quiet es ∧
      Host.fateEntries s v stale p = es ++ [.presented v.note (p.fate = .shown) stale] := by
  refine ⟨_, Happening.Quiet.append ?_ ?_, rfl⟩
  · split
    · exact .singleton rfl
    · exact .singleton rfl
    · exact .nil
  · cases v.alert with
    | none => exact .nil
    | some message => exact .singleton rfl

/-- Presenting a completed run tells at its end what became of the annotation, and nothing else. -/
theorem Session.exists_hearing_eq (w : Setup) (issued : Nat) (s : Session) (f : Flight) :
    ∃ es, Happening.Quiet es ∧ s.hearing w issued f =
      es ++ [.presented (f.verdict w).note ((s.presentation w issued f).fate = .shown)
        (s.outdates f)] := by
  obtain ⟨es, hes, hEq⟩ := Host.exists_fateEntries_eq s (f.verdict w) (s.outdates f)
    (s.presentation w issued f)
  have hJudged : Happening.Quiet [.judged (f.verdict w) f.request.targetLine] := .singleton rfl
  have hCalls := Happening.quiet_called (s.presentation w issued f).calls
  refine ⟨_, (hJudged.append hCalls).append hes, ?_⟩
  rw [Session.hearing, hEq, List.append_assoc, List.append_assoc]
  rfl

namespace Life

variable {α : Type} {l : Life} {read : Happening → Option α}

/-- The last entry of a history of which a reading takes notice. -/
def last? (read : Happening → Option α) (l : Life) : Option α := l.history.findSome? read

abbrev lastFire? (l : Life) : Option (Option RunNumber) := l.last? Happening.fire?

abbrev lastStarted? (l : Life) : Option RunNumber := l.last? Happening.started?

abbrev lastHeard? (l : Life) (kind : Annotation.Kind) : Option Hearing :=
  l.last? (Happening.heard? kind)

@[simp] theorem last?_land (run : RunNumber) : (l.land run).last? read = l.last? read := rfl
@[simp] theorem last?_launch (f : Flight) : (l.launch f).last? read = l.last? read := rfl

theorem last?_record_append (es es' : List Happening) :
    (l.record (es ++ es')).last? read = ((l.record es).record es').last? read := by
  simp [last?]

theorem last?_record_singleton (e : Happening) :
    (l.record [e]).last? read = (read e).or (l.last? read) := by
  simp only [last?, history_record, List.reverse_singleton, List.singleton_append,
    List.findSome?_cons]
  cases read e <;> rfl

/-- Entries that tell nothing make no difference to a reading. -/
theorem last?_record (hRead : Happening.Reading read) {es : List Happening}
    (hes : Happening.Quiet es) : (l.record es).last? read = l.last? read := by
  have hNone : es.reverse.findSome? read = none :=
    List.findSome?_eq_none_iff.mpr fun e he => hRead e (hes e (List.mem_reverse.mp he))
  rw [last?, history_record, List.findSome?_append, hNone, Option.none_or, last?]

theorem last?_supersede (hRead : Happening.Reading read) (w : Setup) (s : Session) :
    (l.supersede w s).last? read = l.last? read := by
  unfold supersede
  split
  · split
    · exact last?_record hRead (.singleton rfl)
    · rfl
  · rfl

theorem last?_release (hRead : Happening.Reading read) (s : Session) :
    (l.release s).last? read = l.last? read := by
  rw [last?, history_release, ← history_record, ← last?,
    last?_record hRead (Happening.quiet_parting s _)]

/-- An evaluation that starts a run. -/
theorem last?_started (hRead : Happening.Reading read) (w : Setup) (s : Session)
    (run : RunNumber) (request : Request) :
    ((l.supersede w s).record [.started run request]).last? read =
      (read (.started run request)).or (l.last? read) := by
  rw [last?_record_singleton, last?_supersede hRead]

/-- An evaluation that rejects the line. -/
theorem last?_rejected (hRead : Happening.Reading read) (w : Setup) (s : Session) (line : Nat)
    (calls : List SurfaceCall) :
    ((l.supersede w s).record (.rejected line :: calls.map .called)).last? read =
      (read (.rejected line)).or (l.last? read) := by
  rw [← List.singleton_append, last?_record_append,
    last?_record hRead (Happening.quiet_called calls), last?_record_singleton,
    last?_supersede hRead]

/-- The completion of a run of which the session takes no notice. -/
theorem last?_finished (f : Flight) :
    ((l.land f.run).record [.finished f.run f.result]).last? read =
      (read (.finished f.run f.result)).or (l.last? read) := by
  rw [last?_record_singleton, last?_land]

/-- The completion of a run that is presented. -/
theorem last?_hearing (hRead : Happening.Reading read) (w : Setup) (issued : Nat) (s : Session)
    (f : Flight) :
    (((l.land f.run).record [.finished f.run f.result]).record (s.hearing w issued f)).last? read =
      (read (.presented (f.verdict w).note ((s.presentation w issued f).fate = .shown)
        (s.outdates f))).or ((read (.finished f.run f.result)).or (l.last? read)) := by
  obtain ⟨es, hes, hEq⟩ := s.exists_hearing_eq w issued f
  rw [hEq, last?_record_append, last?_record_singleton, last?_record hRead hes, last?_finished]

/-- The runs of the session that have completed, the last one first. -/
def finished (l : Life) : List RunNumber := l.history.filterMap Happening.finished?

theorem finished_record {es : List Happening} (hes : Happening.Quiet es) :
    (l.record es).finished = l.finished := by
  have hNone : es.reverse.filterMap Happening.finished? = [] :=
    List.filterMap_eq_nil_iff.mpr fun e he =>
      Happening.reading_finished? e (hes e (List.mem_reverse.mp he))
  rw [finished, history_record, List.filterMap_append, hNone, List.nil_append, finished]

theorem finished_land (f : Flight) :
    ((l.land f.run).record [.finished f.run f.result]).finished = f.run :: l.finished := rfl

theorem finished_hearing (w : Setup) (issued : Nat) (s : Session) (f : Flight) :
    (l.record (s.hearing w issued f)).finished = l.finished := by
  obtain ⟨es, hes, hEq⟩ := s.exists_hearing_eq w issued f
  rw [hEq, finished, history_record, List.reverse_append, List.append_assoc, List.filterMap_append,
    ← history_record, ← finished, finished_record hes]
  rfl

theorem finished_release (s : Session) : (l.release s).finished = l.finished := by
  rw [finished, history_release, ← history_record, ← finished,
    finished_record (Happening.quiet_parting s _)]

end Life

end LiveLine
