import LiveLine.Proofs.Annotated
import LiveLine.Proofs.Courses

/-!
# The last writer wins

What a session shows of a kind is decided by the last event that concerned its slot: the opening of
the session, an evaluation that rejected the cursor line, or the completion of a run whose
annotation is of that kind.  Nothing else changes the slot.

* `Act.writing?`: what an act writes into a slot, read off the act and the state in which it
  happens.
* `Reachable.active?_act`: what one act leaves in a slot.
* `Course.last_writer_wins`: what all acts of a course leave in it.
-/

namespace LiveLine

/-- An event that decides what a session shows of a kind. -/
inductive Writing where
  | opened
  | rejected
  /-- A run completed while the editor of its session showed the document. -/
  | completed (flight : Flight) (document : Document)

/-- What a slot holds after it was written. -/
def Writing.note? (w : Setup) : Writing → Option Annotation
  | opened | rejected => none
  | completed f d =>
    if (f.verdict w).note.line < d.lineCount then some (f.verdict w).note else none

namespace Host

/-- What an act writes into the slot of a kind of the session with a number.  Under the cancel
policy a run that was superseded writes nothing. -/
def Act.writing? (w : Setup) (n : Nat) (kind : Annotation.Kind) (h : Host) : Act → Option Writing
  | openEditor .. => if h.opened = n then some .opened else none
  | begin id | elapse id => (h.session? id).bind fun s =>
    if s.number = n ∧ w.evaluates s.snapshot.cursorText = false then some .rejected else none
  | complete f => (h.numbered? n).bind fun s =>
    if f.session = n ∧ (f.verdict w).note.kind = kind ∧
        (w.onSupersede = .cancel → (h.life n).lastFire? = some (some f.run)) then
      some (.completed f s.snapshot.document)
    else none
  | _ => none

/-- The last event of a course that wrote into the slot. -/
def lastWriting? (w : Setup) (n : Nat) (kind : Annotation.Kind) (c : List Deed) : Option Writing :=
  c.findSome? fun d => d.act.writing? w n kind d.host

section

variable {owner : Nat → EditorId} {w : Setup} {h : Host} {s t : Session} {a : Act} {n : Nat}
  {kind : Annotation.Kind}

theorem Act.writing?_of_ne (hn : a.subject? h ≠ some n) : a.writing? w n kind h = none := by
  have hEditor : ∀ id, (h.session? id).map Session.number ≠ some n →
      ((h.session? id).bind fun s => if s.number = n ∧ w.evaluates s.snapshot.cursorText = false
        then some Writing.rejected else none) = none := by
    intro id hn
    cases hf : h.session? id with
    | none => rfl
    | some s =>
      have hne : s.number ≠ n := fun h => hn (by rw [hf, ← h]; rfl)
      simp [hne]
  cases a with
  | openEditor => exact if_neg fun h => hn (congrArg some h)
  | begin id => exact hEditor id hn
  | elapse id => exact hEditor id hn
  | complete f =>
    have hne : f.session ≠ n := fun h => hn (congrArg some h)
    cases hf : h.numbered? n <;> simp [writing?, hf, hne]
  | edit => rfl
  | notify => rfl
  | dispose => rfl
  | evict => rfl
  | focus => rfl
  | tick => rfl

/-- An evaluation empties the slots of the session where it rejects the line. -/
theorem Sound.active?_fired (hs : Sound owner h) (hm : s ∈ h.sessions) {pre : List Happening}
    {g : Host} (hg : g = ((h.log s pre).put { s with timer := s.timer.cancel }).fire w s.editor)
    (ht : (g.life s.number).session = some t) (hOpen : t.disposed = false) :
    w.evaluates s.snapshot.cursorText = false ∧ t.presenter.active? kind = none ∨
      w.evaluates s.snapshot.cursorText = true ∧ s.disposed = false ∧
        t.presenter.active? kind = s.presenter.active? kind := by
  obtain ⟨l', hFire, hLife⟩ := hs.life_fired (w := w) hm pre
  rw [hg, hLife, Function.update_self] at ht
  cases hFire with
  | off hDisposed =>
    obtain rfl := Option.some.inj ht
    exact absurd (hDisposed.symm.trans hOpen) (by decide)
  | started hDisposed hLine =>
    obtain rfl := Option.some.inj ht
    exact Or.inr ⟨hLine, hDisposed, rfl⟩
  | rejected hDisposed hLine =>
    obtain rfl := Option.some.inj ht
    exact Or.inl ⟨hLine, Presenter.active?_empty kind⟩

/-- The completion of a run writes its annotation into the slot of its kind, unless it is
ignored. -/
theorem Reachable.active?_complete (hr : Reachable w h) {f : Flight} (hf : f ∈ h.flights)
    (ht : ((h.complete w f).life f.session).session = some t) (hOpen : t.disposed = false) :
    (∃ x, (Act.complete f).writing? w f.session kind h = some x ∧
      t.presenter.active? kind = x.note? w) ∨
    (Act.complete f).writing? w f.session kind h = none ∧
      ∃ s, (h.life f.session).session = some s ∧ s.disposed = false ∧
        t.presenter.active? kind = s.presenter.active? kind := by
  obtain ⟨owner, hs⟩ := hr.sound
  have hCurrent : ∀ s, (h.life f.session).session = some s →
      (s.outdates f = false ↔ (h.life f.session).lastFire? = some (some f.run)) := by
    intro s hSession
    obtain ⟨hm, hn⟩ := hs.numbered?_eq_some.mp hSession
    have hTracked := hr.tracked hm
    rw [hn] at hTracked
    exact hTracked.current f (mem_flights_life.mpr ⟨hf, rfl⟩)
  obtain ⟨l', hLanding, hLife⟩ := hs.life_complete (w := w) hf
  rw [hLife, Function.update_self] at ht
  cases hLanding with
  | ignored hIgnored =>
    have hSession : h.numbered? f.session = some t := ht
    refine Or.inr ⟨?_, t, hSession, hOpen, rfl⟩
    rcases hIgnored t hSession with hDisposed | ⟨hOut, hCancel⟩
    · exact absurd (hDisposed.symm.trans hOpen) (by decide)
    · have hSuperseded : (h.life f.session).lastFire? ≠ some (some f.run) := fun hLast =>
        absurd (((hCurrent t hSession).mpr hLast).symm.trans hOut) (by decide)
      simp [Act.writing?, hSession, hCancel, hSuperseded]
  | @presented s hSession hDisposed hHeard =>
    obtain rfl := Option.some.inj ht
    have hPolicy : w.onSupersede = .cancel → (h.life f.session).lastFire? = some (some f.run) := by
      intro hCancel
      refine (hCurrent s hSession).mp (hHeard.resolve_right fun hFinish => ?_)
      exact absurd (hCancel.symm.trans hFinish) (by decide)
    have hFound : h.numbered? f.session = some s := hSession
    by_cases hKind : kind = (f.verdict w).note.kind
    · refine Or.inl ⟨.completed f s.snapshot.document, ?_, ?_⟩
      · simpa [Act.writing?, hFound, hKind] using hPolicy
      · rw [hKind, Session.active?_heard_self, Writing.note?]
        simp only [Document.hasLine, decide_eq_true_eq]
    · refine Or.inr ⟨?_, s, hSession, hDisposed, Session.active?_heard_of_ne hKind⟩
      simp [Act.writing?, hFound, Ne.symm hKind]

/-- **What one act leaves in a slot** is what it writes, or what was there before. -/
theorem Reachable.active?_act (hr : Reachable w h) (possible : a.Possible h)
    (ht : ((h.act w a).life n).session = some t) (hOpen : t.disposed = false) :
    (∃ x, a.writing? w n kind h = some x ∧ t.presenter.active? kind = x.note? w) ∨
    a.writing? w n kind h = none ∧ ∃ s, (h.life n).session = some s ∧ s.disposed = false ∧
      t.presenter.active? kind = s.presenter.active? kind := by
  obtain ⟨owner, hs⟩ := hr.sound
  by_cases hn : a.subject? h = some n
  swap
  · rw [hs.life_act_of_ne possible hn] at ht
    exact Or.inr ⟨Act.writing?_of_ne hn, t, ht, hOpen, rfl⟩
  have hFired : ∀ (s : Session) (pre : List Happening), s ∈ h.sessions → s.number = n →
      h.act w a = ((h.log s pre).put { s with timer := s.timer.cancel }).fire w s.editor →
      a.writing? w n kind h =
        (if w.evaluates s.snapshot.cursorText = false then some .rejected else none) →
      (∃ x, a.writing? w n kind h = some x ∧ t.presenter.active? kind = x.note? w) ∨
        a.writing? w n kind h = none ∧ ∃ s, (h.life n).session = some s ∧ s.disposed = false ∧
          t.presenter.active? kind = s.presenter.active? kind := by
    rintro s pre hm rfl hAct hWriting
    rcases hs.active?_fired hm hAct ht hOpen with ⟨hLine, hNone⟩ | ⟨hLine, hDisposed, hSame⟩
    · exact Or.inl ⟨.rejected, by rw [hWriting, if_pos hLine], hNone⟩
    · exact Or.inr ⟨by rw [hWriting, hLine]; rfl, s, hs.life_session hm, hDisposed, hSame⟩
  cases a with
  | openEditor id snapshot =>
    obtain rfl := Option.some.inj hn
    have hLife := congrFun (hs.life_openEditor (w := w) possible snapshot) h.opened
    rw [Function.update_self] at hLife
    rw [show (h.act w (.openEditor id snapshot)).life h.opened = _ from hLife] at ht
    obtain rfl := Option.some.inj ht
    exact Or.inl ⟨.opened, if_pos rfl, Presenter.active?_empty kind⟩
  | edit id text cursor =>
    obtain ⟨s, hm, rfl, rfl⟩ := hs.mem_of_subject hn
    rw [show h.act w (.edit s.editor text cursor) = h.edit s.editor text cursor from rfl,
      hs.life_edit hm, Function.update_self] at ht
    obtain rfl := Option.some.inj ht
    exact Or.inr ⟨rfl, s, hs.life_session hm, hOpen, rfl⟩
  | notify id =>
    obtain ⟨s, hm, rfl, rfl⟩ := hs.mem_of_subject hn
    cases hDisposed : s.disposed with
    | true =>
      have hf := (session?_eq_some hs.sorted).mpr ⟨hm, rfl⟩
      have hSame : h.act w (.notify s.editor) = h := by simp [act, notify, hf, hDisposed]
      rw [hSame] at ht
      exact Or.inr ⟨rfl, t, ht, hOpen, rfl⟩
    | false =>
      rw [show h.act w (.notify s.editor) = h.notify s.editor from rfl,
        hs.life_notify hm hDisposed, Function.update_self] at ht
      obtain rfl := Option.some.inj ht
      exact Or.inr ⟨rfl, s, hs.life_session hm, hDisposed, rfl⟩
  | begin id =>
    obtain ⟨s, hm, rfl, hNumber⟩ := hs.mem_of_subject hn
    have hf := (session?_eq_some hs.sorted).mpr ⟨hm, rfl⟩
    exact hFired s _ hm hNumber (act_begin hf) (by simp [Act.writing?, hf, hNumber])
  | elapse id =>
    obtain ⟨s, hm, rfl, hNumber⟩ := hs.mem_of_subject hn
    have hf := (session?_eq_some hs.sorted).mpr ⟨hm, rfl⟩
    exact hFired s _ hm hNumber (act_elapse hf) (by simp [Act.writing?, hf, hNumber])
  | complete f =>
    obtain rfl := Option.some.inj hn
    exact hr.active?_complete possible ht hOpen
  | dispose id =>
    obtain ⟨s, hm, rfl, rfl⟩ := hs.mem_of_subject hn
    rw [show h.act w (.dispose s.editor) = h.dispose s.editor from rfl, hs.life_dispose hm,
      Function.update_self] at ht
    obtain rfl := Option.some.inj ht
    exact absurd hOpen (by simp [Session.closed])
  | evict id =>
    obtain ⟨s, hm, rfl, rfl⟩ := hs.mem_of_subject hn
    rw [show h.act w (.evict s.editor) = h.evict s.editor from rfl, hs.life_evict hm,
      Function.update_self] at ht
    exact absurd ht (by simp)
  | focus => exact absurd hn (by simp [Act.subject?])
  | tick => exact absurd hn (by simp [Act.subject?])

theorem Course.active? {c : List Deed} (hc : Course w {} c h)
    (ht : (h.life n).session = some t) (hOpen : t.disposed = false) :
    ∃ x, lastWriting? w n kind c = some x ∧ t.presenter.active? kind = x.note? w := by
  induction hc generalizing t with
  | nil => exact absurd ht (by simp [life, numbered?])
  | cons prior a possible ih =>
    unfold lastWriting?
    rw [List.findSome?_cons]
    rcases Reachable.active?_act prior.leads possible ht hOpen with
      ⟨x, hx, hActive⟩ | ⟨hNone, s, hs, hDisposed, hSame⟩
    · exact ⟨x, by rw [hx], hActive⟩
    · obtain ⟨x, hx, hActive⟩ := ih hs hDisposed
      exact ⟨x, by rw [hNone]; exact hx, hSame.trans hActive⟩

/-- **The last writer wins.**  What a session shows of a kind is what the last event left in the
slot: nothing after its opening or an evaluation that rejected the line; after the completion of a
run that gave an annotation of the kind, that annotation, if its line was in the document at that
moment, and else nothing.  No other act changes the slot. -/
theorem Course.last_writer_wins {c : List Deed} (hc : Course w {} c h) (hm : s ∈ h.sessions)
    (hOpen : s.disposed = false) (kind : Annotation.Kind) :
    (∃ x, lastWriting? w s.number kind c = some x ∧ s.presenter.active? kind = x.note? w) ∧
    ∀ a : Act, a.Possible h → a.writing? w s.number kind h = none →
      ∀ t ∈ (h.act w a).sessions, t.number = s.number → t.disposed = false →
        t.presenter.active? kind = s.presenter.active? kind := by
  obtain ⟨owner, hs⟩ := Reachable.sound hc.leads
  refine ⟨hc.active? (hs.life_session hm) hOpen, fun a possible hNone t ht hNumber hOpen' => ?_⟩
  obtain ⟨owner', hs'⟩ := hs.act (w := w) possible
  have hLife := hs'.life_session ht
  rw [hNumber] at hLife
  rcases Reachable.active?_act hc.leads possible hLife hOpen' with
    ⟨x, hx, -⟩ | ⟨-, s', hSession, -, hSame⟩
  · exact absurd (hNone.symm.trans hx) (by simp)
  · obtain rfl := Option.some.inj ((hs.life_session hm).symm.trans hSession)
    exact hSame

/-- The first run takes a second, its line is rejected in the meantime, and it is done last. -/
def revived : Host :=
  run (sample fun _ => 1000) {} [.openEditor 1 ⟨⟨"print(1)\n".toList⟩, 0⟩, .notify 1, .advance 10,
    .edit 1 none (some 1), .evaluate 1, .advance 1000]

/-- The run that was superseded by an evaluation of a blank line is the last to write. -/
theorem last_writer_wins_revived :
    ∃ c, Course (sample fun _ => 1000) {} c revived ∧ ∃ s ∈ revived.sessions,
      s.disposed = false ∧ ∃ f d,
        lastWriting? (sample fun _ => 1000) s.number .output c = some (.completed f d) ∧
          s.presenter.active? .output = some (f.verdict (sample fun _ => 1000)).note := by
  obtain ⟨c, hc⟩ := Leads.exists_course (Reachable.run (w := sample fun _ => 1000) _)
  obtain ⟨s, hm, hOpen, hShown⟩ : ∃ s ∈ revived.sessions,
      s.disposed = false ∧ (s.presenter.active? .output).isSome := by decide
  obtain ⟨x, hx, hActive⟩ := (Course.last_writer_wins hc hm hOpen .output).1
  refine ⟨c, hc, s, hm, hOpen, ?_⟩
  cases x with
  | opened => simp [hActive, Writing.note?] at hShown
  | rejected => simp [hActive, Writing.note?] at hShown
  | completed f d =>
    refine ⟨f, d, hx, ?_⟩
    simp only [hActive, Writing.note?] at hShown ⊢
    split at hShown
    · rename_i hLine
      exact if_pos hLine
    · exact absurd hShown (by decide)

end

end Host

end LiveLine
