import LiveLine.Classifier
import LiveLine.Proofs.Annotated
import LiveLine.Proofs.Completions
import LiveLine.Proofs.Courses
import LiveLine.Proofs.References
import LiveLine.Proofs.Starts

/-!
# A place for every output

A run starts only where the cursor is on a line of the document that is not blank, and what the run
says goes to that line.  So its output is shown unless the line has gone by then, and its error
unless the line is gone that the error itself refers to.

* `Host.Launch`: the evaluation that started a run.
* `Host.Course.exists_launch`: every run in flight was started by one.
* `Snapshot.exists_line`: a line that is evaluated is there and not blank.
* `Host.Reachable.output_shown`, `Host.Reachable.error_dropped_iff`: completions.
-/

namespace LiveLine

/-! ### Lines that are evaluated -/

theorem Classifier.isAllBlank_of_evaluates {k : Classifier} {line : Text}
    (hLine : k.evaluates line = true) : line.isAllBlank = false := by
  cases hBlank : line.isAllBlank with
  | false => rfl
  | true => simp [evaluates, (Text.trim_eq_nil_iff line).mpr hBlank] at hLine

theorem Document.hasLine_of_line? {d : Document} {i : Nat} {line : Text}
    (hLine : d.line? i = some line) : d.hasLine i = true :=
  decide_eq_true (List.getElem?_eq_some_iff.mp hLine).1

/-- A cursor past the end of the document shows an empty line, which is not evaluated. -/
theorem Snapshot.exists_line {k : Classifier} {s : Snapshot}
    (hLine : k.evaluates s.cursorText = true) :
    ∃ line, s.document.line? s.cursor = some line ∧ line.isAllBlank = false := by
  have hBlank := Classifier.isAllBlank_of_evaluates hLine
  rw [cursorText] at hBlank
  cases hFound : s.document.line? s.cursor with
  | none => simp [hFound, Text.isAllBlank] at hBlank
  | some line => exact ⟨line, rfl, by simpa [hFound] using hBlank⟩

/-! ### Lines that errors refer to -/

theorem line_verdict_of_output (w : Setup) {f : Flight} (hOutput : f.result.errorText? = none) :
    (f.verdict w).note.kind = .output ∧ (f.verdict w).note.line = f.request.targetLine ∧
      (f.verdict w).note.color = w.colors.output := by
  rw [Flight.verdict, Verdict.ofResult, hOutput]
  exact ⟨rfl, rfl, rfl⟩

theorem line_verdict_of_error (w : Setup) {f : Flight} {message : Text}
    (hError : f.result.errorText? = some message) :
    (f.verdict w).note.line = (referencedLine? message).getD f.request.targetLine := by
  rw [Flight.verdict, Verdict.ofResult, hError]

namespace Host

variable {owner : Nat → EditorId} {w : Setup} {h : Host} {s : Session} {f : Flight} {a : Act}

/-! ### Evaluations that start runs -/

/-- In some state a session evaluates its cursor line, and a run starts for it. -/
structure Launch (w : Setup) (d : Deed) (s : Session) (f : Flight) : Prop where
  act : d.act = .begin f.editor ∨ d.act = .elapse f.editor
  session : d.host.session? f.editor = some s
  number : f.session = s.number
  flight : f ∈ (d.host.act w d.act).flights
  run : f.run = d.host.started
  request : f.request = s.request
  evaluates : w.evaluates s.snapshot.cursorText = true

theorem Sound.exists_launch_fired (hs : Sound owner h) {id : EditorId}
    (hf : h.session? id = some s) (ha : a = .begin id ∨ a = .elapse id)
    (hStarts : h.started < (h.act w a).started) : ∃ f, Launch w ⟨h, a⟩ s f := by
  obtain ⟨-, he⟩ := hs.mem_of_session? hf
  obtain ⟨pre, -, hAct⟩ := exists_act_eq_fire (w := w) hf ha
  have hf' := session?_cancelled hs.sorted hf pre
  obtain ⟨hDisposed, hLine⟩ : s.disposed = false ∧ w.evaluates s.snapshot.cursorText = true := by
    rw [hAct, started_fire hf'] at hStarts
    by_contra hNot
    rw [if_neg hNot] at hStarts
    exact absurd hStarts (Nat.lt_irrefl _)
  obtain ⟨l', hFire, hPart⟩ := hs.part_fired (w := w) hf pre
  cases hFire with
  | off hOff => exact absurd (hDisposed.symm.trans hOff) Bool.false_ne_true
  | rejected _ hRejected => exact absurd (hLine.symm.trans hRejected) (by decide)
  | started =>
    have hFlight : h.takeoff w (Session.evaluated w { s with timer := s.timer.cancel }) ∈
        ((h.act w a).part id).flights := by
      rw [hAct, hPart, Function.update_self]
      exact Life.mem_flights_launch.mpr (Or.inr rfl)
    obtain rfl := he
    exact ⟨_, ha, hf, rfl, (mem_flights_part.mp hFlight).1, rfl, rfl, hLine⟩

/-- Only an evaluation starts a run. -/
theorem Sound.exists_launch (hs : Sound owner h) (hStarts : h.started < (h.act w a).started) :
    ∃ s f, Launch w ⟨h, a⟩ s f := by
  by_cases ha : a.IsFire
  swap
  · exact absurd (started_act ha) (Nat.ne_of_gt hStarts)
  cases a with
  | begin id =>
    cases hf : h.session? id with
    | none =>
      simp only [Host.act, Host.begin, Host.cancelTimer, Host.fire, hf] at hStarts
      exact absurd hStarts (Nat.lt_irrefl _)
    | some s => exact ⟨s, hs.exists_launch_fired hf (Or.inl rfl) hStarts⟩
  | elapse id =>
    cases hf : h.session? id with
    | none =>
      simp only [Host.act, Host.elapse, hf] at hStarts
      exact absurd hStarts (Nat.lt_irrefl _)
    | some s => exact ⟨s, hs.exists_launch_fired hf (Or.inr rfl) hStarts⟩
  | _ => exact ha.elim

theorem Course.exists_prior {c : List Deed} {g : Host} (hc : Course w h c g) {d : Deed}
    (hd : d ∈ c) : Leads w h d.host ∧ d.act.Possible d.host := by
  induction hc with
  | nil => exact absurd hd List.not_mem_nil
  | cons prior a possible ih =>
    rcases List.mem_cons.mp hd with rfl | hd
    · exact ⟨prior.leads, possible⟩
    · exact ih hd

/-- **Every run in flight was started by an evaluation.** -/
theorem Course.exists_launch {c : List Deed} (hc : Course w {} c h) (hf : f ∈ h.flights) :
    ∃ d ∈ c, ∃ s, Launch w d s f := by
  induction hc with
  | nil => exact absurd hf List.not_mem_nil
  | @cons c h prior a possible ih =>
    obtain ⟨owner, hs⟩ := Reachable.sound prior.leads
    rcases hs.mem_flights_act possible hf with hOld | hNew
    · obtain ⟨d, hd, hLaunch⟩ := ih hOld
      exact ⟨d, List.mem_cons_of_mem _ hd, hLaunch⟩
    · obtain ⟨owner', hs'⟩ := hs.act (w := w) possible
      obtain ⟨s, g, hLaunch⟩ := hs.exists_launch (hNew ▸ (hs'.flight f hf).1)
      obtain rfl := hs'.eq_of_run hf hLaunch.flight (hNew.trans hLaunch.run.symm)
      exact ⟨_, List.mem_cons_self .., s, hLaunch⟩

/-! ### Completions -/

/-- How many annotations were dropped, as telemetry counts them. -/
def dropped (h : Host) : Nat := (Telemetry.ofEntries h.journal).dropped

theorem countP_dropped_hearing (w : Setup) (issued : Nat) (s : Session) (f : Flight) :
    (s.hearing w issued f).countP (· matches .dropped ..) =
      if s.snapshot.document.hasLine (f.verdict w).note.line then 0 else 1 := by
  have hFate : (s.presentation w issued f).fate =
      if s.snapshot.document.hasLine (f.verdict w).note.line then .shown else .dropped :=
    Session.fate_presentation
  have hCalls : ((s.presentation w issued f).calls.map Happening.called).countP
      (· matches .dropped ..) = 0 := by
    rw [List.countP_map]
    exact List.countP_eq_zero.mpr fun call _ => Bool.false_ne_true
  rw [Session.hearing, fateEntries, List.cons_append, List.countP_cons, List.countP_append,
    List.countP_append, List.countP_append, hCalls, hFate]
  cases s.snapshot.document.hasLine (f.verdict w).note.line <;> cases (f.verdict w).alert <;> rfl

theorem dropped_complete (hSome : h.numbered? f.session = some s) (hAttends : s.attends w f) :
    (h.complete w f).dropped = h.dropped +
      if s.snapshot.document.hasLine (f.verdict w).note.line then 0 else 1 := by
  have hFinished : (h.finish f).dropped = h.dropped := rfl
  have hHeard : (h.complete w f).dropped =
      (h.finish f).dropped + (s.hearing w h.issued f).countP (· matches .dropped ..) := by
    have hEntries : ((s.hearing w h.issued f).map s.entry).reverse.countP
        (fun e => e.event matches .dropped ..) =
          (s.hearing w h.issued f).countP (· matches .dropped ..) := by
      rw [List.countP_reverse, List.countP_map]
      rfl
    rw [complete_of_attends hSome hAttends, Nat.add_comm, ← hEntries]
    exact List.countP_append
  rw [hHeard, hFinished, countP_dropped_hearing]

/-- The session of a run after it has taken notice of it. -/
theorem Sound.numbered?_complete (hs : Sound owner h) (hf : f ∈ h.flights)
    (hSome : h.numbered? f.session = some s) (hAttends : s.attends w f) :
    (h.complete w f).numbered? f.session = some (s.heard w h.issued f) := by
  obtain ⟨hm, hn⟩ := hs.numbered?_eq_some.mp hSome
  have hPut : (h.complete w f).sessions = insertSession (s.heard w h.issued f) h.sessions := by
    rw [complete_of_attends hSome hAttends]
    rfl
  refine (hs.complete hf).numbered?_eq_some.mpr ⟨?_, hn⟩
  rw [hPut]
  exact (mem_insertSession hs.sorted).mpr (Or.inl rfl)

/-- What shows an output behind a line of the document. -/
def outputDecoration (w : Setup) (d : Document) (f : Flight) : Decoration :=
  .inlineText f.request.targetLine (d.lineLength f.request.targetLine)
    (" # ".toList ++ (f.verdict w).note.text.trim) w.colors.output

/-- An output whose line is there takes the place of the former one, as one text behind the
line. -/
theorem presentation_output (issued : Nat) (hOutput : f.result.errorText? = none)
    (hLine : s.snapshot.document.hasLine f.request.targetLine = true) :
    s.presentation w issued f =
      { presenter := { s.presenter with
          output := some ⟨(f.verdict w).note, [w.ids (issued + 1)]⟩ }
        calls := Shown.removeCalls s.presenter.output ++
          [.apply (w.ids (issued + 1)) (outputDecoration w s.snapshot.document f)]
        issued := issued + 1
        fate := .shown } := by
  obtain ⟨hKind, hPlace, hColor⟩ := line_verdict_of_output w hOutput
  have hText : (f.verdict w).note.text.isAllBlank = false := Verdict.text_not_isAllBlank ..
  have hDrawn : (f.verdict w).note.decorations s.snapshot.document =
      [outputDecoration w s.snapshot.document f] := by
    simp only [hKind, hText, hPlace, hColor, Annotation.decorations]
    rfl
  rw [Session.presentation, Presenter.present_shown (by simp [hKind]) (by rw [hPlace, hLine]),
    hDrawn, hKind]
  rfl

theorem Reachable.output_shown (hr : Reachable w h) (hf : f ∈ h.flights)
    (hSome : h.numbered? f.session = some s) (hAttends : s.attends w f)
    (hLine : s.snapshot.document.hasLine f.request.targetLine = true)
    (hOutput : f.result.errorText? = none) :
    (h.complete w f).calls = h.calls ++ (Shown.removeCalls s.presenter.output ++
      [SurfaceCall.apply (w.ids (h.issued + 1)) (outputDecoration w s.snapshot.document f)]).map
        (f.editor, ·) ∧
    (∃ t, (h.complete w f).numbered? f.session = some t ∧
      t.presenter.output = some ⟨(f.verdict w).note, [w.ids (h.issued + 1)]⟩) ∧
    (h.complete w f).dropped = h.dropped := by
  obtain ⟨owner, hs⟩ := hr.sound
  have hPresentation := presentation_output (w := w) h.issued hOutput hLine
  have hSilent : (f.verdict w).alert = none := by
    rw [Flight.verdict, Verdict.ofResult, hOutput]
  refine ⟨?_, ⟨_, hs.numbered?_complete hf hSome hAttends, ?_⟩, ?_⟩
  · rw [hs.calls_complete hf hSome hAttends, hPresentation, hSilent]
    exact congrArg _ (congrArg _ (List.append_nil _))
  · rw [Session.heard, hPresentation]
  · rw [dropped_complete hSome hAttends, (line_verdict_of_output w hOutput).2.1, hLine]
    rfl

/-- The annotation of an error is dropped just when the error refers to a line that is gone. -/
theorem error_dropped_iff (hSome : h.numbered? f.session = some s) (hAttends : s.attends w f)
    (hLine : s.snapshot.document.hasLine f.request.targetLine = true) {message : Text}
    (hError : f.result.errorText? = some message) :
    h.dropped < (h.complete w f).dropped ↔
      ∃ digits n, lineReference? message = some digits ∧
        Text.wordNumeral? digits = some (n + 1) ∧ s.snapshot.document.lineCount ≤ n := by
  have hPlace := line_verdict_of_error w hError
  have hCount : h.dropped < (h.complete w f).dropped ↔
      s.snapshot.document.hasLine (f.verdict w).note.line = false := by
    rw [dropped_complete hSome hAttends]
    cases s.snapshot.document.hasLine (f.verdict w).note.line <;> simp
  have hReference : (∃ digits n, lineReference? message = some digits ∧
      Text.wordNumeral? digits = some (n + 1) ∧ s.snapshot.document.lineCount ≤ n) ↔
        ∃ n, referencedLine? message = some n ∧ s.snapshot.document.lineCount ≤ n := by
    simp only [referencedLine?_eq_some]
    exact ⟨fun ⟨digits, n, hDigits, hNumeral, hGone⟩ => ⟨n, ⟨digits, hDigits, hNumeral⟩, hGone⟩,
      fun ⟨n, ⟨digits, hDigits, hNumeral⟩, hGone⟩ => ⟨digits, n, hDigits, hNumeral, hGone⟩⟩
  rw [hCount, hReference, hPlace]
  cases hFound : referencedLine? message with
  | none => simp [hLine]
  | some n => simp [Document.hasLine]

/-- **A place for every output.**  Whatever lines a classifier picks: where an evaluation starts a
run, the cursor is on a line of the document that is not blank, and the run is for that line; and
every run in flight was started so.  When a run completes and is heeded while its line is still in
the document, an output is shown as one text behind the line and is not dropped, and an error is
dropped only if it refers to a line that is not in the document. -/
theorem Course.output_placed {k : Classifier} (hw : w.evaluates = k.evaluates) {c : List Deed}
    (hc : Course w {} c h) :
    (∀ d ∈ c, d.host.started < (d.host.act w d.act).started → ∃ s f, Launch w d s f) ∧
    (∀ d s f, Launch w d s f → f.request = .through s.snapshot.document.text s.snapshot.cursor ∧
      s.snapshot.document.hasLine s.snapshot.cursor = true ∧
      ∃ line, s.snapshot.document.line? s.snapshot.cursor = some line ∧
        line.isAllBlank = false) ∧
    (∀ f ∈ h.flights, ∃ d ∈ c, ∃ s, Launch w d s f) ∧
    ∀ f ∈ h.flights, h.Heeds w f → ∃ s, h.numbered? f.session = some s ∧
      (f.request.targetLine < s.snapshot.document.lineCount →
        (f.result.errorText? = none →
          (h.complete w f).calls = h.calls ++ (Shown.removeCalls s.presenter.output ++
            [SurfaceCall.apply (w.ids (h.issued + 1))
              (outputDecoration w s.snapshot.document f)]).map (f.editor, ·) ∧
          (∃ t, (h.complete w f).numbered? f.session = some t ∧
            t.presenter.output = some ⟨(f.verdict w).note, [w.ids (h.issued + 1)]⟩) ∧
          (h.complete w f).dropped = h.dropped) ∧
        ∀ message, f.result.errorText? = some message →
          (h.dropped < (h.complete w f).dropped ↔
            ∃ digits n, lineReference? message = some digits ∧
              Text.wordNumeral? digits = some (n + 1) ∧ s.snapshot.document.lineCount ≤ n)) := by
  refine ⟨fun d hd hStarts => ?_, fun d s f hLaunch => ?_, fun f hf => hc.exists_launch hf,
    fun f hf hHeeds => ?_⟩
  · obtain ⟨owner, hs⟩ := Reachable.sound (hc.exists_prior hd).1
    exact hs.exists_launch hStarts
  · have hLine := hLaunch.evaluates
    rw [hw] at hLine
    obtain ⟨line, hFound, hText⟩ := Snapshot.exists_line hLine
    exact ⟨hLaunch.request, Document.hasLine_of_line? hFound, line, hFound, hText⟩
  · obtain ⟨s, hSome, hAttends⟩ := (Reachable.exists_attends_iff hc.leads hf).mpr hHeeds
    refine ⟨s, hSome, fun hPlace => ?_⟩
    have hLine : s.snapshot.document.hasLine f.request.targetLine = true := decide_eq_true hPlace
    exact ⟨Reachable.output_shown hc.leads hf hSome hAttends hLine,
      fun message hError => error_dropped_iff hSome hAttends hLine hError⟩

/-- The lines that are calls are evaluated, and runs take a second. -/
def calling : Setup := { sample fun _ => 1000 with evaluates := ({} : Classifier).evaluates }

/-- A run is in flight while the text behind its line has gone. -/
def shortened : Host :=
  run calling {} [.openEditor 1 ⟨⟨"x\nprint(1)\n".toList⟩, 1⟩, .notify 1, .advance 10,
    .edit 1 (some "x\ny".toList) (some 7)]

theorem output_placed_shortened :
    calling.evaluates = ({} : Classifier).evaluates ∧ ∃ c, Course calling {} c shortened ∧
      ∃ f ∈ shortened.flights, (∃ d ∈ c, ∃ s, Launch calling d s f ∧
        s.snapshot.document.hasLine s.snapshot.cursor = true) ∧
      shortened.Heeds calling f ∧ (shortened.complete calling f).dropped = shortened.dropped := by
  obtain ⟨c, hc⟩ := Leads.exists_course (Reachable.run (w := calling) _)
  obtain ⟨-, hLine, hLaunch, hComplete⟩ := Course.output_placed (w := calling) (k := {}) rfl hc
  obtain ⟨f, hf, hOwn, hHeeds, hOutput, hTarget⟩ : ∃ f ∈ shortened.flights, f.session = 0 ∧
      shortened.Heeds calling f ∧ f.result.errorText? = none ∧ f.request.targetLine = 1 := by
    decide +kernel
  obtain ⟨d, hd, s, hStarted⟩ := hLaunch f hf
  obtain ⟨t, hSome, hPlaced⟩ := hComplete f hf hHeeds
  have hCount : ∀ t, shortened.numbered? 0 = some t → 1 < t.snapshot.document.lineCount := by
    have hLines : (shortened.numbered? 0).map (·.snapshot.document.lineCount) = some 2 := by
      decide +kernel
    intro t ht
    rw [ht] at hLines
    exact Nat.lt_of_lt_of_eq (by decide) (Option.some.inj hLines).symm
  have hShown := (hPlaced (hTarget ▸ hCount t (hOwn ▸ hSome))).1 hOutput
  exact ⟨rfl, c, hc, f, hf, ⟨d, hd, s, hStarted, (hLine d s f hStarted).2.1⟩, hHeeds, hShown.2.2⟩

end Host

end LiveLine
