import LiveLine.Proofs.Redraws
import Mathlib.Logic.Relation

/-!
# Drafts are of no concern

A run is made from what its editor shows when its line is evaluated.  So a script may leave out an
edit that a later one overwrites, as long as no session looks at the editor in between: the host
comes to the same state, and on the way to the same states but for what editors show.

* `step_redraw`: a step that does not look at an editor, and does not set what it shows.
* `Overwritten`: a script leaves out an edit that is overwritten.
* `Overwritten.same`: it comes to the same.
* `runs_built_when_fired`: what the runner is asked, and that drafts are of no concern.
-/

namespace LiveLine.Host

/-- Whether a step sets what an editor shows. -/
def Step.sets (id : EditorId) : Step → Bool
  | openEditor other _ | edit other _ _ => other = id
  | _ => false

def Step.isEdit : Step → Bool
  | edit .. => true
  | _ => false

/-- A host, but for what its editors show. -/
def besides (h : Host) : Host :=
  { h with sessions := h.sessions.map fun s => { s with snapshot := ⟨.empty, 0⟩ } }

/-- The states of a host after each step of a script that is no edit, but for what editors show. -/
def glimpses (w : Setup) (h : Host) : List Step → List Host
  | [] => []
  | step :: steps =>
    (if step.isEdit then [] else [(h.step w step).besides]) ++ glimpses w (h.step w step) steps

/-- A script leaves out an edit which a later one of the same editor overwrites, and in between no
session of the editor looks at what it shows. -/
inductive Overwritten (w : Setup) : List Step → List Step → Prop
  | edit (before between after : List Step) (id : EditorId) {text text' : Option Text}
      {cursor cursor' : Option Nat} (hText : text.isSome = true → text'.isSome = true)
      (hCursor : cursor.isSome = true → cursor'.isSome = true)
      (hUnseen : (run w {} (before ++ .edit id text cursor :: between)).looks id =
        (run w {} before).looks id) :
      Overwritten w (before ++ .edit id text cursor :: (between ++ .edit id text' cursor' :: after))
        (before ++ (between ++ .edit id text' cursor' :: after))

section

variable {owner : Nat → EditorId} {w : Setup} {h h' : Host} {id : EditorId}
  {g g₀ : Snapshot → Snapshot} {text text' : Option Text} {cursor cursor' : Option Nat}

/-! ### Steps that do not look -/

theorem call_redraw {step : Step} (hSets : step.sets id = false)
    (hUnseen : ((h.redraw id g₀).call w step).looks id = h.looks id) (g : Snapshot → Snapshot) :
    (h.redraw id g).call w step = (h.call w step).redraw id g := by
  cases step with
  | openEditor other snapshot =>
    exact openEditor_redraw_of_ne (by simpa [Step.sets] using hSets) h _
  | edit other text cursor => exact edit_redraw_of_ne (by simpa [Step.sets] using hSets) h _ _
  | event e => exact handle_redraw h e
  | advance time => rfl
  | notify other => exact notify_redraw h other
  | evaluate other => exact begin_redraw hUnseen g
  | dispose other => exact dispose_redraw h other
  | shutdown => exact shutdown_redraw h

/-- How long a step takes has nothing to do with what an editor shows while no one looks. -/
theorem now_step_redraw {step : Step}
    (hCall : (h.redraw id g).call w step = (h.call w step).redraw id g) :
    ((h.redraw id g).step w step).now = (h.step w step).now := by
  cases step with
  | advance time => rfl
  | evaluate other =>
    have hBegin : (h.redraw id g).begin w other = (h.begin w other).redraw id g := hCall
    have hFlight : ((h.begin w other).redraw id g).flight? h.started =
        (h.begin w other).flight? h.started := rfl
    show (((h.redraw id g).begin w other).await w h.started).now =
      ((h.begin w other).await w h.started).now
    rw [hBegin, await, await, hFlight]
    split <;> rfl
  | _ =>
    have hNow := congrArg Host.now hCall
    exact hNow

/-- **A step that does not look at an editor, and does not set what it shows, goes the same way
whatever it shows.** -/
theorem step_redraw {step : Step} (hs : ∃ owner, Sound owner h) (hSets : step.sets id = false)
    (hUnseen : ((h.redraw id g₀).step w step).looks id = h.looks id) (g : Snapshot → Snapshot) :
    (h.redraw id g).step w step = (h.step w step).redraw id g := by
  have hs₀ := exists_sound_redraw hs id g₀
  have hLeads := Leads.call (w := w) hs₀ step
  have hBefore : h.looks id ≤ ((h.redraw id g₀).call w step).looks id := hLeads.looks_le id
  have hAfter := (Leads.advanceTo (w := w) (hLeads.sound hs₀)
    ((h.redraw id g₀).step w step).now).looks_le id
  rw [← step_eq_call, hUnseen] at hAfter
  have hCall := call_redraw (w := w) hSets (Nat.le_antisymm hAfter hBefore)
  have hSame : (h.call w step).looks id = h.looks id := by
    have hLooks := Nat.le_antisymm hAfter hBefore
    rwa [hCall g₀] at hLooks
  rw [step_eq_call, now_step_redraw (hCall g₀), hCall g₀] at hUnseen
  rw [step_eq_call, now_step_redraw (hCall g), hCall g, step_eq_call w h step]
  exact advanceTo_redraw ((Leads.call hs step).sound hs) (hUnseen.trans hSame.symm) g

/-- An edit is over at once. -/
theorem step_edit (hs : ∃ owner, Sound owner h) (hSettled : h.next? h.now = none)
    (text : Option Text) (cursor : Option Nat) :
    h.step w (.edit id text cursor) = h.redraw id (·.edited text cursor) := by
  obtain ⟨owner, hOwner⟩ := hs
  have hNext : (h.redraw id (·.edited text cursor)).next? h.now = none :=
    (next?_redraw h h.now).trans hSettled
  show (h.edit id text cursor).settle w = _
  rw [edit_eq_redraw hOwner.sorted]
  exact advanceTo_of_next?_none hNext

theorem besides_redraw (h : Host) : (h.redraw id g).besides = h.besides := by
  have hSame : (fun s : Session => { s with snapshot := ⟨.empty, 0⟩ }) ∘ Session.redraw id g =
      fun s => { s with snapshot := ⟨.empty, 0⟩ } := by
    funext s
    by_cases he : s.editor = id <;> simp [Session.redraw, he]
  simp only [besides, redraw, List.map_map, hSame]

theorem run_append (w : Setup) (h : Host) (steps steps' : List Step) :
    h.run w (steps ++ steps') = (h.run w steps).run w steps' := List.foldl_append

theorem run_cons (w : Setup) (h : Host) (step : Step) (steps : List Step) :
    h.run w (step :: steps) = (h.step w step).run w steps := rfl

theorem glimpses_append (w : Setup) (h : Host) (steps steps' : List Step) :
    glimpses w h (steps ++ steps') = glimpses w h steps ++ glimpses w (h.run w steps) steps' := by
  induction steps generalizing h with
  | nil => rfl
  | cons step steps ih =>
    rw [List.cons_append, glimpses, ih, glimpses, List.append_assoc]
    rfl

theorem Leads.run (hs : ∃ owner, Sound owner h) (steps : List Step) :
    Leads w h (h.run w steps) := by
  induction steps generalizing h with
  | nil => exact .refl
  | cons step steps ih =>
    have hStep := Leads.step (w := w) hs step
    exact hStep.trans (ih (hStep.sound hs))

/-! ### Edits that are overwritten -/

/-- What an edit overwrites is gone also after an edit in between. -/
theorem edited_congr {x y : Snapshot} (hSame : x.edited text' cursor' = y.edited text' cursor') :
    (x.edited text cursor).edited text' cursor' = (y.edited text cursor).edited text' cursor' := by
  cases text' <;> cases cursor' <;> simp_all [Snapshot.edited]

theorem edited_edited (hText : text.isSome = true → text'.isSome = true)
    (hCursor : cursor.isSome = true → cursor'.isSome = true) (x : Snapshot) :
    (x.edited text cursor).edited text' cursor' = x.edited text' cursor' := by
  cases text <;> cases cursor <;> cases text' <;> cases cursor' <;> simp_all [Snapshot.edited]

/-- Two hosts that differ only in what an editor shows, and not in what is left of that after an
edit. -/
def Drafts (id : EditorId) (text : Option Text) (cursor : Option Nat) (h h' : Host) : Prop :=
  ∃ (k : Host) (g g' : Snapshot → Snapshot), (∃ owner, Sound owner k) ∧ k.next? k.now = none ∧
    (∀ x, (g x).edited text cursor = (g' x).edited text cursor) ∧
    h = k.redraw id g ∧ h' = k.redraw id g'

namespace Drafts

theorem looks_eq (hd : Drafts id text cursor h h') : h.looks id = h'.looks id := by
  obtain ⟨k, g, g', -, -, -, rfl, rfl⟩ := hd
  rfl

theorem besides_eq (hd : Drafts id text cursor h h') : h.besides = h'.besides := by
  obtain ⟨k, g, g', -, -, -, rfl, rfl⟩ := hd
  rw [besides_redraw, besides_redraw]

theorem step (hd : Drafts id text' cursor' h h') (step : Step)
    (hUnseen : (h.step w step).looks id = h.looks id) :
    Drafts id text' cursor' (h.step w step) (h'.step w step) := by
  obtain ⟨k, g, g', hs, hSettled, hSame, rfl, rfl⟩ := hd
  have hSettled' : ∀ g, (k.redraw id g).next? (k.redraw id g).now = none :=
    fun g => (next?_redraw k k.now).trans hSettled
  have hStep : ∃ owner, Sound owner (k.step w step) := (Leads.step hs step).sound hs
  cases hSets : step.sets id with
  | false =>
    have hRedraw := step_redraw (w := w) hs hSets hUnseen
    exact ⟨_, g, g', hStep, next?_step hs step, hSame, hRedraw g, hRedraw g'⟩
  | true =>
    cases step with
    | openEditor other snapshot =>
      obtain rfl : other = id := by simpa [Step.sets] using hSets
      obtain ⟨owner, hOwner⟩ := hs
      have hOpen : ∀ g, (k.redraw other g).step w (.openEditor other snapshot) =
          (k.step w (.openEditor other snapshot)).redraw other fun x => x := by
        intro g
        show ((k.redraw other g).openEditor w other snapshot).settle w = _
        rw [redraw_id, openEditor_redraw_self hOwner.sorted]
        rfl
      exact ⟨_, fun x => x, fun x => x, hStep, next?_step ⟨owner, hOwner⟩ _, fun _ => rfl,
        hOpen g, hOpen g'⟩
    | edit other text cursor =>
      obtain rfl : other = id := by simpa [Step.sets] using hSets
      refine ⟨k, fun x => (g x).edited text cursor, fun x => (g' x).edited text cursor, hs,
        hSettled, fun x => edited_congr (hSame x), ?_, ?_⟩
      · rw [step_edit (exists_sound_redraw hs _ g) (hSettled' g), redraw_redraw]
        rfl
      · rw [step_edit (exists_sound_redraw hs _ g') (hSettled' g'), redraw_redraw]
        rfl
    | _ => exact absurd hSets Bool.false_ne_true

/-- Steps in which no session looks at the editor. -/
theorem run (hd : Drafts id text cursor h h') (hs : ∃ owner, Sound owner h) (steps : List Step)
    (hUnseen : (h.run w steps).looks id = h.looks id) :
    Drafts id text cursor (h.run w steps) (h'.run w steps) ∧
      glimpses w h steps = glimpses w h' steps := by
  induction steps generalizing h h' with
  | nil => exact ⟨hd, rfl⟩
  | cons step steps ih =>
    have hLeads := Leads.step (w := w) hs step
    have hBefore := hLeads.looks_le id
    have hAfter := (Leads.run (w := w) (hLeads.sound hs) steps).looks_le id
    have hEnd : ((h.step w step).run w steps).looks id = h.looks id := hUnseen
    rw [hEnd] at hAfter
    have hSame := Nat.le_antisymm hAfter hBefore
    have hStep := hd.step step hSame
    obtain ⟨hRun, hGlimpses⟩ := ih hStep (hLeads.sound hs) (hEnd.trans hSame.symm)
    refine ⟨hRun, ?_⟩
    rw [glimpses, glimpses, hGlimpses, hStep.besides_eq]

/-- The edit makes them the same. -/
theorem step_edit_eq (hd : Drafts id text cursor h h') :
    h.step w (.edit id text cursor) = h'.step w (.edit id text cursor) := by
  obtain ⟨k, g, g', hs, hSettled, hSame, rfl, rfl⟩ := hd
  have hSettled' : ∀ g, (k.redraw id g).next? (k.redraw id g).now = none :=
    fun g => (next?_redraw k k.now).trans hSettled
  rw [step_edit (exists_sound_redraw hs id g) (hSettled' g),
    step_edit (exists_sound_redraw hs id g') (hSettled' g'), redraw_redraw, redraw_redraw]
  exact congrArg (fun g => k.redraw id g) (funext hSame)

end Drafts

theorem next?_run (w : Setup) (steps : List Step) :
    (run w {} steps).next? (run w {} steps).now = none := by
  rcases List.eq_nil_or_concat steps with rfl | ⟨steps, step, rfl⟩
  · rfl
  · rw [List.concat_eq_append, run_append]
    exact next?_step (Reachable.run steps).sound step

/-- **An edit that is overwritten before anyone looks makes no difference.** -/
theorem Overwritten.same {steps steps' : List Step} (ho : Overwritten w steps steps') :
    run w {} steps = run w {} steps' ∧ glimpses w {} steps = glimpses w {} steps' := by
  cases ho with
  | edit before between after id hText hCursor hUnseen =>
    rename_i text text' cursor cursor'
    have hs : ∃ owner, Sound owner (run w {} before) := (Reachable.run before).sound
    have hEdit : (run w {} before).step w (.edit id text cursor) =
        (run w {} before).redraw id (·.edited text cursor) :=
      step_edit hs (next?_run w before) text cursor
    have hDrafts : Drafts id text' cursor' ((run w {} before).step w (.edit id text cursor))
        (run w {} before) :=
      ⟨_, _, fun x => x, hs, next?_run w before, edited_edited hText hCursor, hEdit,
        (redraw_id id _).symm⟩
    rw [run_append] at hUnseen
    obtain ⟨hBetween, hGlimpses⟩ := hDrafts.run (w := w) ((Leads.step hs _).sound hs) between
      (hUnseen.trans hDrafts.looks_eq.symm)
    have hAfter := hBetween.step_edit_eq (w := w)
    constructor
    · simp only [run_append, run_cons, hAfter]
    · simp only [glimpses_append, glimpses, Step.isEdit, if_true, List.nil_append, hGlimpses,
        hAfter]

/-- **Runs are built from the editor as it is when its line is evaluated.**  What the runner is
asked is what the evaluations of open sessions come to, each from what the editor shows at that
moment, which can be told from the edits before; an evaluation that rejects its line asks for
nothing and clears what the session shows, and the focus makes no difference.  Scripts that differ
only in edits that are overwritten before a session looks at them come to the same, on the way too,
but for what editors show. -/
theorem runs_built_when_fired (w : Setup) :
    (∀ c h, Course w {} c h →
      h.asked = requested w c ∧
      (∀ id s, h.session? id = some s → shows id c = some s.snapshot) ∧
      ∀ a id s, a = .begin id ∨ a = .elapse id → h.session? id = some s → s.disposed = false →
        (w.evaluates s.snapshot.cursorText = false →
          ((h.act w a).part id).starts = (h.part id).starts ∧
          ∃ t, (h.act w a).session? id = some t ∧ t.phase = .idle ∧ t.presenter = {}) ∧
        ∀ focused, act w { h with focused } a = { h.act w a with focused }) ∧
    ∀ steps steps', Relation.EqvGen (Overwritten w) steps steps' →
      run w {} steps = run w {} steps' ∧ glimpses w {} steps = glimpses w {} steps' := by
  constructor
  · intro c h hc
    obtain ⟨owner, hs⟩ := Reachable.sound hc.leads
    exact ⟨hc.asked_eq, fun id s hf => hc.shows_eq hf, fun a id s ha hf hOpen =>
      ⟨fun hLine => hs.evaluated_rejected hf hOpen hLine ha, fun focused => act_focused ha focused⟩⟩
  · intro steps steps' hSteps
    induction hSteps with
    | rel _ _ ho => exact ho.same
    | refl => exact ⟨rfl, rfl⟩
    | symm _ _ _ ih => exact ⟨ih.1.symm, ih.2.symm⟩
    | trans _ _ _ _ _ ih ih' => exact ⟨ih.1.trans ih'.1, ih.2.trans ih'.2⟩

/-- An edit is overwritten while the timer is pending, and the second text is evaluated. -/
def drafted : List Step :=
  [.openEditor 1 ⟨⟨"print(1)\n".toList⟩, 0⟩, .notify 1, .edit 1 (some "x".toList) (some 4),
    .advance 5, .edit 1 (some "print(2)\n".toList) (some 0), .advance 5]

theorem runs_built_when_fired_drafted :
    ∃ c, Course (sample fun _ => 1000) {} c (run (sample fun _ => 1000) {} drafted) ∧
      requested (sample fun _ => 1000) c = [(1, ⟨"print(2)\n".toList, 0⟩)] ∧
      shows 1 c = some ⟨⟨"print(2)\n".toList⟩, 0⟩ ∧
      run (sample fun _ => 1000) {} drafted =
        run (sample fun _ => 1000) {} [.openEditor 1 ⟨⟨"print(1)\n".toList⟩, 0⟩, .notify 1,
          .advance 5, .edit 1 (some "print(2)\n".toList) (some 0), .advance 5] := by
  obtain ⟨hAsked, hDrafts⟩ := runs_built_when_fired (sample fun _ => 1000)
  obtain ⟨c, hc⟩ := Leads.exists_course (Reachable.run (w := sample fun _ => 1000) drafted)
  obtain ⟨hRequested, hShows, -⟩ := hAsked c _ hc
  have hShown : ((run (sample fun _ => 1000) {} drafted).session? 1).map (·.snapshot) =
      some ⟨⟨"print(2)\n".toList⟩, 0⟩ := by decide
  obtain ⟨s, hf, hSnapshot⟩ := Option.map_eq_some_iff.mp hShown
  refine ⟨c, hc, hRequested.symm.trans (by decide), hSnapshot ▸ hShows 1 s hf,
    (hDrafts _ _ (.rel _ _ ?_)).1⟩
  exact .edit [.openEditor 1 ⟨⟨"print(1)\n".toList⟩, 0⟩, .notify 1] [.advance 5] [.advance 5] 1
    (fun _ => rfl) (fun _ => rfl) (by decide)

end

end LiveLine.Host
