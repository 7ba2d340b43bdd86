import LiveLine.Proofs.Accounts
import LiveLine.Proofs.AtOnce
import LiveLine.Proofs.Drafts

/-!
# Where events go

An event concerns the session of its editor, if the host has one.  A change restarts the settle
period of the editor that is focused, and of no other.  The focus moves with the sessions: an editor
that is closed loses it, and no other way of ending a session leaves it on an editor that is gone.

* `Attained`: the states of a host that is called while time passes.
* `Sound.isOpen_act`, `Attained.focusOpen`: the editor that is focused is open.
* `route_eq_scheduled_iff`: which events schedule a trigger.
* `Reachable.session?_notify`, `Reachable.counters_notify`: it is a single one, and starts the timer
  anew.
* `reports_kept`: events that are ignored can be left out of a script.
* `routing_exact`: all of it together.
-/

namespace LiveLine.Host

/-- The states that a host comes to when it is called and time passes in between, in any order. -/
inductive Attained (w : Setup) : Host → Prop
  | initial : Attained w {}
  | call {h : Host} (prior : Attained w h) (step : Step) : Attained w (h.call w step)
  | pass {h h' : Host} (prior : Attained w h) (passes : Passes w h h') : Attained w h'

/-- The host has a session for an editor. -/
def IsOpen (h : Host) (id : EditorId) : Prop := ∃ s ∈ h.sessions, s.editor = id

/-- The editor that is focused is open. -/
def FocusOpen (h : Host) : Prop := ∀ id, h.focused = some id → h.IsOpen id

/-- Whether the answer is that an event was ignored. -/
def Answer.isIgnored : Answer → Bool
  | .routed .ignoredUnfocused | .routed .unknownEditor => true
  | _ => false

/-- A script without the events that are ignored when it is run. -/
def kept (w : Setup) (h : Host) : List Step → List Step
  | [] => []
  | step :: steps =>
    if (h.answer step).isIgnored then kept w (h.step w step) steps
    else step :: kept w (h.step w step) steps

section

variable {owner : Nat → EditorId} {w : Setup} {h h' : Host} {s t : Session} {a : Act}
  {id : EditorId} {e : EditorEvent}

/-! ### States that are attained -/

theorem Attained.reachable (ha : Attained w h) : Reachable w h := by
  induction ha with
  | initial => exact .refl
  | call _ step ih => exact ih.trans (.call ih.sound step)
  | pass _ passes ih => exact ih.trans passes.leads

theorem Attained.step (ha : Attained w h) (step : Step) : Attained w (h.step w step) := by
  rw [step_eq_call]
  exact (ha.call step).pass (.advanceTo (ha.call step).reachable.sound _)

/-- **Every script leads to a state that is attained.** -/
theorem Attained.run (ha : Attained w h) (steps : List Step) : Attained w (h.run w steps) := by
  induction steps generalizing h with
  | nil => exact ha
  | cons step steps ih => exact ih (ha.step step)

/-! ### Editors that are open -/

theorem isOpen_iff : h.IsOpen id ↔ ∃ s, h.session? id = some s := by
  rw [← Option.ne_none_iff_exists', ne_eq, session?_eq_none]
  simp [IsOpen]

theorem isOpen_put (hSorted : Sorted h.sessions) :
    (h.put s).IsOpen id ↔ s.editor = id ∨ h.IsOpen id := by
  constructor
  · rintro ⟨t, ht, rfl⟩
    rcases (mem_insertSession hSorted).mp ht with rfl | ⟨ht, -⟩
    · exact Or.inl rfl
    · exact Or.inr ⟨t, ht, rfl⟩
  · by_cases he : s.editor = id
    · exact fun _ => ⟨s, (mem_insertSession hSorted).mpr (Or.inl rfl), he⟩
    · rintro (hSame | ⟨t, ht, rfl⟩)
      · exact absurd hSame he
      · exact ⟨t, (mem_insertSession hSorted).mpr (Or.inr ⟨ht, Ne.symm he⟩), rfl⟩

/-- A session that takes a place opens no editor. -/
theorem isOpen_put_of_mem (hSorted : Sorted h.sessions) (hm : s ∈ h.sessions)
    (he : t.editor = s.editor) : (h.put t).IsOpen id ↔ h.IsOpen id := by
  rw [isOpen_put hSorted, he]
  exact or_iff_right_of_imp fun hSame => ⟨s, hm, hSame⟩

theorem isOpen_release (h : Host) (s : Session) : (h.release s).IsOpen id ↔ h.IsOpen id := by
  obtain ⟨flights, journal, hRelease⟩ := exists_release_eq h s
  rw [hRelease]
  rfl

theorem isOpen_fire (hSorted : Sorted h.sessions) (other : EditorId) :
    (h.fire w other).IsOpen id ↔ h.IsOpen id := by
  unfold fire
  split
  · rfl
  · rename_i s hf
    obtain ⟨hm, -⟩ := (session?_eq_some hSorted).mp hf
    split
    · rfl
    · obtain ⟨flights, journal, hSupersede⟩ := exists_supersede_eq w h s
      rw [hSupersede]
      dsimp only
      split <;> exact isOpen_put_of_mem hSorted hm rfl

/-- **What happens to the sessions of a host leaves their editors open**, unless one is
forgotten. -/
theorem Sound.isOpen_act (hs : Sound owner h) (ha : a.IsLocal) (hKept : ∀ id, a ≠ .evict id) :
    (h.act w a).IsOpen id ↔ h.IsOpen id := by
  have hMem : ∀ {other s}, h.session? other = some s → s ∈ h.sessions :=
    fun hf => (hs.mem_of_session? hf).1
  cases a with
  | edit other text cursor =>
    simp only [Host.act, Host.edit]
    split
    · rfl
    · rename_i s hf
      exact isOpen_put_of_mem hs.sorted (hMem hf) rfl
  | notify other =>
    simp only [Host.act, Host.notify]
    split
    · rfl
    · rename_i s hf
      split
      · rfl
      · exact isOpen_put_of_mem hs.sorted (hMem hf) rfl
  | begin other =>
    refine (isOpen_fire (hs.cancelTimer other).sorted other).trans ?_
    unfold Host.cancelTimer
    split
    · rfl
    · rename_i s hf
      exact isOpen_put_of_mem hs.sorted (hMem hf) rfl
  | elapse other =>
    simp only [Host.act, Host.elapse]
    split
    · rfl
    · rename_i s hf
      exact (isOpen_fire (sorted_insertSession hs.sorted) other).trans
        (isOpen_put_of_mem hs.sorted (hMem hf) rfl)
  | complete f =>
    simp only [Host.act, Host.complete]
    split
    · rfl
    · rename_i s hSome
      split
      · rfl
      · exact isOpen_put_of_mem hs.sorted (List.mem_of_find?_eq_some hSome) rfl
  | dispose other =>
    simp only [Host.act, Host.dispose]
    split
    · rfl
    · rename_i s hf
      obtain ⟨flights, journal, hRelease⟩ := exists_release_eq h s
      rw [hRelease]
      exact isOpen_put_of_mem hs.sorted (hMem hf) rfl
  | evict other => exact absurd rfl (hKept other)
  | openEditor | focus | tick => exact ha.elim

theorem FocusOpen.act (hFocus : h.FocusOpen) (hs : Sound owner h) (ha : a.IsLocal)
    (hKept : ∀ id, a ≠ .evict id) : (h.act w a).FocusOpen := by
  intro id hFocused
  rw [(aside_act ha).2] at hFocused
  exact (hs.isOpen_act ha hKept).mpr (hFocus id hFocused)

/-! ### The focus -/

theorem FocusOpen.openEditor (hFocus : h.FocusOpen) (hSorted : Sorted h.sessions) (other : EditorId)
    (snapshot : Snapshot) : (h.openEditor w other snapshot).FocusOpen := by
  -- what the host had before is still there, or makes way for the new session
  have hOpen : ∀ id, id = other ∨ h.IsOpen id → (h.openEditor w other snapshot).IsOpen id := by
    intro id hid
    have hPut : ∀ g : Host, g.sessions = h.sessions → (g.put
        { number := h.opened, editor := other, snapshot, timer := { delay := w.debounce } }).IsOpen
          id := by
      rintro g hSessions
      refine (isOpen_put (hSessions ▸ hSorted)).mpr (hid.imp Eq.symm fun hOld => ?_)
      rwa [IsOpen, hSessions]
    cases hf : h.session? other with
    | none =>
      simp only [Host.openEditor, hf]
      exact hPut h rfl
    | some previous =>
      obtain ⟨flights, journal, hRelease⟩ := exists_release_eq h previous
      simp only [Host.openEditor, hf, hRelease]
      exact hPut { h with flights, journal } rfl
  have hFocused : (h.openEditor w other snapshot).focused = h.focused.or (some other) := rfl
  intro id hid
  rw [hFocused] at hid
  cases hOld : h.focused with
  | none =>
    rw [hOld, Option.none_or] at hid
    exact hOpen id (Or.inl (Option.some.inj hid).symm)
  | some focused =>
    rw [hOld, Option.some_or] at hid
    exact hOpen id (Or.inr (hFocus id (hOld.trans hid)))

/-- An editor that is closed loses the focus. -/
theorem FocusOpen.close (hFocus : h.FocusOpen) (other : EditorId) : (h.close other).FocusOpen := by
  unfold Host.close
  split
  · exact hFocus
  · rename_i s hf
    intro id hid
    dsimp only at hid
    split at hid
    · cases hid
    · rename_i hNot
      obtain ⟨t, ht, rfl⟩ := (isOpen_release h s).mpr (hFocus id hid)
      have hOther : t.editor ≠ other := by
        rintro rfl
        exact hNot hid
      exact ⟨t, List.mem_filter.mpr ⟨ht, by simpa using hOther⟩, rfl⟩

theorem FocusOpen.handle (hFocus : h.FocusOpen) (w : Setup) (hs : Sound owner h)
    (e : EditorEvent) : (h.handle e).FocusOpen := by
  unfold Host.handle
  split
  · exact hFocus.act (w := w) hs (a := .notify e.editor) trivial fun _ => nofun
  · rename_i hRoute
    intro id hid
    obtain rfl : e.editor = id := Option.some.inj hid
    cases hf : h.session? e.editor with
    | none => simp [route, hf] at hRoute
    | some s => exact isOpen_iff.mpr ⟨s, hf⟩
  · exact hFocus.close e.editor
  · exact hFocus
  · exact hFocus

theorem FocusOpen.call (hFocus : h.FocusOpen) (hs : Sound owner h) (step : Step) :
    (h.call w step).FocusOpen := by
  cases step with
  | openEditor id snapshot => exact hFocus.openEditor hs.sorted id snapshot
  | edit id text cursor =>
    exact hFocus.act (w := w) hs (a := .edit id text cursor) trivial fun _ => nofun
  | event e => exact hFocus.handle w hs e
  | advance time => exact hFocus
  | notify id => exact hFocus.act (w := w) hs (a := .notify id) trivial fun _ => nofun
  | evaluate id => exact hFocus.act hs (a := .begin id) trivial fun _ => nofun
  | dispose id => exact hFocus.act (w := w) hs (a := .dispose id) trivial fun _ => nofun
  | shutdown => exact fun id hid => by cases hid

theorem FocusOpen.passes (hFocus : h.FocusOpen) (hs : ∃ owner, Sound owner h)
    (hp : Passes w h h') : h'.FocusOpen := by
  obtain ⟨c, hc, hPassing⟩ := hp
  induction hc with
  | nil => exact hFocus
  | @cons c h' prior a possible ih =>
    obtain ⟨hLast, hPrior⟩ := List.forall_mem_cons.mp hPassing
    obtain ⟨owner, hOwner⟩ := prior.leads.sound hs
    cases a with
    | elapse id => exact (ih hPrior).act hOwner trivial fun _ => nofun
    | complete f => exact (ih hPrior).act hOwner trivial fun _ => nofun
    | tick now => exact ih hPrior
    | _ => exact hLast.elim

/-- **The editor that is focused is open.** -/
theorem Attained.focusOpen (ha : Attained w h) : h.FocusOpen := by
  induction ha with
  | initial => exact fun id hid => by cases hid
  | call prior step ih =>
    obtain ⟨owner, hOwner⟩ := prior.reachable.sound
    exact ih.call hOwner step
  | pass prior hp ih => exact ih.passes prior.reachable.sound hp

/-! ### Changes -/

theorem route_eq_scheduled_iff :
    h.route e = .scheduled ↔
      e.isTrigger = true ∧ h.focused = some e.editor ∧ ∃ s, h.session? e.editor = some s := by
  obtain ⟨kind, editor⟩ := e
  cases hf : h.session? editor with
  | none => simp [route, hf]
  | some s => cases kind <;> simp [route, hf, EditorEvent.isTrigger]

theorem handle_of_scheduled (hRoute : h.route e = .scheduled) : h.handle e = h.notify e.editor := by
  rw [handle, hRoute]

/-- An event that is ignored changes nothing. -/
theorem handle_of_ignored (hRoute : h.route e = .ignoredUnfocused ∨ h.route e = .unknownEditor) :
    h.handle e = h := by
  rcases hRoute with hRoute | hRoute <;> rw [handle, hRoute]

theorem session?_notify_of_ne (hSorted : Sorted h.sessions) {other : EditorId} (hne : id ≠ other) :
    (h.notify other).session? id = h.session? id := by
  unfold notify
  split
  · rfl
  · rename_i s hf
    split
    · rfl
    · have hOther : s.editor ≠ id := ((session?_eq_some hSorted).mp hf).2 ▸ Ne.symm hne
      exact (session?_put (h := h.log s _) hSorted id).trans (if_neg hOther)

/-- The timer of a session that is notified starts anew. -/
theorem Reachable.session?_notify (hr : Reachable w h) (hf : h.session? id = some s)
    (hDisposed : s.disposed = false) :
    (h.notify id).session? id = some { s with
      phase := .pending, timer := ⟨w.debounce, some (h.now + w.debounce, ())⟩ } := by
  obtain ⟨owner, hs⟩ := hr.sound
  obtain ⟨hm, he⟩ := hs.mem_of_session? hf
  rw [notify_eq hf hDisposed, ← hr.delay_eq hm]
  exact (session?_put (h := h.log s _) hs.sorted id).trans (if_pos he)

/-- **One trigger is scheduled**, in place of the one that is pending. -/
theorem Reachable.counters_notify (hr : Reachable w h) (hf : h.session? id = some s)
    (hDisposed : s.disposed = false) :
    (h.notify id).counters =
      { scheduled := 1, superseded := if s.timer.isPending then 1 else 0 } + h.counters := by
  have hCounters := hr.counters_act (a := .notify id) trivial
  have hTold : Act.told w h (.notify id) = supersededBy s ++ [.scheduled] := by
    simp [Act.told, hf, hDisposed]
  rw [hTold, Telemetry.of_append, Telemetry.of_supersededBy] at hCounters
  refine hCounters.trans (congrArg (· + h.counters) ?_)
  simp [Telemetry.add_def, Telemetry.of]

/-! ### Events that are ignored -/

/-- A step that is ignored changes nothing, if nothing is due. -/
theorem step_of_isIgnored {step : Step} (hSettled : h.next? h.now = none)
    (hIgnored : (h.answer step).isIgnored = true) : h.step w step = h := by
  cases step with
  | event e =>
    have hRoute : h.route e = .ignoredUnfocused ∨ h.route e = .unknownEditor := by
      cases hRoute : h.route e <;> simp [answer, hRoute, Answer.isIgnored] at hIgnored ⊢
    have hStep : h.step w (.event e) = h.settle w := by rw [Host.step, handle_of_ignored hRoute]
    rw [hStep]
    exact advanceTo_of_next?_none hSettled
  | notify id | evaluate id | dispose id =>
    rw [answer] at hIgnored
    split at hIgnored <;> cases hIgnored
  | _ => cases hIgnored

/-- **Events that are ignored can be left out of a script.**  All that can be seen of its other
steps, and the state in which it ends, are as before. -/
theorem reports_kept (hs : ∃ owner, Sound owner h) (hSettled : h.next? h.now = none)
    (steps : List Step) :
    reports w h (kept w h steps) = (reports w h steps).filter (!·.answer.isIgnored) ∧
      h.run w (kept w h steps) = h.run w steps := by
  induction steps generalizing h with
  | nil => exact ⟨rfl, rfl⟩
  | cons step steps ih =>
    have hAnswer : (h.report w step).answer = h.answer step := rfl
    cases hIgnored : (h.answer step).isIgnored with
    | true =>
      have hStep : h.step w step = h := step_of_isIgnored hSettled hIgnored
      obtain ⟨hReports, hRun⟩ := ih hs hSettled
      rw [kept, if_pos hIgnored, reports, List.filter_cons_of_neg (by simp [hAnswer, hIgnored]),
        run_cons, hStep]
      exact ⟨hReports, hRun⟩
    | false =>
      have hSound : ∃ owner, Sound owner (h.step w step) := (Leads.step (w := w) hs step).sound hs
      obtain ⟨hReports, hRun⟩ := ih hSound (next?_step hs step)
      rw [kept, if_neg (by simp [hIgnored]), reports, reports,
        List.filter_cons_of_pos (by simp [hAnswer, hIgnored]), hReports, run_cons, hRun]
      exact ⟨rfl, rfl⟩

/-- **Where events go.**  Whatever calls are made while time passes, the editor that is focused is
open.  An event schedules a trigger just if it is a change of the editor that is focused, and that
is open.  Then the sessions of other editors stay as they are, and nothing happens to a session that
was disposed in its place; any other is pending, with one trigger more and its timer started anew.
An event that is ignored changes nothing.  So leaving all such events out of a script leaves the
answers to the other steps, what happens in them and the states in which they end as they are. -/
theorem routing_exact (w : Setup) :
    (∀ h, Attained w h →
      (∀ id, h.focused = some id → ∃ s, h.session? id = some s) ∧
      ∀ e : EditorEvent,
        (h.route e = .scheduled ↔
          e.isTrigger = true ∧ h.focused = some e.editor ∧ ∃ s, h.session? e.editor = some s) ∧
        (h.route e = .scheduled →
          (∀ id, id ≠ e.editor → (h.handle e).session? id = h.session? id) ∧
          h.handle e =
            { h with sessions := (h.handle e).sessions, journal := (h.handle e).journal } ∧
          ∀ s, h.session? e.editor = some s →
            (s.disposed = true → h.handle e = h) ∧
            (s.disposed = false →
              (h.handle e).session? e.editor = some { s with
                phase := .pending, timer := ⟨w.debounce, some (h.now + w.debounce, ())⟩ } ∧
              (h.handle e).counters =
                { scheduled := 1, superseded := if s.timer.isPending then 1 else 0 } +
                  h.counters)) ∧
        (h.route e = .ignoredUnfocused ∨ h.route e = .unknownEditor → h.handle e = h)) ∧
    ∀ steps, Attained w (run w {} steps) ∧
      reports w {} (kept w {} steps) = (reports w {} steps).filter (!·.answer.isIgnored) ∧
      run w {} (kept w {} steps) = run w {} steps := by
  have hInitial : ∃ owner, Sound owner {} := ⟨fun _ => 0, Sound.initial⟩
  refine ⟨fun h ha => ⟨fun id hid => isOpen_iff.mp (ha.focusOpen id hid), fun e =>
    ⟨route_eq_scheduled_iff, fun hRoute => ?_, handle_of_ignored⟩⟩,
    fun steps => ⟨Attained.initial.run steps, reports_kept hInitial rfl steps⟩⟩
  have hr := ha.reachable
  obtain ⟨owner, hs⟩ := hr.sound
  rw [handle_of_scheduled hRoute]
  refine ⟨fun id hne => session?_notify_of_ne hs.sorted hne, ?_, fun s hf => ⟨fun hDisposed => ?_,
    fun hDisposed => ⟨hr.session?_notify hf hDisposed, hr.counters_notify hf hDisposed⟩⟩⟩
  · unfold notify
    split
    · rfl
    · split <;> rfl
  · simp only [notify, hf, hDisposed, if_true]

/-- Changes of an editor in the background and of one that is not open, between those of two editors
that are focused in turn. -/
def turns : List Step :=
  [.openEditor 1 ⟨⟨"print(1)\n".toList⟩, 0⟩, .openEditor 2 ⟨⟨"print(2)\n".toList⟩, 0⟩,
    .event ⟨.textChanged, 2⟩, .event ⟨.textChanged, 1⟩, .advance 3, .event ⟨.textChanged, 3⟩,
    .advance 9, .event ⟨.focused, 2⟩, .event ⟨.selectionChanged, 1⟩, .event ⟨.textChanged, 2⟩]

theorem routing_exact_turns :
    (kept (sample fun _ => 7) {} turns).length = 7 ∧
    run (sample fun _ => 7) {} (kept (sample fun _ => 7) {} turns) =
      run (sample fun _ => 7) {} turns ∧
    (∃ s, (run (sample fun _ => 7) {} turns).session? 2 = some s) ∧
    (run (sample fun _ => 7) {} turns).route ⟨.selectionChanged, 2⟩ = .scheduled ∧
    ((run (sample fun _ => 7) {} turns).handle ⟨.selectionChanged, 2⟩).session? 1 =
      (run (sample fun _ => 7) {} turns).session? 1 := by
  have hFocused : (run (sample fun _ => 7) {} turns).focused = some 2 := by decide +kernel
  obtain ⟨hStates, hScripts⟩ := routing_exact (sample fun _ => 7)
  obtain ⟨hAttained, -, hRun⟩ := hScripts turns
  obtain ⟨hOpen, hEvents⟩ := hStates _ hAttained
  obtain ⟨hScheduled, hOthers, -⟩ := hEvents ⟨.selectionChanged, 2⟩
  have hRoute := hScheduled.mpr ⟨rfl, hFocused, hOpen 2 hFocused⟩
  exact ⟨by decide +kernel, hRun, hOpen 2 hFocused, hRoute, (hOthers hRoute).1 1 (by decide)⟩

end

end LiveLine.Host
