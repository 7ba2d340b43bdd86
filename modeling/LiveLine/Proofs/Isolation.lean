import LiveLine.Proofs.Calls
import LiveLine.Proofs.Ownership
import LiveLine.Proofs.Schedules

/-!
# Editors do not interfere

What can be seen of an editor depends on what is done to it, and when, and on what its runs do.
Nothing that happens to other editors makes a difference: not to when its timer elapses and its runs
complete, not to what it shows, and not to what it asks of the runner and of the surface.

* `Sound.view_play`: an editor among others is seen as it is alone.
* `sameFor_of_view`: what can be seen of an editor can be told without names.
* `Reachable.attributed`: what a session asks for is asked for its editor.
* `editors_isolated`: two hosts in which an editor is treated in the same way.
-/

namespace LiveLine.Host

section

variable {owner : Nat → EditorId} {w w' : Setup} {h g : Host} {id : EditorId}
  {plan : Nat → RunPlan} {calls calls' : List (Nat × Step)} {time : Nat}

/-! ### An editor among others -/

/-- Does to an editor what was done to it, each at its time. -/
def follow (w : Setup) (id : EditorId) (h : Host) (xs : List (Nat × Treatment)) : Host :=
  xs.foldl (fun h x => (h.advanceTo w x.1).treat w id x.2) h

/-- Time that passes before the next treatment need not be waited for. -/
theorem follow_advanceTo (hs : ∃ owner, Sound owner h) {xs : List (Nat × Treatment)}
    {earlier : Nat} (hxs : ∀ x ∈ xs, earlier ≤ x.1) (hTime : earlier ≤ time) :
    (follow w id (h.advanceTo w earlier) xs).advanceTo w time =
      (follow w id h xs).advanceTo w time := by
  cases xs with
  | nil => exact advanceTo_advanceTo hs hTime
  | cons x xs =>
    have hx := hxs x (List.mem_cons_self ..)
    rw [follow, follow, List.foldl_cons, List.foldl_cons, advanceTo_advanceTo hs hx]

/-- **An editor among others is seen as it is alone.** -/
theorem Sound.view_play (hs : Sound owner h) (hg : Alone id g) (hw : w.Agrees w')
    (hAlone : ∀ run request, w'.plan run request = plan run)
    (hView : (h.part id).view = (g.part id).view)
    (hOrder : calls.Pairwise fun c d => c.1 ≤ d.1) (hTime : ∀ c ∈ calls, c.1 ≤ time)
    (hGets : Gets w id plan ((play w h calls).advanceTo w time)) :
    (((play w h calls).advanceTo w time).part id).view =
      (((follow w' id g (treatments w id h calls)).advanceTo w' time).part id).view := by
  induction calls generalizing h g owner with
  | nil => exact hs.view_advanceTo hg hw hAlone hView time hGets
  | cons c calls ih =>
    obtain ⟨hc, hRest⟩ := List.pairwise_cons.mp hOrder
    have hTime' : ∀ d ∈ calls, d.1 ≤ time := fun d hd => hTime d (List.mem_cons_of_mem c hd)
    have hPassed : Leads w h (h.advanceTo w c.1) := .advanceTo ⟨owner, hs⟩ c.1
    have hCalled : Leads w (h.advanceTo w c.1) ((h.advanceTo w c.1).call w c.2) :=
      .call (hPassed.sound ⟨owner, hs⟩) c.2
    have hMade := (hPassed.trans hCalled).sound ⟨owner, hs⟩
    have hLater : Leads w ((h.advanceTo w c.1).call w c.2)
        ((play w h (c :: calls)).advanceTo w time) := by
      have hPlay := Leads.play (w := w) hMade calls
      exact hPlay.trans (.advanceTo (hPlay.sound hMade) time)
    have hGetsCall := hGets.anti hLater
    have hPassedView := hs.view_advanceTo hg hw hAlone hView c.1 (hGetsCall.anti hCalled)
    obtain ⟨_, hPassedSound⟩ := hPassed.sound ⟨owner, hs⟩
    obtain ⟨_, hMadeSound⟩ := hMade
    have hCall : ((h.advanceTo w c.1).call w c.2).part id = _ := hPassedSound.part_call c.2
    have hPlay : play w h (c :: calls) = play w ((h.advanceTo w c.1).call w c.2) calls := rfl
    rw [hPlay] at hGets ⊢
    rw [treatments]
    cases hTreatment : treatment? id (h.advanceTo w c.1) c.2 with
    | none =>
      rw [hTreatment, Option.elim] at hCall
      rw [← hCall] at hPassedView
      have hOwn : ∀ x ∈ treatments w id ((h.advanceTo w c.1).call w c.2) calls, c.1 ≤ x.1 :=
        le_of_mem_treatments hc
      have hSound : ∃ owner, Sound owner g := ⟨_, hg.sound⟩
      rw [ih hMadeSound (hg.advanceTo c.1) hPassedView hRest hTime' hGets]
      exact congrArg (fun g => (g.part id).view)
        (follow_advanceTo hSound hOwn (hTime c (List.mem_cons_self ..)))
    | some x =>
      rw [hTreatment, Option.elim] at hCall
      have hGetsTreat : Gets w id plan ((h.advanceTo w c.1).treat w id x) := by
        intro k run request hk
        rw [← hCall] at hk
        exact hGetsCall k run request hk
      have hTreated := hPassedSound.view_treat (hg.advanceTo c.1) hw hAlone rfl hPassedView x
        hGetsTreat
      rw [← hCall] at hTreated
      exact ih hMadeSound ((hg.advanceTo c.1).treat x) hTreated hRest hTime' hGets

/-! ### What can be seen of an editor -/

/-- The requests of an editor to the runner, in order. -/
def requests (h : Host) (id : EditorId) : List Request := (h.part id).starts.map Prod.snd

/-- What the runs of an editor do, in the order in which they started. -/
def plans (w : Setup) (h : Host) (id : EditorId) : List RunPlan :=
  (h.part id).starts.map fun x => w.plan x.1 x.2

/-- The calls to the surface for an editor, in order, without the names of decorations. -/
def callsFor (h : Host) (id : EditorId) : List SurfaceCall :=
  (h.calls.filter (·.1 = id)).map (·.2.anonymous)

/-- What can be seen of an editor is the same in two hosts. -/
structure SameFor (id : EditorId) (h h' : Host) : Prop where
  phase : (h.session? id).map (·.phase) = (h'.session? id).map (·.phase)
  pending : (h.session? id).map (·.timer.isPending) = (h'.session? id).map (·.timer.isPending)
  active : ∀ kind, (h.session? id).map (·.presenter.active? kind) =
    (h'.session? id).map (·.presenter.active? kind)
  requests : h.requests id = h'.requests id
  calls : h.callsFor id = h'.callsFor id

/-- All that a session asks for is asked for the editor that the session was opened for. -/
def Attributed (h : Host) : Prop :=
  ∀ e ∈ h.journal, (∃ o ∈ h.journal, o.session = e.session ∧ o.event = .opened) ∧
    ∀ o ∈ h.journal, o.session = e.session → o.editor = e.editor

theorem surfaceCalls_filter (entries : List Entry) (id : EditorId) :
    ((surfaceCalls entries).filter (·.1 = id)).map Prod.snd =
      ((entries.filter (·.editor = id)).map (·.event)).filterMap Happening.call? := by
  induction entries with
  | nil => rfl
  | cons e entries ih =>
    obtain ⟨n, editor, event⟩ := e
    by_cases he : editor = id <;> cases event <;>
      simp_all [surfaceCalls, Happening.call?, List.filterMap_cons]

theorem callsFor_eq (h : Host) (id : EditorId) :
    h.callsFor id = (h.part id).calls.reverse.map SurfaceCall.anonymous := by
  have hCalls := surfaceCalls_filter h.journal.reverse id
  rw [List.filter_reverse, List.map_reverse, List.filterMap_reverse] at hCalls
  have hErase : (fun x : EditorId × SurfaceCall => x.2.anonymous) =
      SurfaceCall.anonymous ∘ Prod.snd := rfl
  rw [callsFor, Life.calls, calls, hErase, ← List.map_map, hCalls]
  rfl

/-- What can be seen of an editor can be told without names. -/
theorem sameFor_of_view {h' : Host} (hView : (h.part id).view = (h'.part id).view) :
    SameFor id h h' := by
  obtain ⟨hSession, -, hHistory⟩ := Life.view_eq_iff.mp hView
  have hSeen : ∀ {β : Type} (see : Session → β), (∀ s : Session, see s.anonymous = see s) →
      (h.session? id).map see = (h'.session? id).map see := by
    intro β see hSee
    have hMap := congrArg (Option.map see) hSession
    rw [Option.map_map, Option.map_map] at hMap
    have hSame : see ∘ Session.anonymous = see := funext hSee
    rwa [hSame] at hMap
  have hRead : ∀ {β : Type} (read : Happening → Option β) (erase : β → β),
      (∀ e : Happening, read e.anonymous = (read e).map erase) →
        ((h.part id).history.filterMap read).map erase =
          ((h'.part id).history.filterMap read).map erase := by
    intro β read erase hErase
    have hMap := congrArg (List.filterMap read) hHistory
    rw [List.filterMap_map, List.filterMap_map] at hMap
    rw [List.map_filterMap, List.map_filterMap]
    have hSame : read ∘ Happening.anonymous = fun e => (read e).map erase := funext hErase
    rwa [hSame] at hMap
  refine ⟨hSeen _ fun _ => rfl, hSeen _ fun _ => rfl, fun kind => hSeen _ fun s => ?_, ?_, ?_⟩
  · exact Presenter.active?_anonymous s.presenter kind
  · have hStarts := hRead Happening.start? (fun x => (0, x.2)) fun e => by cases e <;> rfl
    have hRequests := congrArg (fun xs => (xs.map Prod.snd).reverse) hStarts
    simp only [List.map_map] at hRequests
    rw [requests, requests, Life.starts, Life.starts, List.map_reverse, List.map_reverse]
    exact hRequests
  · have hCalls := hRead Happening.call? SurfaceCall.anonymous fun e => by cases e <;> rfl
    rw [callsFor_eq, callsFor_eq, List.map_reverse, List.map_reverse]
    exact congrArg List.reverse hCalls

/-- Nothing happens to a session before it is opened. -/
theorem Reachable.opened (hr : Reachable w h) (n : Nat) :
    h.life n = {} ∨ .opened ∈ (h.life n).history := by
  induction hr with
  | refl => exact Or.inl rfl
  | @act h prior a possible ih =>
    rcases ih with hEmpty | hOpened
    · obtain ⟨owner, hs⟩ := Reachable.sound prior
      rcases (hs.turn (w := w) possible).life with hSame | ⟨m, l', hMove, hLife⟩
      · exact Or.inl (by rw [hSame, hEmpty])
      · by_cases hn : n = m
        · subst hn
          rw [hEmpty] at hMove
          rw [hLife, Function.update_self]
          cases hMove with
          | opened id snapshot => exact Or.inr (List.mem_singleton_self _)
          | edited hs => cases hs
          | notified hs => cases hs
          | fired hs => cases hs
          | completed hf => cases hf
          | disposed hs => cases hs
          | left hs => cases hs
        · exact Or.inl (by rw [hLife, Function.update_of_ne hn, hEmpty])
    · refine Or.inr ?_
      have hHistory : (h.life n).history <:+ ((h.act w a).life n).history :=
        ((journal_act w h a).filter _).map _
      exact hHistory.subset hOpened

theorem Reachable.attributed (hr : Reachable w h) : h.Attributed := by
  obtain ⟨owner, hs⟩ := hr.sound
  intro e he
  have hEntry : e.event ∈ (h.life e.session).history :=
    List.mem_map.mpr ⟨e, List.mem_filter.mpr ⟨he, by simp⟩, rfl⟩
  refine ⟨?_, fun o ho hSession => ?_⟩
  · rcases hr.opened e.session with hEmpty | hOpened
    · rw [hEmpty] at hEntry
      cases hEntry
    · obtain ⟨o, ho, hEvent⟩ := List.mem_map.mp hOpened
      obtain ⟨ho, hSession⟩ := List.mem_filter.mp ho
      exact ⟨o, ho, by simpa using hSession, hEvent⟩
  · rw [(hs.entry o ho).2, (hs.entry e he).2, hSession]

/-! ### Two hosts -/

/-- An editor with planned runs is seen as it is alone, at all times. -/
theorem view_stateAt (hw : w.Agrees w') (hAlone : ∀ run request, w'.plan run request = plan run)
    (hOrder : calls.Pairwise fun c d => c.1 ≤ d.1)
    (hGets : Gets w id plan (stateAt w calls time)) :
    ((stateAt w calls time).part id).view =
      (((follow w' id {} ((treatments w id {} calls).filter (·.1 ≤ time))).advanceTo w'
        time).part id).view := by
  have hInitial : Sound (fun _ => 0) {} := Sound.initial
  have hTime : ∀ c ∈ calls.filter (·.1 ≤ time), c.1 ≤ time :=
    fun c hc => by simpa using (List.mem_filter.mp hc).2
  rw [← treatments_filter hOrder]
  exact hInitial.view_play (Alone.initial id) hw hAlone rfl (hOrder.filter _) hTime hGets

/-- **Editors do not interfere.**  An editor is treated in the same way at the same times in two
hosts with the same settings, and its runs do the same, one by one.  Then the same can be seen of
it in both at every time, whatever is done to other editors, however their runs come out and
whatever names runs and decorations get; and no session asks for anything on behalf of an editor
that it was not opened for. -/
theorem editors_isolated (hw : w.Agrees w') (hOrder : calls.Pairwise fun c d => c.1 ≤ d.1)
    (hOrder' : calls'.Pairwise fun c d => c.1 ≤ d.1)
    (hTreatments : treatments w id {} calls = treatments w' id {} calls')
    (hPlans : ∀ x ∈ (plans w (stateAt w calls time) id).zip
      (plans w' (stateAt w' calls' time) id), x.1 = x.2) :
    SameFor id (stateAt w calls time) (stateAt w' calls' time) ∧
      (stateAt w calls time).Attributed ∧ (stateAt w' calls' time).Attributed := by
  refine ⟨sameFor_of_view ?_, (reachable_stateAt w calls time).attributed,
    (reachable_stateAt w' calls' time).attributed⟩
  have hPlanned : ∀ {w : Setup} {h : Host} {k run : Nat} {request : Request},
      (h.part id).starts[k]? = some (run, request) →
        (plans w h id)[k]? = some (w.plan run request) := by
    intro w h k run request hk
    rw [plans, List.getElem?_map, hk]
    rfl
  -- what the runs do where either host has them
  let plan (k : Nat) : RunPlan := ((plans w (stateAt w calls time) id)[k]?.or
    (plans w' (stateAt w' calls' time) id)[k]?).getD ⟨0, {}⟩
  have hGets : Gets w id plan (stateAt w calls time) := by
    intro k run request hk
    simp [plan, hPlanned hk]
  have hGets' : Gets w' id plan (stateAt w' calls' time) := by
    intro k run request hk
    have hk' := hPlanned (w := w') hk
    cases hFirst : (plans w (stateAt w calls time) id)[k]? with
    | none => simp [plan, hFirst, hk']
    | some p =>
      have hZip : ((plans w (stateAt w calls time) id).zip
          (plans w' (stateAt w' calls' time) id))[k]? = some (p, w'.plan run request) :=
        List.getElem?_zip_eq_some.mpr ⟨hFirst, hk'⟩
      have hSame := hPlans _ (List.mem_of_getElem? hZip)
      simp only [plan, hFirst, Option.some_or, Option.getD_some]
      exact hSame.symm
  let alone : Setup := { w with plan := fun run _ => plan run }
  have hAgrees : w.Agrees alone := ⟨rfl, rfl, rfl, rfl⟩
  have hAgrees' : w'.Agrees alone :=
    ⟨hw.debounce.symm, hw.colors.symm, hw.onSupersede.symm, hw.evaluates.symm⟩
  calc ((stateAt w calls time).part id).view
      = (((follow alone id {} ((treatments w id {} calls).filter (·.1 ≤ time))).advanceTo alone
          time).part id).view := view_stateAt hAgrees (fun _ _ => rfl) hOrder hGets
    _ = (((follow alone id {} ((treatments w' id {} calls').filter (·.1 ≤ time))).advanceTo alone
          time).part id).view := by rw [hTreatments]
    _ = ((stateAt w' calls' time).part id).view :=
        (view_stateAt hAgrees' (fun _ _ => rfl) hOrder' hGets').symm

/-- The runs with the given numbers do nothing, and take their time; all others say `1`. -/
def noisy (others : List RunNumber) : Setup where
  debounce := 10
  evaluates line := !line.isAllBlank
  plan run _ := if run ∈ others then ⟨100, {}⟩ else ⟨3, { stdout := "1\n".toList }⟩

/-- An editor alone, which is evaluated twice. -/
def quietCalls : List (Nat × Step) :=
  [(0, .openEditor 1 ⟨⟨"print(1)\n".toList⟩, 0⟩), (5, .event ⟨.textChanged, 1⟩), (20, .notify 1),
    (40, .shutdown)]

/-- The same editor, while another one is opened, evaluated, focused and closed. -/
def crowdedCalls : List (Nat × Step) :=
  [(0, .openEditor 2 ⟨⟨"print(2)\n".toList⟩, 0⟩), (0, .openEditor 1 ⟨⟨"print(1)\n".toList⟩, 0⟩),
    (1, .evaluate 2), (5, .notify 1), (14, .event ⟨.focused, 1⟩), (16, .event ⟨.focused, 2⟩),
    (20, .notify 1), (21, .evaluate 2), (29, .event ⟨.closed, 2⟩), (40, .event ⟨.closed, 1⟩)]

theorem editors_isolated_crowded :
    (noisy []).Agrees (noisy [0, 2]) ∧
    treatments (noisy []) 1 {} quietCalls = treatments (noisy [0, 2]) 1 {} crowdedCalls ∧
    SameFor 1 (stateAt (noisy []) quietCalls 35) (stateAt (noisy [0, 2]) crowdedCalls 35) := by
  have hAgrees : (noisy []).Agrees (noisy [0, 2]) := ⟨rfl, rfl, rfl, rfl⟩
  have hTreatments : treatments (noisy []) 1 {} quietCalls =
      treatments (noisy [0, 2]) 1 {} crowdedCalls := by decide +kernel
  exact ⟨hAgrees, hTreatments, (editors_isolated hAgrees (by decide) (by decide) hTreatments
    (by decide +kernel)).1⟩

end

end LiveLine.Host
