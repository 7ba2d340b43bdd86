import LiveLine.Proofs.Alone
import LiveLine.Proofs.Timing

/-!
# Calls in time

A host is called at given times, and time passes between the calls.  The steps of a script are such
calls, but a call need not wait for the one before: an evaluation that starts a run is over at once,
and the run completes when it is due.

* `play`, `stateAt`: calls that are made at given times.
* `run_eq_stateAt`: scripts are such calls.
* `treatment?`, `treatments`: what calls do to an editor.
* `Sound.part_call`: a call makes of the part of an editor what its treatment makes of it.
-/

namespace LiveLine.Host

/-! ### Calls in time -/

/-- What a step of a script does at once; time passes between calls only. -/
def call (w : Setup) (h : Host) : Step → Host
  | .openEditor id snapshot => h.openEditor w id snapshot
  | .edit id text cursor => h.edit id text cursor
  | .event e => h.handle e
  | .advance _ => h
  | .notify id => h.notify id
  | .evaluate id => h.begin w id
  | .dispose id => h.dispose id
  | .shutdown => h.shutdown

/-- Makes calls, each at its time, when all that is due by then has happened. -/
def play (w : Setup) (h : Host) (calls : List (Nat × Step)) : Host :=
  calls.foldl (fun h c => (h.advanceTo w c.1).call w c.2) h

/-- The state at a time, after the calls until then and all that is due by then. -/
def stateAt (w : Setup) (calls : List (Nat × Step)) (time : Nat) : Host :=
  (play w {} (calls.filter (·.1 ≤ time))).advanceTo w time

/-- The steps of a script as calls, with the times at which they are made. -/
def timeline (w : Setup) (h : Host) : List Step → List (Nat × Step)
  | [] => []
  | step :: steps => (h.now, step) :: timeline w (h.step w step) steps

section

variable {owner : Nat → EditorId} {w : Setup} {h g : Host} {id : EditorId}
  {calls : List (Nat × Step)} {time : Nat}

theorem Leads.call (hs : ∃ owner, Sound owner h) (step : Step) : Leads w h (h.call w step) := by
  obtain ⟨owner, hOwner⟩ := hs
  cases step with
  | openEditor id snapshot => exact .openEditor hOwner.sorted id snapshot
  | edit id text cursor => exact .single (.edit id text cursor) trivial
  | event e => exact .handle e
  | advance time => exact .refl
  | notify id => exact .single (.notify id) trivial
  | evaluate id => exact .single (.begin id) trivial
  | dispose id => exact .single (.dispose id) trivial
  | shutdown => exact .shutdown hOwner.sorted

theorem Leads.play (hs : ∃ owner, Sound owner h) (calls : List (Nat × Step)) :
    Leads w h (play w h calls) := by
  induction calls generalizing h with
  | nil => exact .refl
  | cons c calls ih =>
    have hTime : Leads w h (h.advanceTo w c.1) := .advanceTo hs c.1
    have hCall := hTime.trans (.call (hTime.sound hs) c.2)
    exact hCall.trans (ih (hCall.sound hs))

theorem reachable_stateAt (w : Setup) (calls : List (Nat × Step)) (time : Nat) :
    Reachable w (stateAt w calls time) := by
  have hInitial : ∃ owner, Sound owner {} := ⟨fun _ => 0, Sound.initial⟩
  have hPlay : Reachable w (Host.play w {} (calls.filter (·.1 ≤ time))) := .play hInitial _
  exact hPlay.trans (.advanceTo hPlay.sound time)

/-! ### Scripts are calls in time -/

/-- Time that passes before the next call need not be waited for. -/
theorem play_advanceTo (hs : ∃ owner, Sound owner h) {earlier : Nat}
    (hCalls : ∀ c ∈ calls.head?, earlier ≤ c.1) (hTime : calls = [] → earlier ≤ time) :
    (play w (h.advanceTo w earlier) calls).advanceTo w time =
      (play w h calls).advanceTo w time := by
  cases calls with
  | nil => exact advanceTo_advanceTo hs (hTime rfl)
  | cons c calls =>
    rw [play, play, List.foldl_cons, List.foldl_cons, advanceTo_advanceTo hs (hCalls c rfl)]

/-- A step is a call, and the time that passes after it. -/
theorem step_eq_call (w : Setup) (h : Host) (step : Step) :
    h.step w step = (h.call w step).advanceTo w (h.step w step).now := by
  cases step with
  | evaluate id =>
    show (h.begin w id).await w h.started =
      (h.begin w id).advanceTo w ((h.begin w id).await w h.started).now
    unfold await
    split <;> rfl
  | _ => rfl

theorem next?_step (hs : ∃ owner, Sound owner h) (step : Step) :
    (h.step w step).next? (h.step w step).now = none := by
  have hCall : ∃ owner, Sound owner (h.call w step) := (Leads.call (w := w) hs step).sound hs
  rw [step_eq_call]
  exact next?_advanceTo hCall _

theorem now_shutdown (h : Host) : h.shutdown.now = h.now := by
  have hAll : ∀ (ss : List Session) (h : Host), (ss.foldl release h).now = h.now := by
    intro ss
    induction ss with
    | nil => exact fun h => rfl
    | cons s ss ih =>
      intro h
      obtain ⟨flights, journal, hRelease⟩ := exists_release_eq h s
      rw [List.foldl_cons, ih, hRelease]
  exact hAll h.sessions h

/-- A call takes no time. -/
theorem now_call (w : Setup) (h : Host) (step : Step) : (h.call w step).now = h.now := by
  cases step with
  | openEditor id snapshot =>
    show (h.openEditor w id snapshot).now = h.now
    unfold openEditor
    dsimp only
    split
    · rename_i s _
      obtain ⟨flights, journal, hRelease⟩ := exists_release_eq h s
      rw [hRelease]
      rfl
    · rfl
  | edit id text cursor => exact (aside_act (w := w) (a := .edit id text cursor) trivial).1
  | event e =>
    show (h.handle e).now = h.now
    unfold handle
    split
    · exact (aside_act (w := w) (a := .notify e.editor) trivial).1
    · rfl
    · rw [close_eq]
      exact (aside_act (w := w) (a := .evict e.editor) trivial).1
    · rfl
    · rfl
  | advance time => rfl
  | notify id => exact (aside_act (w := w) (a := .notify id) trivial).1
  | evaluate id => exact (aside_act (a := .begin id) trivial).1
  | dispose id => exact (aside_act (w := w) (a := .dispose id) trivial).1
  | shutdown => exact now_shutdown h

theorem now_le_step (w : Setup) (h : Host) (step : Step) : h.now ≤ (h.step w step).now := by
  have hCall := now_call w h step
  cases step with
  | advance time => exact Nat.le_add_right ..
  | evaluate id =>
    have hBegin : (h.begin w id).now = h.now := hCall
    show h.now ≤ ((h.begin w id).await w h.started).now
    unfold await
    split
    · exact Nat.le_of_eq hBegin.symm
    · exact hBegin ▸ Nat.le_max_left ..
  | _ => exact Nat.le_of_eq hCall.symm

theorem now_le_run (w : Setup) (h : Host) (steps : List Step) : h.now ≤ (h.run w steps).now := by
  induction steps generalizing h with
  | nil => exact Nat.le_refl _
  | cons step steps ih => exact Nat.le_trans (now_le_step w h step) (ih _)

theorem le_of_mem_timeline (w : Setup) (h : Host) (steps : List Step) :
    ∀ c ∈ timeline w h steps, h.now ≤ c.1 ∧ c.1 ≤ (h.run w steps).now := by
  induction steps generalizing h with
  | nil => simp [timeline]
  | cons step steps ih =>
    intro c hc
    rcases List.mem_cons.mp hc with rfl | hc
    · exact ⟨Nat.le_refl _, now_le_run w h (step :: steps)⟩
    · obtain ⟨hFrom, hTo⟩ := ih (h.step w step) c hc
      exact ⟨Nat.le_trans (now_le_step w h step) hFrom, hTo⟩

/-- The calls of a script are in order. -/
theorem pairwise_timeline (w : Setup) (h : Host) (steps : List Step) :
    (timeline w h steps).Pairwise fun c d => c.1 ≤ d.1 := by
  induction steps generalizing h with
  | nil => exact .nil
  | cons step steps ih =>
    refine .cons (fun d hd => ?_) (ih (h.step w step))
    exact Nat.le_trans (now_le_step w h step) (le_of_mem_timeline w _ steps d hd).1

theorem head?_timeline (w : Setup) (h : Host) (steps : List Step) :
    ∀ c ∈ (timeline w h steps).head?, c.1 = h.now := by
  cases steps with
  | nil => simp [timeline]
  | cons step steps => simp [timeline]

/-- **A script that goes on from a settled state makes its calls in time.** -/
theorem run_eq_play (hs : ∃ owner, Sound owner h) (hSettled : h.next? h.now = none)
    (steps : List Step) :
    h.run w steps = (play w h (timeline w h steps)).advanceTo w (h.run w steps).now := by
  induction steps generalizing h with
  | nil => exact (advanceTo_of_next?_none hSettled).symm
  | cons step steps ih =>
    have hStep := (Leads.step (w := w) hs step).sound hs
    have hCall := (Leads.call (w := w) hs step).sound hs
    have hSame : h.advanceTo w h.now = h := advanceTo_of_next?_none hSettled
    have hNext : ∀ c ∈ (timeline w (h.step w step) steps).head?, (h.step w step).now ≤ c.1 :=
      fun c hc => Nat.le_of_eq (head?_timeline w _ steps c hc).symm
    have hEnd : timeline w (h.step w step) steps = [] →
        (h.step w step).now ≤ ((h.step w step).run w steps).now := by
      intro hNil
      cases steps with
      | nil => exact Nat.le_refl _
      | cons step steps => cases hNil
    have hRest := ih hStep (next?_step hs step)
    calc (h.step w step).run w steps
        = (play w (h.step w step) (timeline w (h.step w step) steps)).advanceTo w
            ((h.step w step).run w steps).now := hRest
      _ = (play w ((h.call w step).advanceTo w (h.step w step).now)
            (timeline w (h.step w step) steps)).advanceTo w
            ((h.step w step).run w steps).now := by rw [← step_eq_call]
      _ = (play w (h.call w step) (timeline w (h.step w step) steps)).advanceTo w
            ((h.step w step).run w steps).now := play_advanceTo hCall hNext hEnd
      _ = (play w h (timeline w h (step :: steps))).advanceTo w
            ((h.step w step).run w steps).now := by
          rw [timeline, play, play, List.foldl_cons, hSame]

/-- **A script is its calls in time.** -/
theorem run_eq_stateAt (w : Setup) (steps : List Step) :
    run w {} steps = stateAt w (timeline w {} steps) (run w {} steps).now := by
  have hAll : (timeline w {} steps).filter (·.1 ≤ (run w {} steps).now) = timeline w {} steps :=
    List.filter_eq_self.mpr fun c hc => by simpa using (le_of_mem_timeline w {} steps c hc).2
  rw [stateAt, hAll]
  exact run_eq_play ⟨fun _ => 0, Sound.initial⟩ rfl steps

/-! ### What calls do to an editor -/

/-- What a call does to an editor, if it does anything to it. -/
def treatment? (id : EditorId) (h : Host) : Step → Option Treatment
  | .openEditor other snapshot => if other = id then some (.opened snapshot) else none
  | .edit other text cursor => if other = id then some (.edited text cursor) else none
  | .event e =>
    if e.editor = id then
      match h.route e with
      | .scheduled => some .notified
      | .disposed => some .closed
      | .focusChanged | .ignoredUnfocused | .unknownEditor => none
    else none
  | .advance _ => none
  | .notify other => if other = id then some .notified else none
  | .evaluate other => if other = id then some .evaluated else none
  | .dispose other => if other = id then some .disposed else none
  | .shutdown => (h.session? id).map fun _ => .closed

/-- What the calls do to an editor, and when. -/
def treatments (w : Setup) (id : EditorId) : Host → List (Nat × Step) → List (Nat × Treatment)
  | _, [] => []
  | h, c :: calls =>
    let h := h.advanceTo w c.1
    ((treatment? id h c.2).map (c.1, ·)).toList ++ treatments w id (h.call w c.2) calls

theorem part_close (h : Host) (other id : EditorId) :
    (h.close other).part id = (h.evict other).part id := by
  rw [close_eq]
  rfl

theorem Sound.part_evict_of_ne (hs : Sound owner h) {other : EditorId} (hne : other ≠ id) :
    (h.evict other).part id = h.part id := by
  cases hf : h.session? other with
  | none => rw [Host.evict, hf]
  | some s => rw [hs.part_evict hf, Function.update_of_ne (Ne.symm hne)]

theorem Sound.part_openEditor_of_ne (hs : Sound owner h) {other : EditorId} (hne : other ≠ id)
    (snapshot : Snapshot) : (h.openEditor w other snapshot).part id = h.part id := by
  have hOther : some other ≠ some id := fun he => hne (Option.some.inj he)
  rw [← openEditor_evict hs.sorted, ← hs.part_evict_of_ne hne]
  exact (hs.evict other).part_act_of_ne (a := .openEditor other snapshot)
    (session?_evict h other) hOther

/-- Forgetting the session of an editor makes the same of equal parts. -/
theorem Sound.part_evict_congr (hs : Sound owner h) {owner' : Nat → EditorId}
    (hg : Sound owner' g) (hPart : h.part id = g.part id) :
    (h.evict id).part id = (g.evict id).part id := by
  have hSession : h.session? id = g.session? id := congrArg Life.session hPart
  cases hf : h.session? id with
  | none =>
    rw [Host.evict, Host.evict, ← hSession, hf]
    exact hPart
  | some s =>
    rw [hs.part_evict hf, hg.part_evict (hSession ▸ hf), Function.update_self,
      Function.update_self, hPart]

theorem Sound.part_foldl_evict (hs : Sound owner h) (ids : List EditorId) :
    (ids.foldl Host.evict h).part id = if id ∈ ids then (h.evict id).part id else h.part id := by
  induction ids generalizing h with
  | nil => rfl
  | cons other ids ih =>
    have hEvict := hs.evict other
    rw [List.foldl_cons, ih hEvict]
    by_cases he : other = id
    · subst he
      have hAgain : (h.evict other).evict other = h.evict other := by
        rw [Host.evict, session?_evict]
      rw [hAgain, ite_self, if_pos (List.mem_cons_self ..)]
    · have hPart := hs.part_evict_of_ne he
      have hMem : id ∈ other :: ids ↔ id ∈ ids := by
        rw [List.mem_cons, or_iff_right fun h => he h.symm]
      simp only [hMem, hEvict.part_evict_congr hs hPart, hPart]

theorem Sound.part_shutdown (hs : Sound owner h) (id : EditorId) :
    h.shutdown.part id = (h.evict id).part id := by
  have hAll : h.shutdown.part id = ((h.sessions.map (·.editor)).foldl Host.evict h).part id := by
    rw [shutdown_eq hs.sorted]
    rfl
  rw [hAll, hs.part_foldl_evict]
  split
  · rfl
  · rename_i hNot
    have hNone : h.session? id = none :=
      session?_eq_none.mpr fun s hs he => hNot (List.mem_map.mpr ⟨s, hs, he⟩)
    rw [Host.evict, hNone]

/-- **A call does to the part of an editor what it does to the editor.** -/
theorem Sound.part_call (hs : Sound owner h) (step : Step) :
    (h.call w step).part id = ((treatment? id h step).elim h (h.treat w id)).part id := by
  have hNe : ∀ {other : EditorId}, other ≠ id → some other ≠ some id :=
    fun hne he => hne (Option.some.inj he)
  -- a call about one editor is a treatment of that, and an act about another one for all others
  have hOne : ∀ {other : EditorId} {g : Host} {x : Treatment}, (other = id → g = h.treat w id x) →
      (other ≠ id → g.part id = h.part id) →
        g.part id = ((if other = id then some x else none).elim h (h.treat w id)).part id := by
    intro other g x hOwn hOther
    by_cases he : other = id
    · rw [if_pos he, hOwn he]
      rfl
    · rw [if_neg he, hOther he]
      rfl
  cases step with
  | openEditor other snapshot =>
    exact hOne (fun he => he ▸ rfl) fun hne => hs.part_openEditor_of_ne hne snapshot
  | edit other text cursor =>
    exact hOne (fun he => he ▸ rfl) fun hne =>
      hs.part_act_of_ne (w := w) (a := .edit other text cursor) trivial (hNe hne)
  | event e =>
    show (h.handle e).part id = _
    by_cases he : e.editor = id
    · unfold handle
      cases hRoute : h.route e with
      | disposed =>
        simp only [treatment?, if_pos he, hRoute, Option.elim, treat]
        rw [part_close, he]
      | _ => simp [treatment?, he, hRoute, treat, part, session?]
    · simp only [treatment?, if_neg he, Option.elim]
      unfold handle
      split
      · exact hs.part_act_of_ne (w := w) (a := .notify e.editor) trivial (hNe he)
      · rfl
      · rw [part_close, hs.part_evict_of_ne he]
      · rfl
      · rfl
  | advance time => rfl
  | notify other =>
    exact hOne (fun he => he ▸ rfl) fun hne =>
      hs.part_act_of_ne (w := w) (a := .notify other) trivial (hNe hne)
  | evaluate other =>
    exact hOne (fun he => he ▸ rfl) fun hne =>
      hs.part_act_of_ne (a := .begin other) trivial (hNe hne)
  | dispose other =>
    exact hOne (fun he => he ▸ rfl) fun hne =>
      hs.part_act_of_ne (w := w) (a := .dispose other) trivial (hNe hne)
  | shutdown =>
    show h.shutdown.part id = _
    rw [hs.part_shutdown]
    cases hf : h.session? id with
    | none => simp [treatment?, hf, Host.evict]
    | some s => simp [treatment?, hf, treat]

theorem le_of_mem_treatments {earlier : Nat} (hCalls : ∀ c ∈ calls, earlier ≤ c.1) :
    ∀ x ∈ treatments w id h calls, earlier ≤ x.1 := by
  induction calls generalizing h with
  | nil => simp [treatments]
  | cons c calls ih =>
    intro x hx
    rcases List.mem_append.mp hx with hx | hx
    · obtain ⟨y, -, rfl⟩ := Option.map_eq_some_iff.mp (Option.mem_toList.mp hx)
      exact hCalls c (List.mem_cons_self ..)
    · exact ih (fun d hd => hCalls d (List.mem_cons_of_mem c hd)) x hx

theorem treatments_filter (hOrder : calls.Pairwise fun c d => c.1 ≤ d.1) (time : Nat) :
    treatments w id h (calls.filter (·.1 ≤ time)) =
      (treatments w id h calls).filter (·.1 ≤ time) := by
  induction calls generalizing h with
  | nil => rfl
  | cons c calls ih =>
    obtain ⟨hc, hRest⟩ := List.pairwise_cons.mp hOrder
    by_cases hTime : c.1 ≤ time
    · have hHead : ∀ x? : Option Treatment, ((x?.map (c.1, ·)).toList).filter (·.1 ≤ time) =
          (x?.map (c.1, ·)).toList := by
        intro x?
        cases x? <;> simp [hTime]
      rw [List.filter_cons_of_pos (by simpa using hTime), treatments, treatments,
        List.filter_append, hHead, ih hRest]
    · have hLate : ∀ d ∈ c :: calls, c.1 ≤ d.1 := by
        intro d hd
        rcases List.mem_cons.mp hd with rfl | hd
        · exact Nat.le_refl _
        · exact hc d hd
      have hNone : (c :: calls).filter (·.1 ≤ time) = [] :=
        List.filter_eq_nil_iff.mpr fun d hd => by
          have := hLate d hd
          simp only [decide_eq_true_eq]
          omega
      have hNone' : (treatments w id h (c :: calls)).filter (·.1 ≤ time) = [] :=
        List.filter_eq_nil_iff.mpr fun x hx => by
          have := le_of_mem_treatments hLate x hx
          simp only [decide_eq_true_eq]
          omega
      rw [hNone, hNone']
      rfl

end

end LiveLine.Host
