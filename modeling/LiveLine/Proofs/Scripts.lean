import LiveLine.Proofs.Courses

/-!
# Scripts are made of acts

The steps of a script are calls that return when all that is due has happened.  Each is a sequence
of acts, so every state that a host passes through is reachable: while time advances, while an
evaluation waits, and after a step.

* `openEditor_evict`: opening an editor again is forgetting its session first.
* `Leads.shutdown`: shutting down is forgetting one session after another.
* `Passes.advanceTo`: what is due are acts that can happen.
* `Leads.step`, `Reachable.run`: the steps of a script, and scripts.
-/

namespace LiveLine.Host

variable {owner : Nat → EditorId} {w : Setup} {h : Host} {s : Session}

theorem mem_sessions_evict {id : EditorId} :
    s ∈ (h.evict id).sessions ↔ s ∈ h.sessions ∧ s.editor ≠ id := by
  cases hf : h.session? id with
  | none =>
    simp only [evict, hf]
    exact ⟨fun hm => ⟨hm, session?_eq_none.mp hf s hm⟩, And.left⟩
  | some t =>
    obtain ⟨flights, journal, hRelease⟩ := exists_release_eq h t
    simp only [evict, hf, hRelease, remove, List.mem_filter, ne_eq, decide_eq_true_eq]

theorem session?_evict (h : Host) (id : EditorId) :
    (h.evict id).session? id = none :=
  session?_eq_none.mpr fun _ hm => (mem_sessions_evict.mp hm).2

/-- Opening an editor again is forgetting its session first. -/
theorem openEditor_evict (hs : Sorted h.sessions) (id : EditorId) (snapshot : Snapshot) :
    (h.evict id).openEditor w id snapshot = h.openEditor w id snapshot := by
  cases hf : h.session? id with
  | none => rw [evict, hf]
  | some s =>
    have hNone := session?_evict h id
    obtain ⟨flights, journal, hRelease⟩ := exists_release_eq h s
    have hPlace := insertSession_filter (s :=
      { number := h.opened, editor := id, snapshot, timer := { delay := w.debounce } }) hs
    simp only [evict, hf, hRelease] at hNone ⊢
    simp only [openEditor, hNone, hf, hRelease]
    simp only [put, remove, hPlace]

theorem mem_of_earliest? {items : List (Nat × Due)} {x : Nat × Due}
    (hx : earliest? items = some x) : x ∈ items := by
  induction items generalizing x with
  | nil => simp [earliest?] at hx
  | cons y ys ih =>
    unfold earliest? at hx
    split at hx
    · rw [← Option.some.inj hx]
      exact List.mem_cons_self ..
    · rename_i z hz
      split at hx
      · rw [← Option.some.inj hx]
        exact List.mem_cons_of_mem y (ih hz)
      · rw [← Option.some.inj hx]
        exact List.mem_cons_self ..

/-- What is due is an act that can happen. -/
theorem Passes.perform (hs : Sorted h.sessions) {due : Nat} {item : Due}
    (hm : (due, item) ∈ h.agenda) (now : Nat) : Passes w h ({ h with now }.perform w item) := by
  refine (Passes.single (a := .tick now) trivial trivial).trans ?_
  rcases List.mem_append.mp hm with hm | hm
  · obtain ⟨s, hs', he⟩ := List.mem_filterMap.mp hm
    obtain ⟨time, hTime, he⟩ := Option.map_eq_some_iff.mp he
    obtain ⟨-, rfl⟩ := Prod.mk.inj he
    refine .single (a := .elapse s.editor)
      ⟨s, (session?_eq_some hs).mpr ⟨hs', rfl⟩, ?_⟩ trivial
    obtain ⟨x, hx, -⟩ := Option.map_eq_some_iff.mp hTime
    simp [Debouncer.isPending, hx]
  · obtain ⟨f, hf, he⟩ := List.mem_map.mp hm
    obtain ⟨-, rfl⟩ := Prod.mk.inj he
    exact .single (a := .complete f) hf trivial

theorem Passes.performDue (hs : ∃ owner, Sound owner h) (time limit : Nat) :
    Passes w h (performDue w time limit h) := by
  induction limit generalizing h with
  | zero => exact .refl w h
  | succ limit ih =>
    unfold Host.performDue
    split
    · exact .refl w h
    · rename_i due item hNext
      obtain ⟨owner, hOwner⟩ := hs
      have hm := mem_of_earliest? (Option.filter_eq_some_iff.mp hNext).1
      have hp : Passes w h _ := Passes.perform hOwner.sorted hm due
      exact hp.trans (ih (hp.leads.sound ⟨owner, hOwner⟩))

/-- While time passes, nothing but time passes. -/
theorem Passes.advanceTo (hs : ∃ owner, Sound owner h) (time : Nat) :
    Passes w h (h.advanceTo w time) :=
  (Passes.performDue hs time h.workload).trans (.single (a := .tick time) trivial trivial)

theorem Leads.advanceTo (hs : ∃ owner, Sound owner h) (time : Nat) :
    Leads w h (h.advanceTo w time) := (Passes.advanceTo hs time).leads

theorem Leads.await (hs : ∃ owner, Sound owner h) (run : RunNumber) :
    Leads w h (h.await w run) := by
  unfold Host.await
  split <;> exact .advanceTo hs _

theorem Leads.openEditor (hs : Sorted h.sessions) (id : EditorId) (snapshot : Snapshot) :
    Leads w h (h.openEditor w id snapshot) := by
  rw [← openEditor_evict hs]
  exact (Leads.single (.evict id) trivial).trans
    (.single (.openEditor id snapshot) (session?_evict h id))

theorem close_eq (h : Host) (id : EditorId) :
    h.close id = { h.evict id with focused := (h.close id).focused } := by
  cases hf : h.session? id <;> simp only [close, evict, hf]

theorem Leads.handle (e : EditorEvent) : Leads w h (h.handle e) := by
  unfold Host.handle
  split
  · exact .single (.notify e.editor) trivial
  · exact .single (.focus (some e.editor)) trivial
  · rw [close_eq]
    exact (Leads.single (.evict e.editor) trivial).trans (.single (.focus _) trivial)
  · exact .refl
  · exact .refl

theorem foldl_release_sessions (ss ts : List Session) (h : Host) :
    ss.foldl release { h with sessions := ts } = { ss.foldl release h with sessions := ts } := by
  induction ss generalizing h with
  | nil => rfl
  | cons s ss ih =>
    have hNewest : newestFlight? { h with sessions := ts } s = h.newestFlight? s := rfl
    have hs : release { h with sessions := ts } s = { h.release s with sessions := ts } := by
      simp only [release, hNewest]
      split <;> rfl
    rw [List.foldl_cons, List.foldl_cons, hs, ih]

/-- Forgetting all sessions, one after another. -/
theorem foldl_evict (hs : Sorted h.sessions) :
    (h.sessions.map (·.editor)).foldl evict h =
      { h.sessions.foldl release h with sessions := [] } := by
  have hAll : ∀ (ss : List Session) (h : Host), h.sessions = ss → Sorted ss →
      (ss.map (·.editor)).foldl evict h = { ss.foldl release h with sessions := [] } := by
    intro ss
    induction ss with
    | nil =>
      intro h hss _
      rw [List.map_nil, List.foldl_nil, List.foldl_nil, ← hss]
    | cons s ss ih =>
      intro h hss hSorted
      obtain ⟨hlt, hRest⟩ := List.pairwise_cons.mp hSorted
      have hf : h.session? s.editor = some s :=
        (session?_eq_some (hss ▸ hSorted)).mpr ⟨hss ▸ List.mem_cons_self .., rfl⟩
      obtain ⟨flights, journal, hRelease⟩ := exists_release_eq h s
      have hEvict : h.evict s.editor = { h.release s with sessions := ss } := by
        have hKeep : ss.filter (·.editor ≠ s.editor) = ss :=
          List.filter_eq_self.mpr fun t ht => by simpa using Nat.ne_of_gt (hlt t ht)
        simp only [evict, hf, remove, hRelease, hss, List.filter_cons, hKeep]
        simp
      rw [List.map_cons, List.foldl_cons, hEvict, ih _ rfl hRest, foldl_release_sessions,
        List.foldl_cons]
  exact hAll h.sessions h rfl hs

theorem shutdown_eq (hs : Sorted h.sessions) :
    h.shutdown = { (h.sessions.map (·.editor)).foldl evict h with focused := none } := by
  rw [foldl_evict hs]
  rfl

theorem Leads.shutdown (hs : Sorted h.sessions) : Leads w h h.shutdown := by
  have hAll : ∀ (ids : List EditorId) (h : Host), Leads w h (ids.foldl Host.evict h) := by
    intro ids
    induction ids with
    | nil => exact fun h => .refl
    | cons id ids ih => exact fun h => (Leads.single (.evict id) trivial).trans (ih _)
  rw [shutdown_eq hs]
  exact (hAll _ h).trans (.single (.focus none) trivial)

/-- **A step of a script is made of acts.** -/
theorem Leads.step (hs : ∃ owner, Sound owner h) (step : Step) : Leads w h (h.step w step) := by
  obtain ⟨owner, hOwner⟩ := hs
  have hSettle : ∀ {h' : Host}, Leads w h h' → Leads w h (h'.settle w) := fun hl =>
    hl.trans (.advanceTo (hl.sound ⟨owner, hOwner⟩) _)
  cases step with
  | openEditor id snapshot => exact hSettle (.openEditor hOwner.sorted id snapshot)
  | edit id text cursor => exact hSettle (.single (.edit id text cursor) trivial)
  | event e => exact hSettle (.handle e)
  | advance time => exact .advanceTo ⟨owner, hOwner⟩ _
  | notify id => exact hSettle (.single (.notify id) trivial)
  | evaluate id =>
    have hl : Leads w h (h.begin w id) := .single (.begin id) trivial
    exact hl.trans (.await (hl.sound ⟨owner, hOwner⟩) _)
  | dispose id => exact hSettle (.single (.dispose id) trivial)
  | shutdown => exact hSettle (.shutdown hOwner.sorted)

/-- **Every script leads to a reachable state.** -/
theorem Reachable.run (steps : List Step) : Reachable w (Host.run w {} steps) := by
  have hAll : ∀ (steps : List Step) (h : Host), Reachable w h → Reachable w (h.run w steps) := by
    intro steps
    induction steps with
    | nil => exact fun h hr => hr
    | cons step steps ih => exact fun h hr => ih _ (hr.trans (.step hr.sound step))
  exact hAll steps {} .refl

/-! ### Overlapping runs -/

/-- Lines are evaluated after ten milliseconds, unless they are blank; the first run says `1`, and
any other says `2`. -/
def sample (latency : RunNumber → Nat) : Setup where
  debounce := 10
  evaluates line := !line.isAllBlank
  plan run _ :=
    { latency := latency run, result := { stdout := [if run = 0 then '1' else '2', '\n'] } }

/-- Two runs of a second, the second of which starts while the first is in flight. -/
def overlapping : Host :=
  run (sample fun _ => 1000) {}
    [.openEditor 1 ⟨⟨"print(1)\n".toList⟩, 0⟩, .notify 1, .advance 10, .notify 1, .advance 10]

theorem reachable_overlapping : Reachable (sample fun _ => 1000) overlapping := .run _

end LiveLine.Host
