import LiveLine.Proofs.Accounts
import LiveLine.Proofs.Scratch
import Mathlib.Data.List.Perm.Subperm

/-!
# Runs that overlap under the cancel policy

All runs write their snippets to one scratch file and remove it when they end.  Under the cancel
policy an evaluation aborts the run of its own session, and nothing looks at the runs of other
editors.  So the runs of one editor are never in flight together, and those of different editors
are whenever a line is evaluated while a run of another editor goes on.

A run that is aborted is no longer in flight.  Nothing is said here of when it has let go of the
scratch file, for which nobody waits.

* `Reachable.exists_held`: the run of an editor in flight is the one that its session can abort.
* `Reachable.length_flights_act_le_one_iff`: which acts bring a second run into the air.
* `Course.overlap_exact`: when two runs are in flight together.
-/

namespace LiveLine.Host

section

variable {owner : Nat → EditorId} {w : Setup} {h : Host} {f g : Flight} {a : Act} {c : List Deed}

/-! ### Runs of one editor -/

/-- Under the cancel policy the session of a run in flight is there, and can abort it. -/
theorem Reachable.exists_held (hCancel : w.onSupersede = .cancel) (hr : Reachable w h)
    (hf : f ∈ h.flights) : ∃ s ∈ h.sessions, s.editor = f.editor ∧ s.newest = some f.run := by
  obtain ⟨owner, hs⟩ := hr.sound
  obtain ⟨s, hSession, hNewest⟩ :=
    (hr.sole hCancel f.session).held f (mem_flights_life.mpr ⟨hf, rfl⟩)
  obtain ⟨hm, hn⟩ := hs.numbered?_eq_some.mp hSession
  refine ⟨s, hm, ?_, hNewest⟩
  rw [(hs.known s hm).editor_eq, hn, (hs.flight f hf).2.2]

/-- Under the cancel policy an editor has one run in flight at most. -/
theorem Reachable.eq_of_editor (hCancel : w.onSupersede = .cancel) (hr : Reachable w h)
    (hf : f ∈ h.flights) (hg : g ∈ h.flights) (he : f.editor = g.editor) : f = g := by
  obtain ⟨owner, hs⟩ := hr.sound
  obtain ⟨s, hm, hOwn, hNewest⟩ := hr.exists_held hCancel hf
  obtain ⟨t, ht, hOwn', hNewest'⟩ := hr.exists_held hCancel hg
  obtain rfl := hs.sorted.eq_of_editor hm ht (hOwn.trans (he.trans hOwn'.symm))
  exact hs.eq_of_run hf hg (Option.some.inj (hNewest.symm.trans hNewest'))

/-- Under the cancel policy there are at most as many runs in flight as there are sessions. -/
theorem Reachable.length_flights_le (hCancel : w.onSupersede = .cancel) (hr : Reachable w h) :
    h.flights.length ≤ h.sessions.length := by
  obtain ⟨owner, hs⟩ := hr.sound
  have hNodup : (h.flights.map (·.editor)).Nodup :=
    hs.runs.of_map.map_on fun f hf g hg he => hr.eq_of_editor hCancel hf hg he
  have hSubset : h.flights.map (·.editor) ⊆ h.sessions.map (·.editor) := by
    intro id hid
    obtain ⟨f, hf, rfl⟩ := List.mem_map.mp hid
    obtain ⟨s, hm, hOwn, -⟩ := hr.exists_held hCancel hf
    exact List.mem_map.mpr ⟨s, hm, hOwn⟩
  simpa using (List.subperm_of_subset hNodup hSubset).length_le

/-! ### Runs of different editors -/

theorem eq_of_length_le_one {fs : List Flight} (hOne : fs.length ≤ 1) (hf : f ∈ fs) (hg : g ∈ fs) :
    f = g := by
  obtain ⟨x, rfl⟩ := List.length_eq_one_iff.mp
    (Nat.le_antisymm hOne (List.length_pos_of_mem hf))
  exact (List.mem_singleton.mp hf).trans (List.mem_singleton.mp hg).symm

/-- An act that starts a run evaluates the line of a session, and starts no other run. -/
theorem exists_of_mem_launched (hg : g ∈ a.launched w h) :
    ∃ id, (a = .begin id ∨ a = .elapse id) ∧ a.launched w h = [g] ∧
      ∃ s, h.session? id = some s ∧ g.editor = s.editor := by
  have hLiftoff : ∀ id, g ∈ ((h.session? id).map (h.liftoff w)).getD [] →
      ((h.session? id).map (h.liftoff w)).getD [] = [g] ∧
        ∃ s, h.session? id = some s ∧ g.editor = s.editor := by
    intro id hg
    cases hf : h.session? id with
    | none => simp [hf] at hg
    | some s =>
      simp only [hf, Option.map_some, Option.getD_some, liftoff] at hg ⊢
      split_ifs at hg ⊢
      · obtain rfl := List.mem_singleton.mp hg
        exact ⟨rfl, s, rfl, rfl⟩
      · exact absurd hg List.not_mem_nil
  cases a with
  | begin id => exact ⟨id, Or.inl rfl, hLiftoff id hg⟩
  | elapse id => exact ⟨id, Or.inr rfl, hLiftoff id hg⟩
  | _ => exact absurd hg List.not_mem_nil

/-- An act that starts a run ends no run of another editor. -/
theorem Reachable.mem_flights_act_of_ne (hr : Reachable w h) (possible : a.Possible h)
    (hg : g ∈ a.launched w h) (hf : f ∈ h.flights) (hOther : f.editor ≠ g.editor) :
    f ∈ (h.act w a).flights := by
  obtain ⟨owner, hs⟩ := hr.sound
  obtain ⟨id, ha, -, s, hSome, hEditor⟩ := exists_of_mem_launched hg
  by_contra hLeft
  have hEnded : f ∈ Deed.ended w ⟨h, a⟩ := List.mem_filter.mpr ⟨hf, by simpa using hLeft⟩
  obtain ⟨-, -, t, hSome', -, hOwn⟩ := (hr.mem_ended_iff possible ha).mp hEnded
  obtain rfl : s = t := Option.some.inj (hSome.symm.trans hSome')
  refine hOther ?_
  rw [(hs.flight f hf).2.2, hOwn, hEditor, (hs.known s (hs.mem_of_session? hSome).1).editor_eq]

/-- **An act brings a second run into the air just if it starts one while a run of another editor is
in flight.** -/
theorem Reachable.length_flights_act_le_one_iff (hCancel : w.onSupersede = .cancel)
    (hr : Reachable w h) (possible : a.Possible h) (hOne : h.flights.length ≤ 1) :
    (h.act w a).flights.length ≤ 1 ↔
      ∀ g ∈ a.launched w h, ∀ f ∈ h.flights, f.editor = g.editor := by
  obtain ⟨owner, hs⟩ := hr.sound
  have hr' : Reachable w (h.act w a) := hr.trans (.single a possible)
  have hFlights := (hr.events_flights_act possible).2
  constructor
  · intro hOne' g hg f hf
    by_contra hOther
    have hf' := hr.mem_flights_act_of_ne possible hg hf hOther
    have hg' : g ∈ (h.act w a).flights := hFlights ▸ List.mem_append_right _ hg
    exact hOther (congrArg _ (eq_of_length_le_one hOne' hf' hg'))
  · intro hSame
    cases hLaunched : a.launched w h with
    | nil =>
      rw [hFlights, hLaunched, List.append_nil]
      exact (List.length_filter_le ..).trans hOne
    | cons g gs =>
      have hg : g ∈ a.launched w h := hLaunched ▸ List.mem_cons_self
      obtain ⟨-, -, hOnly, -⟩ := exists_of_mem_launched hg
      have hNone : h.flights.filter (a.landed? w h ≠ some ·.run) = [] := by
        refine List.eq_nil_iff_forall_not_mem.mpr fun f hf => ?_
        have hOld := List.mem_of_mem_filter hf
        have hf' : f ∈ (h.act w a).flights := hFlights ▸ List.mem_append_left _ hf
        have hg' : g ∈ (h.act w a).flights := hFlights ▸ List.mem_append_right _ hg
        obtain rfl := hr'.eq_of_editor hCancel hf' hg' (hSame g hg f hOld)
        exact hs.not_mem_launched hOld hg
      rw [hFlights, hNone, hOnly]
      exact Nat.le_refl 1

/-- No two runs are in flight together at any time of a course just if no run is started while one
of another editor is in flight. -/
theorem Course.length_flights_le_one_iff (hCancel : w.onSupersede = .cancel)
    (hc : Course w {} c h) :
    (h.flights.length ≤ 1 ∧ ∀ d ∈ c, d.host.flights.length ≤ 1) ↔
      ∀ d ∈ c, ∀ g ∈ d.act.launched w d.host, ∀ f ∈ d.host.flights, f.editor = g.editor := by
  induction hc with
  | nil => simp
  | @cons c h prior a possible ih =>
    have hAct := Reachable.length_flights_act_le_one_iff hCancel prior.leads possible
    rw [List.forall_mem_cons, List.forall_mem_cons, ← ih]
    constructor
    · rintro ⟨hOne', hOne, hBefore⟩
      exact ⟨(hAct hOne).mp hOne', hOne, hBefore⟩
    · rintro ⟨hSame, hOne, hBefore⟩
      exact ⟨(hAct hOne).mpr hSame, hOne, hBefore⟩

/-- **Under the cancel policy runs overlap across editors, and only there.**  Two runs in flight
are of different editors, and there are at most as many as sessions.  No two runs are in flight
together at any time of a course just if no run is started while one of another editor is in
flight. -/
theorem Course.overlap_exact (hCancel : w.onSupersede = .cancel) (hc : Course w {} c h) :
    (∀ f ∈ h.flights, ∀ g ∈ h.flights, f.editor = g.editor → f = g) ∧
    h.flights.length ≤ h.sessions.length ∧
    ((h.flights.length ≤ 1 ∧ ∀ d ∈ c, d.host.flights.length ≤ 1) ↔
      ∀ d ∈ c, ∀ g ∈ d.act.launched w d.host, ∀ f ∈ d.host.flights, f.editor = g.editor) := by
  have hr : Reachable w h := hc.leads
  exact ⟨fun f hf g hg => hr.eq_of_editor hCancel hf hg, hr.length_flights_le hCancel,
    hc.length_flights_le_one_iff hCancel⟩

/-- Runs of two editors are in flight, and the second has started after the first. -/
def crossing : Host :=
  run cancelling {} [.openEditor 1 ⟨⟨"print(1)\n".toList⟩, 0⟩,
    .openEditor 2 ⟨⟨"print(2)\n".toList⟩, 0⟩, .notify 1, .advance 10, .notify 2, .advance 10]

theorem overlap_exact_crossing :
    cancelling.onSupersede = .cancel ∧ ∃ c, Course cancelling {} c crossing ∧
      crossing.flights.length = 2 ∧ ∃ d ∈ c, ∃ g ∈ d.act.launched cancelling d.host,
        ∃ f ∈ d.host.flights, f.editor ≠ g.editor := by
  have hr : Reachable cancelling crossing := .run _
  have hTwo : crossing.flights.length = 2 := by decide +kernel
  obtain ⟨c, hc⟩ := hr.exists_course
  refine ⟨rfl, c, hc, hTwo, ?_⟩
  by_contra hNone
  push Not at hNone
  have hOne := ((Course.overlap_exact rfl hc).2.2.mpr hNone).1
  rw [hTwo] at hOne
  exact absurd hOne (by decide)

/-- The run of one editor is in flight when that of another starts.  The scratch file, which held
the snippet of the first, does not hold it any more once the second has saved its own. -/
theorem crossing_overwrites :
    cancelling.onSupersede = .cancel ∧ Reachable cancelling crossing ∧
      ∃ f ∈ crossing.flights, ∃ g ∈ crossing.flights, f.run < g.run ∧
        ∀ (r : Runner) (around : Surroundings) (t t' t'' : FileTree),
          r.save around f.request t = .ok t' → r.save around g.request t' = .ok t'' →
            t'.read? around.cwd r.scratchPath = .ok (Utf8.encode f.request.source) ∧
            t''.read? around.cwd r.scratchPath ≠ .ok (Utf8.encode f.request.source) := by
  have hr : Reachable cancelling crossing := .run _
  obtain ⟨f, hf, g, hg, hLater, hSources⟩ : ∃ f ∈ crossing.flights, ∃ g ∈ crossing.flights,
      f.run < g.run ∧ Utf8.encode g.request.source ≠ Utf8.encode f.request.source := by
    decide +kernel
  refine ⟨rfl, hr, f, hf, g, hg, hLater, fun r around t t' t'' hFirst hSecond => ?_⟩
  refine ⟨Runner.read?_of_save hFirst, fun hRead => hSources ?_⟩
  exact Except.ok.inj ((Runner.read?_of_save hSecond).symm.trans hRead)

end

end LiveLine.Host
