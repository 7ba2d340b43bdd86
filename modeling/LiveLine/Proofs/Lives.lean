import LiveLine.Proofs.Acts

/-!
# The lives of sessions

The life of a session is what a host holds of it: the session itself while the host has it, its
runs in flight, and what happened to it.  What a part of an act does to the lives in a host is said
by an equation that updates one of them.

* `Host.life_log`, `Host.life_put`, `Host.life_land`, `Host.life_launch`: the parts of an act.
* `Known.life_supersede`, `Known.life_release`: superseding a run, and letting go of everything.
-/

namespace LiveLine

/-- What a host holds of the session with some number; the newest happening comes first. -/
structure Life where
  session : Option Session := none
  flights : List Flight := []
  history : List Happening := []

namespace Life

def record (l : Life) (es : List Happening) : Life := { l with history := es.reverse ++ l.history }

def hold (l : Life) (s : Session) : Life := { l with session := some s }

def leave (l : Life) : Life := { l with session := none }

def land (l : Life) (run : RunNumber) : Life :=
  { l with flights := l.flights.filter (·.run ≠ run) }

def launch (l : Life) (f : Flight) : Life := { l with flights := l.flights ++ [f] }

/-- The run that the session can abort, while it is in flight. -/
def newest? (l : Life) (s : Session) : Option RunNumber :=
  s.newest.filter fun run => l.flights.any (·.run = run)

def supersede (w : Setup) (l : Life) (s : Session) : Life :=
  if w.onSupersede = .cancel then
    match l.newest? s with
    | some run => (l.land run).record [.cancelled run]
    | none => l
  else l

/-- What happens to a session that lets go of what it holds. -/
def parting (s : Session) (abort : Option RunNumber) : List Happening :=
  Host.supersededBy s ++ (abort.map .aborted).toList ++ s.presenter.clearCalls.map .called ++
    [.disposed]

def release (l : Life) (s : Session) : Life :=
  match l.newest? s with
  | some run => (l.record (parting s (some run))).land run
  | none => l.record (parting s none)

@[simp] theorem flights_record (l : Life) (es : List Happening) :
    (l.record es).flights = l.flights := rfl
@[simp] theorem history_record (l : Life) (es : List Happening) :
    (l.record es).history = es.reverse ++ l.history := rfl
@[simp] theorem flights_hold (l : Life) (s : Session) : (l.hold s).flights = l.flights := rfl
@[simp] theorem session_leave (l : Life) : l.leave.session = none := rfl
@[simp] theorem history_land (l : Life) (run : RunNumber) : (l.land run).history = l.history := rfl

theorem hold_eq_self {l : Life} {s : Session} (hs : l.session = some s) : l.hold s = l := by
  rw [hold, ← hs]

@[simp] theorem mem_flights_land {l : Life} {run : RunNumber} {f : Flight} :
    f ∈ (l.land run).flights ↔ f ∈ l.flights ∧ f.run ≠ run := by
  simp [land]

@[simp] theorem mem_flights_launch {l : Life} {f g : Flight} :
    g ∈ (l.launch f).flights ↔ g ∈ l.flights ∨ g = f := by
  simp [launch]

theorem newest?_eq_some {l : Life} {s : Session} {run : RunNumber} :
    l.newest? s = some run ↔ s.newest = some run ∧ ∃ f ∈ l.flights, f.run = run := by
  simp [newest?, Option.filter_eq_some_iff]

/-- Under the cancel policy the run that the session can abort is superseded, and no other. -/
@[simp] theorem mem_flights_supersede {w : Setup} {l : Life} {s : Session} {f : Flight} :
    f ∈ (l.supersede w s).flights ↔
      f ∈ l.flights ∧ (w.onSupersede = .cancel → s.newest ≠ some f.run) := by
  unfold supersede
  split
  · rename_i hCancel
    split
    · rename_i run hRun
      obtain ⟨hNewest, -⟩ := newest?_eq_some.mp hRun
      simp [hCancel, hNewest, eq_comm]
    · rename_i hNone
      refine ⟨fun hf => ⟨hf, fun _ hNewest => ?_⟩, And.left⟩
      have hSome := newest?_eq_some.mpr ⟨hNewest, f, hf, rfl⟩
      exact absurd (hNone.symm.trans hSome) (by simp)
  · rename_i hFinish
    simp [hFinish]

/-- Only the run that the session can abort does not outlive it. -/
@[simp] theorem mem_flights_release {l : Life} {s : Session} {f : Flight} :
    f ∈ (l.release s).flights ↔ f ∈ l.flights ∧ s.newest ≠ some f.run := by
  unfold release
  split
  · rename_i run hRun
    obtain ⟨hNewest, -⟩ := newest?_eq_some.mp hRun
    simp [hNewest, eq_comm]
  · rename_i hNone
    refine ⟨fun hf => ⟨hf, fun hNewest => ?_⟩, And.left⟩
    have hSome := newest?_eq_some.mpr ⟨hNewest, f, hf, rfl⟩
    exact absurd (hNone.symm.trans hSome) (by simp)

theorem history_release (l : Life) (s : Session) :
    (l.release s).history = (parting s (l.newest? s)).reverse ++ l.history := by
  unfold release
  split <;> simp_all

end Life

namespace Host

/-- What a host holds of the session with a number. -/
def life (h : Host) (n : Nat) : Life where
  session := h.numbered? n
  flights := h.flights.filter (·.session = n)
  history := (h.journal.filter (·.session = n)).map (·.event)

@[simp] theorem mem_flights_life {h : Host} {n : Nat} {f : Flight} :
    f ∈ (h.life n).flights ↔ f ∈ h.flights ∧ f.session = n := by
  simp [life]

/-- Brings a run into the air. -/
def launch (h : Host) (f : Flight) : Host :=
  { h with flights := h.flights ++ [f], started := h.started + 1 }

/-! ### What the parts of an act do to lives -/

section

variable {owner : Nat → EditorId} {w : Setup} {h : Host} {s : Session}

theorem life_log (h : Host) (s : Session) (es : List Happening) :
    (h.log s es).life = Function.update h.life s.number ((h.life s.number).record es) := by
  funext n
  have hEntries : ((es.map s.entry).reverse.filter (·.session = n)).map (·.event) =
      if s.number = n then es.reverse else [] := by
    split
    · rename_i hn
      rw [List.filter_eq_self.mpr (by simp [Session.entry, hn]), ← List.map_reverse, List.map_map]
      exact List.map_id _
    · rename_i hn
      rw [List.filter_eq_nil_iff.mpr (by simp [Session.entry, hn]), List.map_nil]
  by_cases hn : n = s.number
  · subst hn
    rw [Function.update_self]
    simp only [life, log, List.filter_append, List.map_append, hEntries, if_pos]
    rfl
  · rw [Function.update_of_ne hn]
    simp only [life, log, List.filter_append, List.map_append, hEntries, if_neg (Ne.symm hn)]
    rfl

/-- A session is put in the place of the one with its number, or where its editor has none. -/
theorem life_put (hPlace : ∀ t ∈ h.sessions, t.editor = s.editor ↔ t.number = s.number) :
    (h.put s).life = Function.update h.life s.number ((h.life s.number).hold s) := by
  funext n
  have hFind := find?_number_insertSession hPlace n
  by_cases hn : n = s.number
  · subst hn
    rw [Function.update_self]
    simp only [if_pos] at hFind
    simp only [life, numbered?, put, hFind, Life.hold]
  · rw [Function.update_of_ne hn]
    rw [if_neg (Ne.symm hn)] at hFind
    simp only [life, numbered?, put, hFind]

theorem life_land {run : RunNumber} {n : Nat}
    (hOwn : ∀ f ∈ h.flights, f.run = run → f.session = n) :
    (h.land run).life = Function.update h.life n ((h.life n).land run) := by
  funext m
  have hComm : (h.flights.filter (·.run ≠ run)).filter (·.session = m) =
      (h.flights.filter (·.session = m)).filter (·.run ≠ run) := by
    simp only [List.filter_filter, Bool.and_comm]
  by_cases hm : m = n
  · subst hm
    rw [Function.update_self]
    simp only [life, land, numbered?, hComm, Life.land]
  · rw [Function.update_of_ne hm]
    simp only [life, land, numbered?, hComm]
    rw [List.filter_eq_self.mpr]
    intro f hf
    obtain ⟨hf, hm'⟩ := List.mem_filter.mp hf
    simp only [decide_eq_true_eq] at hm' ⊢
    exact fun hr => hm (hm'.symm.trans (hOwn f hf hr))

theorem life_launch (h : Host) (f : Flight) :
    (h.launch f).life = Function.update h.life f.session ((h.life f.session).launch f) := by
  funext n
  by_cases hn : n = f.session
  · subst hn
    rw [Function.update_self]
    simp [life, numbered?, launch, Life.launch]
  · rw [Function.update_of_ne hn]
    simp [life, numbered?, launch, Ne.symm hn]

theorem life_finished {f : Flight} (hOwn : ∀ g ∈ h.flights, g.run = f.run → g.session = f.session) :
    ({ h.land f.run with
      journal := ⟨f.session, f.editor, .finished f.run f.result⟩ :: h.journal } : Host).life =
      Function.update h.life f.session
        (((h.life f.session).land f.run).record [.finished f.run f.result]) := by
  funext n
  by_cases hn : n = f.session
  · subst hn
    have hLand := congrFun (life_land hOwn) f.session
    rw [Function.update_self] at hLand ⊢
    rw [← hLand]
    simp [life, numbered?, land, Life.record]
  · have hLand := congrFun (life_land hOwn) n
    rw [Function.update_of_ne hn] at hLand ⊢
    rw [← hLand]
    simp [life, numbered?, land, Ne.symm hn]

theorem Sound.run_lt (hs : Sound owner h) {n : Nat} :
    ∀ f ∈ (h.life n).flights, f.run < h.started :=
  fun f hf => (hs.flight f (mem_flights_life.mp hf).1).1

theorem Sound.eq_of_run_life (hs : Sound owner h) {n : Nat} :
    ∀ f ∈ (h.life n).flights, ∀ g ∈ (h.life n).flights, g.run = f.run → g = f :=
  fun _ hf _ hg => hs.eq_of_run (mem_flights_life.mp hg).1 (mem_flights_life.mp hf).1

theorem Sound.place (hs : Sound owner h) {t : Session} (ht : t ∈ h.sessions)
    (hn : s.number = t.number) (he : s.editor = t.editor) :
    ∀ u ∈ h.sessions, u.editor = s.editor ↔ u.number = s.number := by
  intro u hu
  constructor
  · intro h
    rw [hs.sorted.eq_of_editor hu ht (h.trans he), hn]
  · intro h
    rw [hs.eq_of_number hu ht (h.trans hn), he]

theorem Known.newest?_life (hk : Known owner h s) :
    (h.life s.number).newest? s = h.newestFlight? s := by
  unfold Life.newest? newestFlight? flight?
  cases hRun : s.newest with
  | none => rfl
  | some run =>
    have hOwn := (hk.newest hRun).2
    have hSame : (h.life s.number).flights.any (·.run = run) =
        (h.flights.find? (·.run = run)).isSome := by
      rw [Bool.eq_iff_iff, List.any_eq_true, List.find?_isSome]
      constructor
      · rintro ⟨f, hf, hr⟩
        exact ⟨f, (List.mem_filter.mp hf).1, hr⟩
      · rintro ⟨f, hf, hr⟩
        exact ⟨f, List.mem_filter.mpr ⟨hf, by simpa using hOwn f hf (by simpa using hr)⟩, hr⟩
    simp only [Option.filter_some, hSame]

theorem Known.life_supersede (hk : Known owner h s) :
    (h.supersede w s).life =
      Function.update h.life s.number ((h.life s.number).supersede w s) := by
  unfold Host.supersede Life.supersede
  rw [hk.newest?_life]
  split
  · cases hRun : h.newestFlight? s with
    | none => exact (Function.update_eq_self ..).symm
    | some run =>
      have hOwn := (hk.newest (Option.filter_eq_some_iff.mp hRun).1).2
      dsimp only
      rw [life_log, life_land hOwn, Function.update_self, Function.update_idem]
  · rw [Function.update_eq_self]

theorem Known.life_release (hk : Known owner h s) :
    (h.release s).life = Function.update h.life s.number ((h.life s.number).release s) := by
  unfold Host.release Life.release
  rw [hk.newest?_life]
  cases hRun : h.newestFlight? s with
  | none => exact life_log h s (Life.parting s none)
  | some run =>
    have hOwn := (hk.newest (Option.filter_eq_some_iff.mp hRun).1).2
    have hLog := life_log h s (Life.parting s (some run))
    have hLand := life_land (h := h.log s (Life.parting s (some run))) hOwn
    rwa [hLog, Function.update_self, Function.update_idem] at hLand

end

end Host

end LiveLine
