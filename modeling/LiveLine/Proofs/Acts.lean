import LiveLine.Host.Time
import LiveLine.Proofs.Sessions
import Mathlib.Data.List.Nodup

/-!
# The acts of a host

Everything that a host does, and all that happens to it, is made of acts with nothing in between:
a call that returns at once, a timer that elapses, a run that completes, a change of an editor.
`Leads w h h'` says that some acts lead from `h` to `h'`, in any order that the pending timers and
the runs in flight allow.  Due times are not looked at: `tick` sets the clock to any value, so that
what holds along `Leads` holds for every delay and every latency.

* `Sound`: what ties the sessions, the flights and the journal of a host together.
* `Sound.act`, `Reachable.sound`: every act keeps it.
-/

namespace LiveLine.Host

/-! ## Acts -/

/-- Disposes the session of an editor and forgets it; the focus stays. -/
def evict (h : Host) (id : EditorId) : Host :=
  match h.session? id with
  | none => h
  | some s => (h.release s).remove id

inductive Act where
  | openEditor (id : EditorId) (snapshot : Snapshot)
  | edit (id : EditorId) (text : Option Text) (cursor : Option Nat)
  | notify (id : EditorId)
  /-- Evaluates at once, in place of a pending timer; what follows is no part of the act. -/
  | begin (id : EditorId)
  | elapse (id : EditorId)
  | complete (flight : Flight)
  | dispose (id : EditorId)
  | evict (id : EditorId)
  | focus (focused : Option EditorId)
  | tick (now : Nat)

/-- When an act can happen: an editor is opened where there is none, timers elapse that are
pending, and runs complete that are in flight. -/
def Act.Possible (h : Host) : Act → Prop
  | openEditor id _ => h.session? id = none
  | elapse id => ∃ s, h.session? id = some s ∧ s.timer.isPending = true
  | complete f => f ∈ h.flights
  | _ => True

def act (w : Setup) (h : Host) : Act → Host
  | .openEditor id snapshot => h.openEditor w id snapshot
  | .edit id text cursor => h.edit id text cursor
  | .notify id => h.notify id
  | .begin id => h.begin w id
  | .elapse id => h.elapse w id
  | .complete f => h.complete w f
  | .dispose id => h.dispose id
  | .evict id => h.evict id
  | .focus focused => { h with focused }
  | .tick now => { h with now }

/-- Some acts lead from one state of a host to another. -/
inductive Leads (w : Setup) (h : Host) : Host → Prop
  | refl : Leads w h h
  | act {h' : Host} (prior : Leads w h h') (a : Act) (possible : a.Possible h') :
      Leads w h (h'.act w a)

/-- The states that a host comes to from its beginning. -/
abbrev Reachable (w : Setup) : Host → Prop := Leads w {}

theorem Leads.single {w : Setup} {h : Host} (a : Act) (possible : a.Possible h) :
    Leads w h (h.act w a) := .act .refl a possible

theorem Leads.trans {w : Setup} {h h' h'' : Host} (h₁ : Leads w h h') (h₂ : Leads w h' h'') :
    Leads w h h'' := by
  induction h₂ with
  | refl => exact h₁
  | act _ a possible ih => exact .act ih a possible

/-- Superseding a run concerns flights and journal only. -/
theorem exists_supersede_eq (w : Setup) (h : Host) (s : Session) :
    ∃ flights journal, h.supersede w s = { h with flights, journal } := by
  unfold supersede
  split
  · split
    · exact ⟨_, _, rfl⟩
    · exact ⟨h.flights, h.journal, rfl⟩
  · exact ⟨h.flights, h.journal, rfl⟩

/-- Letting go of what a session holds concerns flights and journal only. -/
theorem exists_release_eq (h : Host) (s : Session) :
    ∃ flights journal, h.release s = { h with flights, journal } := by
  unfold release
  dsimp only
  split
  · exact ⟨_, _, rfl⟩
  · exact ⟨_, _, rfl⟩

/-- An evaluation leaves the clock, the focus and the decorations alone. -/
theorem exists_fire_eq (w : Setup) (h : Host) (id : EditorId) :
    ∃ sessions flights started journal,
      h.fire w id = { h with sessions, flights, started, journal } := by
  unfold fire
  split
  · exact ⟨_, _, _, _, rfl⟩
  · rename_i s _
    split
    · exact ⟨_, _, _, _, rfl⟩
    · obtain ⟨flights, journal, hSupersede⟩ := exists_supersede_eq w h s
      rw [hSupersede]
      dsimp only
      split <;> exact ⟨_, _, _, _, rfl⟩

/-- Whether an act is about an editor that is open, and about neither clock nor focus. -/
def Act.IsLocal : Act → Prop
  | openEditor .. | focus _ | tick _ => False
  | _ => True

/-- What happens to editors that are open leaves the clock and the focus alone. -/
theorem aside_act {w : Setup} {h : Host} {a : Act} (ha : a.IsLocal) :
    (h.act w a).now = h.now ∧ (h.act w a).focused = h.focused := by
  have hFire : ∀ (h : Host) id, (h.fire w id).now = h.now ∧ (h.fire w id).focused = h.focused := by
    intro h id
    obtain ⟨sessions, flights, started, journal, hFire⟩ := exists_fire_eq w h id
    rw [hFire]
    exact ⟨rfl, rfl⟩
  have hRelease : ∀ s, (h.release s).now = h.now ∧ (h.release s).focused = h.focused := by
    intro s
    obtain ⟨flights, journal, hRelease⟩ := exists_release_eq h s
    rw [hRelease]
    exact ⟨rfl, rfl⟩
  cases a with
  | openEditor | focus | tick => exact ha.elim
  | edit id text cursor =>
    simp only [act, edit]
    split <;> exact ⟨rfl, rfl⟩
  | notify id =>
    simp only [act, notify]
    split
    · exact ⟨rfl, rfl⟩
    · split <;> exact ⟨rfl, rfl⟩
  | begin id =>
    have hCancel : (h.cancelTimer id).now = h.now ∧ (h.cancelTimer id).focused = h.focused := by
      unfold cancelTimer
      split <;> exact ⟨rfl, rfl⟩
    exact ⟨(hFire _ id).1.trans hCancel.1, (hFire _ id).2.trans hCancel.2⟩
  | elapse id =>
    simp only [act, elapse]
    split
    · exact ⟨rfl, rfl⟩
    · exact hFire _ id
  | complete f =>
    simp only [act, complete]
    split
    · exact ⟨rfl, rfl⟩
    · split <;> exact ⟨rfl, rfl⟩
  | dispose id =>
    simp only [act, dispose]
    split
    · exact ⟨rfl, rfl⟩
    · exact hRelease _
  | evict id =>
    simp only [act, evict]
    split
    · exact ⟨rfl, rfl⟩
    · exact hRelease _

/-! ## Soundness -/

/-- A session that a host has numbered, where `owner` gives the editor of each session: a run that
it can abort is its own. -/
def Known (owner : Nat → EditorId) (h : Host) (s : Session) : Prop :=
  s.number < h.opened ∧ s.editor = owner s.number ∧ ∀ run, s.newest = some run →
    run < h.started ∧ ∀ f ∈ h.flights, f.run = run → f.session = s.number

/-- What ties the parts of a host together: sessions are in order and numbered apart, runs are
numbered apart, and flights and journal speak of sessions that were opened. -/
structure Sound (owner : Nat → EditorId) (h : Host) : Prop where
  sorted : Sorted h.sessions
  known : ∀ s ∈ h.sessions, Known owner h s
  flight : ∀ f ∈ h.flights, f.run < h.started ∧ f.session < h.opened ∧ f.editor = owner f.session
  runs : (h.flights.map Flight.run).Nodup
  entry : ∀ e ∈ h.journal, e.session < h.opened ∧ e.editor = owner e.session

section Soundness

variable {owner : Nat → EditorId} {w : Setup} {h : Host} {s : Session}

theorem Known.number_lt (hk : Known owner h s) : s.number < h.opened := hk.1

theorem Known.editor_eq (hk : Known owner h s) : s.editor = owner s.number := hk.2.1

theorem Known.newest (hk : Known owner h s) {run : RunNumber} (hr : s.newest = some run) :
    run < h.started ∧ ∀ f ∈ h.flights, f.run = run → f.session = s.number := hk.2.2 run hr

/-- What a host knows of a session, it knows of the session in another state. -/
theorem Known.update (hk : Known owner h s) {s' : Session} (hn : s'.number = s.number)
    (he : s'.editor = s.editor) (hr : ∀ run, s'.newest = some run → s.newest = some run) :
    Known owner h s' :=
  ⟨hn ▸ hk.number_lt, by rw [he, hn, hk.editor_eq],
    fun run hrun => hn ▸ hk.newest (hr run hrun)⟩

theorem Known.land (hk : Known owner h s) (run : RunNumber) : Known owner (h.land run) s :=
  ⟨hk.number_lt, hk.editor_eq, fun _ hr => ⟨(hk.newest hr).1,
    fun f hf => (hk.newest hr).2 f (List.mem_of_mem_filter hf)⟩⟩

namespace Sound

theorem eq_of_number (hs : Sound owner h) {t : Session} (hm : s ∈ h.sessions)
    (ht : t ∈ h.sessions) (hn : s.number = t.number) : s = t := by
  refine hs.sorted.eq_of_editor hm ht ?_
  rw [(hs.known s hm).editor_eq, (hs.known t ht).editor_eq, hn]

theorem eq_of_run (hs : Sound owner h) {f g : Flight} (hf : f ∈ h.flights) (hg : g ∈ h.flights)
    (hr : f.run = g.run) : f = g := List.inj_on_of_nodup_map hs.runs hf hg hr

theorem numbered?_eq_some (hs : Sound owner h) {n : Nat} :
    h.numbered? n = some s ↔ s ∈ h.sessions ∧ s.number = n := by
  constructor
  · intro hf
    exact ⟨List.mem_of_find?_eq_some hf, by simpa using List.find?_some hf⟩
  · rintro ⟨hm, rfl⟩
    cases hf : h.numbered? s.number with
    | none => simpa using List.find?_eq_none.mp hf s hm
    | some t =>
      have ht : t.number = s.number := by simpa using List.find?_some hf
      rw [hs.eq_of_number (List.mem_of_find?_eq_some hf) hm ht]

theorem mem_of_session? (hs : Sound owner h) {id : EditorId} (hf : h.session? id = some s) :
    s ∈ h.sessions ∧ s.editor = id := (session?_eq_some hs.sorted).mp hf

theorem initial : Sound owner {} := by
  constructor <;> simp

/-- The clock, the focus and the count of decorations are no matter of soundness. -/
theorem aside (hs : Sound owner h) (now : Nat) (focused : Option EditorId) (issued : Nat) :
    Sound owner { h with now, focused, issued } :=
  ⟨hs.sorted, hs.known, hs.flight, hs.runs, hs.entry⟩

theorem log (hs : Sound owner h) (hk : Known owner h s) (es : List Happening) :
    Sound owner (h.log s es) := by
  refine ⟨hs.sorted, hs.known, hs.flight, hs.runs, fun e he => ?_⟩
  rcases List.mem_append.mp he with he | he
  · obtain ⟨x, _, rfl⟩ := List.mem_map.mp (List.mem_reverse.mp he)
    exact ⟨hk.number_lt, hk.editor_eq⟩
  · exact hs.entry e he

theorem land (hs : Sound owner h) (run : RunNumber) : Sound owner (h.land run) :=
  ⟨hs.sorted, fun s hm => (hs.known s hm).land run,
    fun f hf => hs.flight f (List.mem_of_mem_filter hf),
    hs.runs.sublist (List.filter_sublist.map _), hs.entry⟩

theorem put (hs : Sound owner h) (hk : Known owner h s) : Sound owner (h.put s) := by
  refine ⟨sorted_insertSession hs.sorted, fun t ht => ?_, hs.flight, hs.runs, hs.entry⟩
  rcases (mem_insertSession hs.sorted).mp ht with rfl | ⟨ht, _⟩
  · exact hk
  · exact hs.known t ht

theorem remove (hs : Sound owner h) (id : EditorId) : Sound owner (h.remove id) :=
  ⟨hs.sorted.filter _, fun s hm => hs.known s (List.mem_of_mem_filter hm), hs.flight, hs.runs,
    hs.entry⟩

/-! ### Calls of a host keep it sound -/

theorem notify (hs : Sound owner h) (id : EditorId) : Sound owner (h.notify id) := by
  unfold Host.notify
  split
  · exact hs
  · rename_i s hf
    have hk := hs.known s (hs.mem_of_session? hf).1
    split
    · exact hs
    · have hl := hs.log hk (supersededBy s ++ [.scheduled])
      exact hl.put (hk.update rfl rfl fun _ h => h)

theorem cancelTimer (hs : Sound owner h) (id : EditorId) : Sound owner (h.cancelTimer id) := by
  unfold Host.cancelTimer
  split
  · exact hs
  · rename_i s hf
    have hk := hs.known s (hs.mem_of_session? hf).1
    exact (hs.log hk _).put (hk.update rfl rfl fun _ h => h)

theorem supersede (hs : Sound owner h) (hk : Known owner h s) :
    Sound owner (h.supersede w s) ∧ Known owner (h.supersede w s) s := by
  unfold Host.supersede
  split
  · split
    · rename_i run _
      exact ⟨(hs.land run).log (hk.land run) _, hk.land run⟩
    · exact ⟨hs, hk⟩
  · exact ⟨hs, hk⟩

theorem start (hs : Sound owner h) (hk : Known owner h s) : Sound owner (h.start w s) := by
  have hl := hs.log hk [.started h.started (.through s.snapshot.document.text s.snapshot.cursor)]
  unfold Host.start
  refine Sound.put ⟨hl.sorted, fun t ht => ?_, fun f hf => ?_, ?_, hl.entry⟩ ?_
  · refine ⟨(hl.known t ht).number_lt, (hl.known t ht).editor_eq, fun run hr => ?_⟩
    obtain ⟨hlt, hOwn⟩ := (hl.known t ht).newest hr
    refine ⟨Nat.lt_succ_of_lt hlt, fun f hf he => ?_⟩
    rcases List.mem_append.mp hf with hf | hf
    · exact hOwn f hf he
    · rw [List.mem_singleton.mp hf] at he
      exact absurd he (Nat.ne_of_gt hlt)
  · rcases List.mem_append.mp hf with hf | hf
    · exact ⟨Nat.lt_succ_of_lt (hl.flight f hf).1, (hl.flight f hf).2⟩
    · rw [List.mem_singleton.mp hf]
      exact ⟨Nat.lt_succ_self _, hk.number_lt, hk.editor_eq⟩
  · rw [List.map_append, List.nodup_append]
    refine ⟨hl.runs, by simp, fun run hr run' hr' => ?_⟩
    obtain ⟨f, hf, rfl⟩ := List.mem_map.mp hr
    rw [show run' = h.started by simpa using hr']
    exact Nat.ne_of_lt (hl.flight f hf).1
  · refine ⟨hk.number_lt, hk.editor_eq, fun run hr => ?_⟩
    obtain rfl : h.started = run := Option.some.inj hr
    refine ⟨Nat.lt_succ_self _, fun f hf he => ?_⟩
    rcases List.mem_append.mp hf with hf | hf
    · exact absurd he (Nat.ne_of_lt (hl.flight f hf).1)
    · rw [List.mem_singleton.mp hf]

theorem reject (hs : Sound owner h) (hk : Known owner h s) : Sound owner (h.reject w s) :=
  ((hs.log hk _).aside _ _ _).put (hk.update rfl rfl fun _ h => h)

theorem fire (hs : Sound owner h) (id : EditorId) : Sound owner (h.fire w id) := by
  unfold Host.fire
  split
  · exact hs
  · rename_i s hf
    split
    · exact hs
    · obtain ⟨hs', hk⟩ := hs.supersede (w := w) (hs.known s (hs.mem_of_session? hf).1)
      dsimp only
      have hk' : Known owner (h.supersede w s) { s with
          generation := s.generation + 1
          newest := if w.onSupersede = .cancel then none else s.newest } := by
        refine hk.update rfl rfl fun run hr => ?_
        dsimp only at hr
        split at hr
        · simp at hr
        · exact hr
      split
      · exact hs'.start hk'
      · exact hs'.reject hk'

theorem release (hs : Sound owner h) (hk : Known owner h s) :
    Sound owner (h.release s) ∧ Known owner (h.release s) s := by
  unfold Host.release
  dsimp only
  split
  · rename_i run _
    exact ⟨(hs.log hk _).land run, hk.land run⟩
  · exact ⟨hs.log hk _, hk⟩

theorem presentResult (hs : Sound owner h) (hk : Known owner h s) (f : Flight) :
    Sound owner (h.presentResult w s f) :=
  ((hs.log hk _).aside _ _ _).put (hk.update rfl rfl fun _ h => h)

theorem finished (hs : Sound owner h) {f : Flight} (hf : f ∈ h.flights) :
    Sound owner { h.land f.run with
      journal := ⟨f.session, f.editor, .finished f.run f.result⟩ :: h.journal } := by
  have hl := hs.land f.run
  refine ⟨hl.sorted, hl.known, hl.flight, hl.runs, fun e he => ?_⟩
  rcases List.mem_cons.mp he with rfl | he
  · exact (hs.flight f hf).2
  · exact hs.entry e he

theorem complete (hs : Sound owner h) {f : Flight} (hf : f ∈ h.flights) :
    Sound owner (h.complete w f) := by
  have hl := hs.finished hf
  unfold Host.complete
  dsimp only
  split
  · exact hl
  · rename_i s hn
    split
    · exact hl
    · exact hl.presentResult (hl.known s (hl.numbered?_eq_some.mp hn).1) f

theorem dispose (hs : Sound owner h) (id : EditorId) : Sound owner (h.dispose id) := by
  unfold Host.dispose
  split
  · exact hs
  · rename_i s hf
    obtain ⟨hs', hk⟩ := hs.release (hs.known s (hs.mem_of_session? hf).1)
    exact hs'.put (hk.update rfl rfl fun run hr => by simp [Session.closed] at hr)

theorem evict (hs : Sound owner h) (id : EditorId) : Sound owner (h.evict id) := by
  unfold Host.evict
  split
  · exact hs
  · rename_i s hf
    exact (hs.release (hs.known s (hs.mem_of_session? hf).1)).1.remove id

theorem edit (hs : Sound owner h) (id : EditorId) (text : Option Text) (cursor : Option Nat) :
    Sound owner (h.edit id text cursor) := by
  unfold Host.edit
  split
  · exact hs
  · rename_i s hf
    exact hs.put ((hs.known s (hs.mem_of_session? hf).1).update rfl rfl fun _ h => h)

theorem elapse (hs : Sound owner h) (id : EditorId) : Sound owner (h.elapse w id) := by
  unfold Host.elapse
  split
  · exact hs
  · rename_i s hf
    have hk := hs.known s (hs.mem_of_session? hf).1
    have hk' : Known owner h { s with timer := s.timer.cancel } := hk.update rfl rfl fun _ h => h
    exact ((hs.log hk _).put hk').fire id

/-- A new session has the next number; what was opened before keeps its editor. -/
theorem openEditor (hs : Sound owner h) {id : EditorId} (hNew : h.session? id = none)
    (snapshot : Snapshot) :
    Sound (Function.update owner h.opened id) (h.openEditor w id snapshot) := by
  have hSelf : Function.update owner h.opened id h.opened = id := Function.update_self ..
  have hOld : ∀ {n : Nat}, n < h.opened → Function.update owner h.opened id n = owner n :=
    fun hn => Function.update_of_ne (Nat.ne_of_lt hn) ..
  unfold Host.openEditor
  simp only [hNew]
  refine ⟨sorted_insertSession hs.sorted, fun s hm => ?_, fun f hf => ?_, hs.runs, fun e he => ?_⟩
  · rcases (mem_insertSession hs.sorted).mp hm with rfl | ⟨hm, _⟩
    · exact ⟨Nat.lt_succ_self _, hSelf.symm, by simp⟩
    · obtain ⟨hlt, he, hNewest⟩ := hs.known s hm
      exact ⟨Nat.lt_succ_of_lt hlt, by rw [hOld hlt, he], hNewest⟩
  · obtain ⟨hr, hlt, he⟩ := hs.flight f hf
    exact ⟨hr, Nat.lt_succ_of_lt hlt, by rw [hOld hlt, he]⟩
  · rcases List.mem_append.mp he with he | he
    · rw [show e = _ by simpa using he]
      exact ⟨Nat.lt_succ_self _, hSelf.symm⟩
    · obtain ⟨hlt, he⟩ := hs.entry e he
      exact ⟨Nat.lt_succ_of_lt hlt, by rw [hOld hlt, he]⟩

/-- **Every act keeps a host sound.** -/
theorem act (hs : Sound owner h) {a : Act} (possible : a.Possible h) :
    ∃ owner', Sound owner' (h.act w a) := by
  cases a with
  | openEditor id snapshot => exact ⟨_, hs.openEditor possible snapshot⟩
  | edit id text cursor => exact ⟨owner, hs.edit id text cursor⟩
  | notify id => exact ⟨owner, hs.notify id⟩
  | begin id => exact ⟨owner, (hs.cancelTimer id).fire id⟩
  | elapse id => exact ⟨owner, hs.elapse id⟩
  | complete f => exact ⟨owner, hs.complete possible⟩
  | dispose id => exact ⟨owner, hs.dispose id⟩
  | evict id => exact ⟨owner, hs.evict id⟩
  | focus focused => exact ⟨owner, hs.aside h.now focused h.issued⟩
  | tick now => exact ⟨owner, hs.aside now h.focused h.issued⟩

end Sound

theorem Leads.sound {h' : Host} (hl : Leads w h h') (hs : ∃ owner, Sound owner h) :
    ∃ owner, Sound owner h' := by
  induction hl with
  | refl => exact hs
  | act _ a possible ih =>
    obtain ⟨owner, ih⟩ := ih
    exact ih.act possible

theorem Reachable.sound (hr : Reachable w h) : ∃ owner, Sound owner h :=
  Leads.sound hr ⟨fun _ => 0, Sound.initial⟩

end Soundness

end LiveLine.Host
