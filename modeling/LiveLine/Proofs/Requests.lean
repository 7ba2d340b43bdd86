import LiveLine.Proofs.Courses
import LiveLine.Proofs.Starts

/-!
# What the runner is asked

A run is made from what its editor shows at the moment in which a line is evaluated.  What an editor
shows can be told from the acts alone, and so can all requests to the runner: what was shown while
a timer was pending, and which editor has the focus, is of no concern.

* `Host.shows`: what an editor shows after the acts of a course.
* `Host.requested`: the requests that the evaluations of a course come to.
* `Host.Course.shows_eq`, `Host.Course.asked_eq`: sessions and journal agree with both.
* `Host.Sound.evaluated_rejected`, `Host.act_focused`: lines that are not evaluated, and the focus.
-/

namespace LiveLine

/-- A snapshot of which some fields are set anew. -/
def Snapshot.edited (s : Snapshot) (text : Option Text) (cursor : Option Nat) : Snapshot where
  document := (text.map Document.mk).getD s.document
  cursor := cursor.getD s.cursor

/-- The request for the cursor line, if that is evaluated. -/
def Snapshot.request? (w : Setup) (s : Snapshot) : Option Request :=
  if w.evaluates s.cursorText then some (.through s.document.text s.cursor) else none

namespace Host

/-- The requests to the runner, in order, with the editor of each. -/
def asked (h : Host) : List (EditorId × Request) :=
  h.journal.reverse.filterMap fun e => e.event.start?.map fun start => (e.editor, start.2)

/-- What an editor shows after an act, if it showed `old` before. -/
def Act.shows (id : EditorId) (old : Option Snapshot) : Act → Option Snapshot
  | openEditor other snapshot => if other = id then some snapshot else old
  | edit other text cursor => if other = id then old.map (·.edited text cursor) else old
  | _ => old

/-- What an editor shows after the acts of a course. -/
def shows (id : EditorId) : List Deed → Option Snapshot
  | [] => none
  | d :: c => d.act.shows id (shows id c)

/-- The editor whose cursor line is evaluated, because the timer of its session comes due or at
once; the session must not be disposed. -/
def Deed.fired? (d : Deed) : Option EditorId :=
  match d.act with
  | .begin id | .elapse id => if (d.host.session? id).any (!·.disposed) then some id else none
  | _ => none

/-- The request of an act, where editors show what `shown` says. -/
def Deed.request? (w : Setup) (d : Deed) (shown : EditorId → Option Snapshot) :
    Option (EditorId × Request) :=
  d.fired?.bind fun id => ((shown id).bind (·.request? w)).map (id, ·)

/-- The requests that the acts of a course come to, in order. -/
def requested (w : Setup) : List Deed → List (EditorId × Request)
  | [] => []
  | d :: c => requested w c ++ (d.request? w (shows · c)).toList

section

variable {owner : Nat → EditorId} {w : Setup} {h h' : Host} {s t : Session} {id : EditorId}
  {a : Act} {c : List Deed}

/-! ### What editors show -/

theorem Fire.snapshot {l l' : Life} (hFire : Fire w h h' s l l') (ht : l'.session = some t) :
    t.snapshot = s.snapshot := by
  cases hFire <;> · obtain rfl := Option.some.inj ht; rfl

theorem snapshot_complete {l : Life} {issued : Nat} {f : Flight}
    (ht : (l.complete w issued f).session = some t) :
    ∃ s, l.session = some s ∧ t.snapshot = s.snapshot := by
  unfold Life.complete at ht
  cases hs : l.session with
  | none =>
    rw [hs] at ht
    exact absurd (hs.symm.trans ht) (Option.some_ne_none t).symm
  | some s =>
    rw [hs] at ht
    dsimp only at ht
    split at ht
    · obtain rfl := Option.some.inj ht
      exact ⟨s, rfl, rfl⟩
    · obtain rfl := Option.some.inj (hs.symm.trans ht)
      exact ⟨s, rfl, rfl⟩

theorem Sound.snapshot_fired (hs : Sound owner h) (hf : h.session? id = some s)
    (ha : a = .begin id ∨ a = .elapse id) (ht : (h.act w a).session? id = some t) :
    t.snapshot = s.snapshot := by
  obtain ⟨pre, -, hAct⟩ := exists_act_eq_fire (w := w) hf ha
  rw [hAct] at ht
  obtain ⟨l', hFire, hPart⟩ := hs.part_fired (w := w) hf pre
  exact hFire.snapshot ((session?_of_part hPart).symm.trans ht)

/-- An act that is no edit leaves what an editor shows as it is. -/
theorem Sound.exists_snapshot_eq (hs : Sound owner h) (possible : a.Possible h)
    (hOpen : ∀ snapshot, a ≠ .openEditor id snapshot)
    (hEdit : ∀ text cursor, a ≠ .edit id text cursor)
    (ht : (h.act w a).session? id = some t) :
    ∃ s, h.session? id = some s ∧ t.snapshot = s.snapshot := by
  by_cases hid : a.editor? = some id
  swap
  · have hSame := congrArg Life.session (hs.part_act_of_ne (w := w) possible hid)
    exact ⟨t, hSame.symm.trans ht, rfl⟩
  cases a with
  | openEditor other snapshot =>
    obtain rfl := Option.some.inj hid
    exact absurd rfl (hOpen snapshot)
  | edit other text cursor =>
    obtain rfl := Option.some.inj hid
    exact absurd rfl (hEdit text cursor)
  | notify other =>
    obtain rfl := Option.some.inj hid
    cases hf : h.session? other with
    | none =>
      simp only [Host.act, Host.notify, hf] at ht
      exact absurd ht (Option.some_ne_none t).symm
    | some s =>
      cases hDisposed : s.disposed with
      | true =>
        have hSame : h.act w (.notify other) = h := by simp [Host.act, Host.notify, hf, hDisposed]
        rw [hSame] at ht
        obtain rfl := Option.some.inj (hf.symm.trans ht)
        exact ⟨s, rfl, rfl⟩
      | false =>
        have hSame := (session?_of_part (hs.part_notify hf hDisposed)).symm.trans ht
        obtain rfl := Option.some.inj hSame
        exact ⟨s, rfl, rfl⟩
  | begin other =>
    obtain rfl := Option.some.inj hid
    cases hf : h.session? other with
    | none =>
      simp only [Host.act, Host.begin, Host.cancelTimer, Host.fire, hf] at ht
      exact absurd ht (Option.some_ne_none t).symm
    | some s => exact ⟨s, rfl, hs.snapshot_fired hf (Or.inl rfl) ht⟩
  | elapse other =>
    obtain rfl := Option.some.inj hid
    obtain ⟨s, hf, -⟩ := possible
    exact ⟨s, hf, hs.snapshot_fired hf (Or.inr rfl) ht⟩
  | complete f =>
    obtain rfl := Option.some.inj hid
    exact snapshot_complete ((session?_of_part (hs.part_complete (w := w) possible)).symm.trans ht)
  | dispose other =>
    obtain rfl := Option.some.inj hid
    cases hf : h.session? other with
    | none =>
      simp only [Host.act, Host.dispose, hf] at ht
      exact absurd ht (Option.some_ne_none t).symm
    | some s =>
      have hSame := (session?_of_part (hs.part_dispose hf)).symm.trans ht
      obtain rfl := Option.some.inj hSame
      exact ⟨s, rfl, rfl⟩
  | evict other =>
    obtain rfl := Option.some.inj hid
    rw [show h.act w (.evict other) = h.evict other from rfl, session?_evict] at ht
    exact absurd ht (Option.some_ne_none t).symm
  | focus | tick => exact absurd hid (Option.some_ne_none id).symm

/-- An act sets what an editor shows as it says. -/
theorem Sound.shows_act (hs : Sound owner h) (possible : a.Possible h) {old : Option Snapshot}
    (hOld : ∀ s, h.session? id = some s → old = some s.snapshot)
    (ht : (h.act w a).session? id = some t) : a.shows id old = some t.snapshot := by
  by_cases hOpen : ∃ snapshot, a = .openEditor id snapshot
  · obtain ⟨snapshot, rfl⟩ := hOpen
    have hSession := session?_of_part (hs.part_openEditor (w := w) possible snapshot)
    obtain rfl := Option.some.inj (hSession.symm.trans ht)
    exact if_pos rfl
  by_cases hEdit : ∃ text cursor, a = .edit id text cursor
  · obtain ⟨text, cursor, rfl⟩ := hEdit
    cases hf : h.session? id with
    | none =>
      simp only [Host.act, Host.edit, hf] at ht
      exact absurd ht (Option.some_ne_none t).symm
    | some s =>
      have hSession := session?_of_part (hs.part_edit hf text cursor)
      obtain rfl := Option.some.inj (hSession.symm.trans ht)
      rw [Act.shows, if_pos rfl, hOld s hf]
      rfl
  · obtain ⟨s, hf, hSame⟩ := hs.exists_snapshot_eq possible (fun x hx => hOpen ⟨x, hx⟩)
      (fun x y hxy => hEdit ⟨x, y, hxy⟩) ht
    have hKept : a.shows id old = old := by
      cases a with
      | openEditor other snapshot => exact if_neg fun he => hOpen ⟨snapshot, by rw [he]⟩
      | edit other text cursor => exact if_neg fun he => hEdit ⟨text, cursor, by rw [he]⟩
      | _ => rfl
    rw [hKept, hOld s hf, hSame]

/-- **What an editor shows can be told from the acts.** -/
theorem Course.shows_eq (hc : Course w {} c h) (hf : h.session? id = some s) :
    shows id c = some s.snapshot := by
  induction hc generalizing s with
  | nil => exact absurd hf (by simp [session?])
  | cons prior a possible ih =>
    obtain ⟨owner, hs⟩ := Reachable.sound prior.leads
    exact hs.shows_act possible (fun s hf => ih hf) hf

/-! ### What starts -/

theorem Deed.exists_of_fired? {d : Deed} (hFired : d.fired? = some id) :
    ∃ s, d.host.session? id = some s ∧ s.disposed = false ∧
      (d.act = .begin id ∨ d.act = .elapse id) := by
  obtain ⟨h, a⟩ := d
  have hOpen : ∀ other : EditorId,
      (if (h.session? other).any (!·.disposed) then some other else none) = some id →
        other = id ∧ ∃ s, h.session? id = some s ∧ s.disposed = false := by
    intro other hSome
    split at hSome
    · rename_i hAny
      obtain rfl := Option.some.inj hSome
      simpa [Option.any_eq_true] using hAny
    · exact absurd hSome (Option.some_ne_none id).symm
  cases a with
  | begin other =>
    obtain ⟨rfl, s, hf, hDisposed⟩ := hOpen other hFired
    exact ⟨s, hf, hDisposed, Or.inl rfl⟩
  | elapse other =>
    obtain ⟨rfl, s, hf, hDisposed⟩ := hOpen other hFired
    exact ⟨s, hf, hDisposed, Or.inr rfl⟩
  | _ => exact absurd hFired (Option.some_ne_none id).symm

/-- The requests of one editor are added. -/
theorem asked_eq (hJournal : h.journal <:+ h'.journal) (id : EditorId)
    (more : List (RunNumber × Request))
    (hStarts : ∀ other, (h'.part other).starts =
      (h.part other).starts ++ if other = id then more else []) :
    h'.asked = h.asked ++ more.map fun start => (id, start.2) := by
  obtain ⟨new, hNew⟩ := hJournal
  have hMore : ∀ other, (((new.filter (·.editor = other)).map (·.event)).filterMap
      Happening.start?).reverse = if other = id then more else [] := by
    intro other
    have hBoth := hStarts other
    rw [Life.starts, Life.starts, part, part, ← hNew] at hBoth
    simp only [List.filter_append, List.map_append, List.filterMap_append,
      List.reverse_append] at hBoth
    exact List.append_cancel_left hBoth
  have hOwn : ∀ e ∈ new, e.editor ≠ id → e.event.start? = none := by
    intro e he hne
    have hNone := hMore e.editor
    rw [if_neg hne, List.reverse_eq_nil_iff, List.filterMap_eq_nil_iff] at hNone
    exact hNone e.event (List.mem_map_of_mem (List.mem_filter.mpr ⟨he, by simp⟩))
  have hOne : new.filterMap (fun e => e.event.start?.map fun start => (e.editor, start.2)) =
      (((new.filter (·.editor = id)).map (·.event)).filterMap Happening.start?).map
        fun start => (id, start.2) := by
    rw [List.filterMap_map, List.map_filterMap, List.filterMap_filter]
    refine List.filterMap_congr fun e he => ?_
    by_cases hid : e.editor = id
    · simp [hid]
    · simp [hid, hOwn e he hid]
  have hSelf := hMore id
  rw [if_pos rfl] at hSelf
  rw [asked, asked, ← hNew, List.reverse_append, List.filterMap_append, List.filterMap_reverse,
    List.filterMap_reverse, hOne, ← hSelf, List.map_reverse]

theorem Sound.starts_fire (hs : Sound owner h) (hf : h.session? id = some s)
    (ha : a = .begin id ∨ a = .elapse id) :
    ((h.act w a).part id).starts = (h.part id).starts ++
      if s.disposed = false ∧ w.evaluates s.snapshot.cursorText = true then
        [(h.started, s.request)] else [] := by
  obtain ⟨pre, hPre, hAct⟩ := exists_act_eq_fire (w := w) hf ha
  obtain ⟨l', hFire, hPart⟩ := hs.part_fired (w := w) hf pre
  rw [hAct, hPart, Function.update_self, hFire.starts, Life.starts_hold,
    Life.starts_record_of_quiet hPre]
  rfl

/-- An evaluation asks for what its session shows. -/
theorem Sound.asked_fire (hs : Sound owner h) (hf : h.session? id = some s)
    (ha : a = .begin id ∨ a = .elapse id) (possible : a.Possible h) :
    (h.act w a).asked = h.asked ++
      (Deed.request? w ⟨h, a⟩ fun other => (h.session? other).map (·.snapshot)).toList := by
  have hFired : Deed.fired? ⟨h, a⟩ = if s.disposed = false then some id else none := by
    rcases ha with rfl | rfl <;> simp [Deed.fired?, hf]
  have hEditor : a.editor? = some id := by rcases ha with rfl | rfl <;> rfl
  have hAsked := asked_eq (journal_act w h a) id
    (if s.disposed = false ∧ w.evaluates s.snapshot.cursorText = true then
      [(h.started, s.request)] else []) fun other => ?_
  · rw [hAsked, Deed.request?, hFired]
    cases s.disposed <;> cases hLine : w.evaluates s.snapshot.cursorText <;>
      simp [hf, Snapshot.request?, Session.request, hLine]
  · by_cases hOther : other = id
    · subst hOther
      rw [if_pos rfl, hs.starts_fire hf ha]
    · have hKept : (h.act w a).part other = h.part other := hs.part_act_of_ne possible
        fun he => hOther (Option.some.inj (he.symm.trans hEditor))
      rw [if_neg hOther, hKept, List.append_nil]

/-- **An act asks for what editors show in the state in which it happens.** -/
theorem Sound.asked_act (hs : Sound owner h) (possible : a.Possible h) :
    (h.act w a).asked = h.asked ++
      (Deed.request? w ⟨h, a⟩ fun other => (h.session? other).map (·.snapshot)).toList := by
  have hSilent : Deed.request? w ⟨h, a⟩ (fun other => (h.session? other).map (·.snapshot)) = none →
      (∀ other, ((h.act w a).part other).starts = (h.part other).starts) →
        (h.act w a).asked = h.asked ++ (Deed.request? w ⟨h, a⟩ fun other =>
          (h.session? other).map (·.snapshot)).toList := by
    intro hNone hStarts
    rw [hNone, asked_eq (journal_act w h a) 0 [] fun other => by
      rw [hStarts, ite_self, List.append_nil]]
    rfl
  by_cases ha : a.IsFire
  swap
  · refine hSilent ?_ fun other => hs.starts_act possible ha other
    cases a with
    | begin | elapse => exact absurd trivial ha
    | _ => rfl
  cases a with
  | begin id =>
    cases hf : h.session? id with
    | none =>
      refine hSilent (by simp [Deed.request?, Deed.fired?, hf]) fun other => ?_
      simp only [Host.act, Host.begin, Host.cancelTimer, Host.fire, hf]
    | some s => exact hs.asked_fire hf (Or.inl rfl) possible
  | elapse id =>
    obtain ⟨s, hf, hPending⟩ := possible
    exact hs.asked_fire hf (Or.inr rfl) ⟨s, hf, hPending⟩
  | _ => exact ha.elim

/-- **The requests of a host can be told from the acts.** -/
theorem Course.asked_eq (hc : Course w {} c h) : h.asked = requested w c := by
  induction hc with
  | nil => rfl
  | @cons c h prior a possible ih =>
    obtain ⟨owner, hs⟩ := Reachable.sound prior.leads
    have hShown : Deed.request? w ⟨h, a⟩ (fun other => (h.session? other).map (·.snapshot)) =
        Deed.request? w ⟨h, a⟩ (shows · c) := by
      rw [Deed.request?, Deed.request?]
      cases hFired : Deed.fired? ⟨h, a⟩ with
      | none => rfl
      | some id =>
        obtain ⟨s, hf, -⟩ := Deed.exists_of_fired? hFired
        have hf : h.session? id = some s := hf
        rw [Option.bind_some, Option.bind_some, prior.shows_eq hf, hf]
        rfl
    rw [hs.asked_act possible, ih, hShown]
    rfl

/-! ### What starts nothing -/

/-- An evaluation of a line that is not evaluated clears what the session shows. -/
theorem Sound.evaluated_rejected (hs : Sound owner h) (hf : h.session? id = some s)
    (hOpen : s.disposed = false) (hLine : w.evaluates s.snapshot.cursorText = false)
    (ha : a = .begin id ∨ a = .elapse id) :
    ((h.act w a).part id).starts = (h.part id).starts ∧
      ∃ t, (h.act w a).session? id = some t ∧ t.phase = .idle ∧ t.presenter = {} := by
  refine ⟨by rw [hs.starts_fire hf ha, if_neg (by simp [hLine]), List.append_nil], ?_⟩
  obtain ⟨pre, -, hAct⟩ := exists_act_eq_fire (w := w) hf ha
  obtain ⟨l', hFire, hPart⟩ := hs.part_fired (w := w) hf pre
  rw [hAct]
  cases hFire with
  | off hOff => exact absurd (hOpen.symm.trans hOff) Bool.false_ne_true
  | started _ hStarted => exact absurd (hLine.symm.trans hStarted) Bool.false_ne_true
  | rejected => exact ⟨_, session?_of_part hPart, rfl, rfl⟩

theorem fire_focused (w : Setup) (h : Host) (id : EditorId) (focused : Option EditorId) :
    fire w { h with focused } id = { h.fire w id with focused } := by
  have hFound : session? { h with focused } id = h.session? id := rfl
  have hNewest : ∀ s, newestFlight? { h with focused } s = h.newestFlight? s := fun _ => rfl
  unfold fire
  rw [hFound]
  cases h.session? id with
  | none => rfl
  | some s =>
    dsimp only [supersede]
    rw [hNewest]
    repeat' split
    all_goals rfl

/-- Which editor has the focus makes no difference to an evaluation. -/
theorem act_focused (ha : a = .begin id ∨ a = .elapse id) (focused : Option EditorId) :
    act w { h with focused } a = { h.act w a with focused } := by
  have hFound : session? { h with focused } id = h.session? id := rfl
  rcases ha with rfl | rfl
  · simp only [act, begin, cancelTimer, hFound]
    cases h.session? id with
    | none => exact fire_focused w h id focused
    | some s => exact fire_focused w ((h.log s _).put _) id focused
  · simp only [act, elapse, hFound]
    cases h.session? id with
    | none => rfl
    | some s => exact fire_focused w ((h.log s _).put _) id focused

end

end Host

end LiveLine
