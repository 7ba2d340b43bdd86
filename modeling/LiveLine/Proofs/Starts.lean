import LiveLine.Proofs.Histories
import LiveLine.Proofs.Parts

/-!
# The runs that an editor has started

The runs of an editor are counted in the order in which they start, whatever their numbers are among
the runs of all editors.

* `Leads.journal`: what happened is never forgotten.
* `Life.starts`: the runs that were started, with their requests, in order.
* `Fire.starts`: an evaluation adds one run at most.
* `Sound.starts_act`: no other act adds any.
* `Host.Gets`: the runs of an editor come out as planned for the editor alone.
-/

namespace LiveLine

/-- The run that an entry says was started, and its request. -/
def Happening.start? : Happening → Option (RunNumber × Request)
  | started run request => some (run, request)
  | _ => none

theorem Happening.reading_start? : Happening.Reading start? := by
  intro e he
  cases e <;> simp_all [isTelling, start?]

namespace Life

variable {w : Setup} {l : Life} {s : Session} {f : Flight}

/-- The runs that were started, with their requests, in order. -/
def starts (l : Life) : List (RunNumber × Request) :=
  (l.history.filterMap Happening.start?).reverse

theorem starts_record (l : Life) (es : List Happening) :
    (l.record es).starts = l.starts ++ es.filterMap Happening.start? := by
  rw [starts, history_record, List.filterMap_append, List.filterMap_reverse, List.reverse_append,
    List.reverse_reverse, starts]

theorem filterMap_start?_of_quiet {es : List Happening} (hes : Happening.Quiet es) :
    es.filterMap Happening.start? = [] :=
  List.filterMap_eq_nil_iff.mpr fun e he => Happening.reading_start? e (hes e he)

theorem starts_record_of_quiet {es : List Happening} (hes : Happening.Quiet es) :
    (l.record es).starts = l.starts := by
  rw [starts_record, filterMap_start?_of_quiet hes, List.append_nil]

@[simp] theorem starts_hold (l : Life) (s : Session) : (l.hold s).starts = l.starts := rfl
@[simp] theorem starts_leave (l : Life) : l.leave.starts = l.starts := rfl
@[simp] theorem starts_land (l : Life) (run : RunNumber) : (l.land run).starts = l.starts := rfl
@[simp] theorem starts_launch (l : Life) (f : Flight) : (l.launch f).starts = l.starts := rfl

@[simp] theorem starts_supersede (l : Life) (s : Session) :
    (l.supersede w s).starts = l.starts := by
  unfold supersede
  split
  · split
    · exact starts_record_of_quiet (.singleton rfl)
    · rfl
  · rfl

@[simp] theorem starts_release (l : Life) (s : Session) : (l.release s).starts = l.starts := by
  rw [starts, history_release, ← history_record, ← starts,
    starts_record_of_quiet (Happening.quiet_parting s _)]

theorem starts_complete (issued : Nat) (l : Life) (f : Flight) :
    (l.complete w issued f).starts = l.starts := by
  have hLanded : ((l.land f.run).record [.finished f.run f.result]).starts = l.starts := by
    rw [starts_record]
    exact List.append_nil _
  unfold complete
  dsimp only
  split
  · exact hLanded
  · split
    · obtain ⟨es, hes, hEq⟩ := Session.exists_hearing_eq w issued ‹Session› f
      rw [starts_hold, starts_record, hLanded, hEq, List.filterMap_append,
        filterMap_start?_of_quiet hes]
      exact List.append_nil _
    · exact hLanded

end Life

namespace Host

variable {owner : Nat → EditorId} {w : Setup} {h h' : Host} {s : Session} {id : EditorId}

/-! ### The journal grows -/

theorem journal_log (h : Host) (s : Session) (es : List Happening) :
    h.journal <:+ (h.log s es).journal := List.suffix_append ..

theorem journal_supersede (w : Setup) (h : Host) (s : Session) :
    h.journal <:+ (h.supersede w s).journal := by
  unfold supersede
  split
  · split
    · exact journal_log ..
    · exact List.suffix_rfl
  · exact List.suffix_rfl

theorem journal_release (h : Host) (s : Session) : h.journal <:+ (h.release s).journal := by
  unfold release
  dsimp only
  split <;> exact journal_log h s _

theorem journal_fire (w : Setup) (h : Host) (id : EditorId) :
    h.journal <:+ (h.fire w id).journal := by
  unfold fire
  split
  · exact List.suffix_rfl
  · split
    · exact List.suffix_rfl
    · dsimp only
      split <;> exact (journal_supersede w h _).trans (journal_log ..)

theorem journal_complete (w : Setup) (h : Host) (f : Flight) :
    h.journal <:+ (h.complete w f).journal := by
  have hFinished : h.journal <:+ ⟨f.session, f.editor, .finished f.run f.result⟩ :: h.journal :=
    List.suffix_cons ..
  unfold complete
  dsimp only
  split
  · exact hFinished
  · split
    · exact hFinished
    · exact hFinished.trans (List.suffix_append ..)

theorem journal_evict (h : Host) (id : EditorId) : h.journal <:+ (h.evict id).journal := by
  unfold evict
  split
  · exact List.suffix_rfl
  · exact journal_release ..

/-- **What happened is never forgotten.** -/
theorem journal_act (w : Setup) (h : Host) (a : Act) : h.journal <:+ (h.act w a).journal := by
  cases a with
  | openEditor id snapshot =>
    show h.journal <:+ (h.openEditor w id snapshot).journal
    unfold Host.openEditor
    dsimp only
    split
    · exact (journal_release ..).trans (journal_log ..)
    · exact journal_log ..
  | edit id text cursor =>
    show h.journal <:+ (h.edit id text cursor).journal
    unfold Host.edit
    split <;> exact List.suffix_rfl
  | notify id =>
    show h.journal <:+ (h.notify id).journal
    unfold Host.notify
    split
    · exact List.suffix_rfl
    · split
      · exact List.suffix_rfl
      · exact journal_log ..
  | begin id =>
    refine List.IsSuffix.trans ?_ (journal_fire w (h.cancelTimer id) id)
    unfold cancelTimer
    split
    · exact List.suffix_rfl
    · exact journal_log ..
  | elapse id =>
    show h.journal <:+ (h.elapse w id).journal
    unfold Host.elapse
    split
    · exact List.suffix_rfl
    · rename_i s _
      exact (journal_log h s [.fired]).trans
        (journal_fire w ((h.log s [.fired]).put { s with timer := s.timer.cancel }) id)
  | complete f => exact journal_complete w h f
  | dispose id =>
    show h.journal <:+ (h.dispose id).journal
    unfold Host.dispose
    split
    · exact List.suffix_rfl
    · exact journal_release ..
  | evict id => exact journal_evict h id
  | focus focused => exact List.suffix_rfl
  | tick now => exact List.suffix_rfl

theorem Leads.journal (hl : Leads w h h') : h.journal <:+ h'.journal := by
  induction hl with
  | refl => exact List.suffix_rfl
  | act _ a _ ih => exact ih.trans (journal_act w _ a)

theorem Leads.starts (hl : Leads w h h') (id : EditorId) :
    (h.part id).starts <+: (h'.part id).starts := by
  have hHistory : (h.part id).history <:+ (h'.part id).history := (hl.journal.filter _).map _
  exact List.reverse_prefix.mpr (hHistory.filterMap _)

/-! ### What starts runs -/

/-- An evaluation that looks at a line starts a run, and any other does not. -/
theorem Fire.starts {l l' : Life} (hFire : Fire w h h' s l l') :
    l'.starts = l.starts ++
      if s.disposed = false ∧ w.evaluates s.snapshot.cursorText = true then
        [(h.started, s.request)] else [] := by
  cases hFire with
  | off hDisposed => simp [hDisposed]
  | started hDisposed hLine => simp [hDisposed, hLine, Life.starts_record, Happening.start?]
  | rejected hDisposed hLine =>
    rw [if_neg (by simp [hLine]), Life.starts_hold, ← List.singleton_append, Life.starts_record,
      Life.starts_supersede, List.filterMap_append,
      Life.filterMap_start?_of_quiet (Happening.quiet_called _)]
    rfl

/-- How an evaluation counts. -/
theorem started_fire (hf : h.session? id = some s) :
    (h.fire w id).started = h.started +
      if s.disposed = false ∧ w.evaluates s.snapshot.cursorText = true then 1 else 0 := by
  obtain ⟨flights, journal, hSupersede⟩ := exists_supersede_eq w h s
  cases hDisposed : s.disposed with
  | true => simp [fire, hf, hDisposed]
  | false =>
    cases hLine : w.evaluates s.snapshot.cursorText with
    | true => simp [fire, hf, hDisposed, hLine, hSupersede, start, put, log]
    | false => simp [fire, hf, hDisposed, hLine, hSupersede, reject, put, log]

/-- A line is evaluated after its timer has come due or given way. -/
theorem exists_act_eq_fire {a : Act} (hf : h.session? id = some s)
    (ha : a = .begin id ∨ a = .elapse id) :
    ∃ pre, Happening.Quiet pre ∧
      h.act w a = ((h.log s pre).put { s with timer := s.timer.cancel }).fire w id := by
  rcases ha with rfl | rfl
  · exact ⟨_, Happening.quiet_supersededBy s, act_begin hf⟩
  · exact ⟨_, .singleton rfl, act_elapse hf⟩

/-- How many runs were started is how many the editor has started. -/
def Counts (h : Host) (id : EditorId) : Prop := h.started = (h.part id).starts.length

theorem Sound.counts_fired (hs : Sound owner h) (hc : h.Counts id) (hf : h.session? id = some s)
    {pre : List Happening} (hPre : Happening.Quiet pre) :
    (((h.log s pre).put { s with timer := s.timer.cancel }).fire w id).Counts id := by
  obtain ⟨l', hFire, hPart⟩ := hs.part_fired (w := w) hf pre
  have hf' := session?_cancelled hs.sorted hf pre
  rw [Counts, hPart, Function.update_self, hFire.starts, Life.starts_hold,
    Life.starts_record_of_quiet hPre, started_fire hf', List.length_append]
  have hSame : ((h.log s pre).put { s with timer := s.timer.cancel }).started = h.started := rfl
  rw [hSame, hc]
  congr 1
  split <;> rfl

/-! ### What starts none -/

/-- Whether an act evaluates a line. -/
def Act.IsFire : Act → Prop
  | begin _ | elapse _ => True
  | _ => False

theorem started_act {a : Act} (ha : ¬ a.IsFire) : (h.act w a).started = h.started := by
  have hRelease : ∀ s, (h.release s).started = h.started := by
    intro s
    obtain ⟨flights, journal, hRelease⟩ := exists_release_eq h s
    rw [hRelease]
  cases a with
  | begin | elapse => exact absurd trivial ha
  | openEditor id snapshot =>
    simp only [act, openEditor]
    split
    · exact hRelease _
    · rfl
  | edit id text cursor =>
    simp only [act, edit]
    split <;> rfl
  | notify id =>
    simp only [act, notify]
    split
    · rfl
    · split <;> rfl
  | complete f =>
    simp only [act, complete]
    split
    · rfl
    · split <;> rfl
  | dispose id =>
    simp only [act, dispose]
    split
    · rfl
    · exact hRelease _
  | evict id =>
    simp only [act, evict]
    split
    · rfl
    · exact hRelease _
  | focus focused => rfl
  | tick now => rfl

/-- **Acts that evaluate no line start no run.** -/
theorem Sound.starts_act (hs : Sound owner h) {a : Act} (possible : a.Possible h)
    (ha : ¬ a.IsFire) (id : EditorId) : ((h.act w a).part id).starts = (h.part id).starts := by
  have hUpdate : ∀ {g : Host} {other : EditorId} {l : Life},
      g.part = Function.update h.part other l → l.starts = (h.part other).starts →
        (g.part id).starts = (h.part id).starts := by
    intro g other l hPart hStarts
    rw [hPart]
    by_cases he : id = other
    · rw [he, Function.update_self, hStarts]
    · rw [Function.update_of_ne he]
  cases a with
  | begin | elapse => exact absurd trivial ha
  | openEditor other snapshot =>
    exact hUpdate (hs.part_openEditor possible snapshot)
      (Life.starts_record_of_quiet (.singleton rfl))
  | edit other text cursor =>
    cases hf : h.session? other with
    | none => simp only [Host.act, Host.edit, hf]
    | some s => exact hUpdate (hs.part_edit hf text cursor) (Life.starts_hold ..)
  | notify other =>
    cases hf : h.session? other with
    | none => simp only [Host.act, Host.notify, hf]
    | some s =>
      cases hDisposed : s.disposed with
      | true => simp [Host.act, Host.notify, hf, hDisposed]
      | false =>
        exact hUpdate (hs.part_notify hf hDisposed)
          (Life.starts_record_of_quiet (Happening.quiet_scheduled s))
  | complete f => exact hUpdate (hs.part_complete possible) (Life.starts_complete ..)
  | dispose other =>
    cases hf : h.session? other with
    | none => simp only [Host.act, Host.dispose, hf]
    | some s => exact hUpdate (hs.part_dispose hf) (Life.starts_release ..)
  | evict other =>
    cases hf : h.session? other with
    | none => simp only [Host.act, Host.evict, hf]
    | some s => exact hUpdate (hs.part_evict hf) (Life.starts_release ..)
  | focus focused => rfl
  | tick now => rfl

/-- **Acts about one editor start runs of that editor only.** -/
theorem Sound.counts_act (hs : Sound owner h) (hc : h.Counts id) {a : Act}
    (possible : a.Possible h) (ha : a.editor? = some id ∨ a.editor? = none) :
    (h.act w a).Counts id := by
  have hSame : ∀ {other : EditorId}, some other = some id ∨ some other = none → other = id :=
    fun he => he.elim Option.some.inj fun h => absurd h (Option.some_ne_none _)
  have hOther : ¬ a.IsFire → (h.act w a).Counts id := by
    intro hNoFire
    rw [Counts, started_act hNoFire, hs.starts_act possible hNoFire]
    exact hc
  cases a with
  | begin other =>
    obtain rfl := hSame ha
    cases hf : h.session? other with
    | none => simpa only [Host.act, Host.begin, Host.cancelTimer, Host.fire, hf] using hc
    | some s =>
      rw [act_begin hf]
      exact hs.counts_fired hc hf (Happening.quiet_supersededBy s)
  | elapse other =>
    obtain rfl := hSame ha
    obtain ⟨s, hf, -⟩ := possible
    rw [act_elapse hf]
    exact hs.counts_fired hc hf (.singleton rfl)
  | _ => exact hOther not_false

/-! ### Runs that come out as planned for one editor -/

/-- Every run of an editor does what is planned for it by its place among the editor's runs. -/
def Gets (w : Setup) (id : EditorId) (plan : Nat → RunPlan) (h : Host) : Prop :=
  ∀ k run request, (h.part id).starts[k]? = some (run, request) → w.plan run request = plan k

theorem Gets.anti {plan : Nat → RunPlan} (hg : Gets w id plan h') (hl : Leads w h h') :
    Gets w id plan h := by
  intro k run request hk
  obtain ⟨hlt, -⟩ := List.getElem?_eq_some_iff.mp hk
  obtain ⟨more, hMore⟩ := hl.starts id
  refine hg k run request ?_
  rw [← hMore, List.getElem?_append_left hlt, hk]

/-- What the next run of the editor does, once it has started. -/
theorem Gets.plan_eq {plan : Nat → RunPlan} {l l' : Life} {g : Host} (hg : Gets w id plan h')
    (hPart : h'.part id = l') (hFire : Fire w h g s l l') (hDisposed : s.disposed = false)
    (hLine : w.evaluates s.snapshot.cursorText = true) :
    w.plan h.started s.request = plan l.starts.length := by
  refine hg _ _ _ ?_
  rw [hPart, hFire.starts, if_pos ⟨hDisposed, hLine⟩, List.getElem?_concat_length]

end Host

end LiveLine
