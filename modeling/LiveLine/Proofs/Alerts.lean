import LiveLine.Proofs.Completions
import LiveLine.Proofs.Courses
import LiveLine.Proofs.Starts

/-!
# Alerts

The surface is alerted by completed runs that are heeded and that come to an error, by each of them
once, with the whole text of the error, and by nothing else.  Whether the annotation of the run is
shown makes no difference.

* `Host.alerts`: the alerts for an editor, in order.
* `Host.Act.alerted?`: the alert that comes of an act, read off the act and the state in which it
  happens.
* `Host.Reachable.alerts_act`: one act.
* `Host.Course.completions_nodup`: no run completes twice.
* `Host.Course.alerts_exact`: all acts of a course.
-/

namespace LiveLine

/-- The message of a call that alerts. -/
def SurfaceCall.alert? : SurfaceCall → Option Text
  | alert message => some message
  | apply .. | remove _ => none

/-- Calls that only draw. -/
def Drawing (calls : List SurfaceCall) : Prop := ∀ call ∈ calls, call.alert? = none

/-- Entries that tell of no alert. -/
def Muted (es : List Happening) : Prop := Drawing (es.filterMap Happening.call?)

namespace Drawing

theorem append {calls calls' : List SurfaceCall} (hc : Drawing calls) (hc' : Drawing calls') :
    Drawing (calls ++ calls') :=
  fun call hCall => (List.mem_append.mp hCall).elim (hc call) (hc' call)

theorem filterMap_eq_nil {calls : List SurfaceCall} (hc : Drawing calls) :
    calls.filterMap SurfaceCall.alert? = [] :=
  List.filterMap_eq_nil_iff.mpr hc

theorem removeCalls (s : Option Shown) : Drawing (Shown.removeCalls s) := by
  intro call hCall
  cases s with
  | none => exact absurd hCall List.not_mem_nil
  | some s =>
    obtain ⟨id, -, rfl⟩ := List.mem_map.mp hCall
    rfl

theorem clearCalls (p : Presenter) : Drawing p.clearCalls :=
  (removeCalls p.output).append (removeCalls p.error)

theorem applyCalls (ids : Nat → Decoration.Id) (issued : Nat) (ds : List Decoration) :
    Drawing (applyCalls ids issued ds) := by
  induction ds generalizing issued with
  | nil => exact fun call hCall => absurd hCall List.not_mem_nil
  | cons d ds ih =>
    intro call hCall
    rcases List.mem_cons.mp hCall with rfl | hCall
    · rfl
    · exact ih (issued + 1) call hCall

/-- A presenter never alerts. -/
theorem present (p : Presenter) (d : Document) (issued : Nat) (a : Annotation)
    (ids : Nat → Decoration.Id) : Drawing (p.present d issued a ids).calls := by
  unfold Presenter.present
  split
  · exact clearCalls p
  · dsimp only
    split
    · exact (removeCalls _).append (applyCalls ids issued _)
    · exact removeCalls _

end Drawing

namespace Muted

theorem append {es es' : List Happening} (hes : Muted es) (hes' : Muted es') :
    Muted (es ++ es') := by
  rw [Muted, List.filterMap_append]
  exact Drawing.append hes hes'

theorem of_no_call {es : List Happening} (hes : es.filterMap Happening.call? = []) :
    Muted es := by
  rw [Muted, hes]
  exact fun call hCall => absurd hCall List.not_mem_nil

theorem called {calls : List SurfaceCall} (hc : Drawing calls) : Muted (calls.map .called) := by
  rwa [Muted, filterMap_called]

theorem supersededBy (s : Session) : Muted (Host.supersededBy s) :=
  of_no_call (filterMap_supersededBy s)

end Muted

namespace Host

/-- The alerts among calls to the surface that are for an editor, in order. -/
def alertsFor (id : EditorId) (calls : List (EditorId × SurfaceCall)) : List Text :=
  calls.filterMap fun call => if call.1 = id then call.2.alert? else none

/-- The alerts for an editor, in order. -/
def alerts (h : Host) (id : EditorId) : List Text := alertsFor id h.calls

theorem alertsFor_append_map (id editor : EditorId) (calls : List (EditorId × SurfaceCall))
    (more : List SurfaceCall) :
    alertsFor id (calls ++ more.map (editor, ·)) =
      alertsFor id calls ++ if editor = id then more.filterMap SurfaceCall.alert? else [] := by
  rw [alertsFor, List.filterMap_append, List.filterMap_map, alertsFor]
  congr 1
  split
  · rename_i he
    exact List.filterMap_congr fun call _ => if_pos he
  · rename_i he
    exact List.filterMap_eq_nil_iff.mpr fun call _ => if_neg he

section

variable {owner : Nat → EditorId} {w : Setup} {h h' : Host} {s : Session} {f : Flight} {a : Act}
  {c : List Deed}

/-! ### What alerts nothing -/

theorem alerts_log {es : List Happening} (hes : Muted es) : (h.log s es).alerts = h.alerts := by
  funext id
  rw [alerts, calls_log, alertsFor_append_map, hes.filterMap_eq_nil, ite_self, List.append_nil,
    alerts]

theorem alerts_supersede (w : Setup) (h : Host) (s : Session) :
    (h.supersede w s).alerts = h.alerts := by
  unfold supersede
  split
  · split
    · exact alerts_log (.of_no_call rfl)
    · rfl
  · rfl

theorem alerts_fire (w : Setup) (h : Host) (id : EditorId) : (h.fire w id).alerts = h.alerts := by
  unfold fire
  split
  · rfl
  · rename_i s _
    split
    · rfl
    · dsimp only
      split
      · exact (alerts_log (.of_no_call rfl)).trans (alerts_supersede w h s)
      · have hRejected : Muted [.rejected s.snapshot.cursor] := .of_no_call rfl
        exact (alerts_log (hRejected.append (.called (.present _ _ _ _ _)))).trans
          (alerts_supersede w h s)

theorem alerts_release (h : Host) (s : Session) : (h.release s).alerts = h.alerts := by
  have hAborted : Muted ((h.newestFlight? s).map .aborted).toList := by
    cases h.newestFlight? s <;> exact .of_no_call rfl
  have hDisposed : Muted [.disposed] := .of_no_call rfl
  have hParting := alerts_log (h := h) (s := s) ((((Muted.supersededBy s).append hAborted).append
    (.called (.clearCalls s.presenter))).append hDisposed)
  unfold release
  dsimp only
  split <;> exact hParting

/-- **Only completions alert.** -/
theorem alerts_act (ha : ∀ f, a ≠ .complete f) : (h.act w a).alerts = h.alerts := by
  have hPut : ∀ (g : Host) (s : Session), (g.put s).alerts = g.alerts := fun _ _ => rfl
  cases a with
  | complete f => exact absurd rfl (ha f)
  | openEditor id snapshot =>
    refine (alerts_log (h := { Host.put _ _ with
      opened := h.opened + 1, focused := h.focused.or (some id) }) (.of_no_call rfl)).trans ?_
    dsimp only
    split
    · exact alerts_release h _
    · rfl
  | edit id text cursor =>
    simp only [act, edit]
    split
    · rfl
    · exact hPut h _
  | notify id =>
    simp only [act, notify]
    split
    · rfl
    · split
      · rfl
      · exact alerts_log ((Muted.supersededBy _).append (.of_no_call rfl))
  | begin id =>
    refine (alerts_fire w (h.cancelTimer id) id).trans ?_
    unfold cancelTimer
    split
    · rfl
    · exact alerts_log (.supersededBy _)
  | elapse id =>
    simp only [act, elapse]
    split
    · rfl
    · exact (alerts_fire w _ id).trans (alerts_log (.of_no_call rfl))
  | dispose id =>
    simp only [act, dispose]
    split
    · rfl
    · exact alerts_release h _
  | evict id =>
    simp only [act, evict]
    split
    · rfl
    · exact alerts_release h _
  | focus focused => rfl
  | tick now => rfl

/-! ### What alerts -/

theorem alert_verdict (w : Setup) (f : Flight) : (f.verdict w).alert = f.result.errorText? := by
  rw [Flight.verdict, Verdict.ofResult]
  cases f.result.errorText? <;> rfl

theorem kind_verdict_eq_error (w : Setup) (f : Flight) :
    (f.verdict w).note.kind = .error ↔ f.result.errorText?.isSome = true := by
  rw [Flight.verdict, Verdict.ofResult]
  cases f.result.errorText? <;> simp

/-- The alert for an editor that comes of an act: the whole error of a run that completes and is
heeded. -/
def Act.alerted? (w : Setup) (id : EditorId) (h : Host) : Act → Option Text
  | complete f =>
    if f.editor = id ∧ (f.verdict w).note.kind = .error ∧ h.Heeds w f then f.result.errorText?
    else none
  | _ => none

/-- A completion draws first and alerts at its end, if it alerts. -/
theorem Reachable.exists_calls_complete (hr : Reachable w h) (hf : f ∈ h.flights) :
    ∃ drawn, Drawing drawn ∧ (h.complete w f).calls = h.calls ++
      (drawn ++ ((Act.complete f).alerted? w f.editor h).toList.map SurfaceCall.alert).map
        (f.editor, ·) := by
  obtain ⟨owner, hs⟩ := hr.sound
  by_cases hHeeds : h.Heeds w f
  · obtain ⟨s, hSome, hAttends⟩ := (hr.exists_attends_iff hf).mpr hHeeds
    have hAlert : ((f.verdict w).alert.map SurfaceCall.alert).toList =
        ((Act.complete f).alerted? w f.editor h).toList.map SurfaceCall.alert := by
      have hKind := kind_verdict_eq_error w f
      cases hError : f.result.errorText? with
      | none => simp [alert_verdict, Act.alerted?, hError]
      | some message =>
        rw [hError] at hKind
        simp [alert_verdict, Act.alerted?, hError, hKind.mpr rfl, hHeeds]
    refine ⟨(s.presentation w h.issued f).calls, .present _ _ _ _ _, ?_⟩
    rw [hs.calls_complete hf hSome hAttends, hAlert]
  · have hIgnored : ¬ ∃ s, h.numbered? f.session = some s ∧ s.attends w f :=
      mt (hr.exists_attends_iff hf).mp hHeeds
    refine ⟨[], fun call hCall => absurd hCall List.not_mem_nil, ?_⟩
    simp [hs.complete_of_ignored hIgnored, Act.alerted?, hHeeds]

/-- **What one act alerts.** -/
theorem Reachable.alerts_act (hr : Reachable w h) (possible : a.Possible h) (id : EditorId) :
    (h.act w a).alerts id = h.alerts id ++ (a.alerted? w id h).toList := by
  by_cases hComplete : ∃ f, a = .complete f
  · obtain ⟨f, rfl⟩ := hComplete
    obtain ⟨drawn, hDrawing, hCalls⟩ := hr.exists_calls_complete (w := w) possible
    have hMessages : ∀ alerted : List Text,
        (drawn ++ alerted.map SurfaceCall.alert).filterMap SurfaceCall.alert? = alerted := by
      intro alerted
      rw [List.filterMap_append, hDrawing.filterMap_eq_nil, List.filterMap_map]
      exact List.filterMap_some
    rw [alerts, show h.act w (.complete f) = h.complete w f from rfl, hCalls,
      alertsFor_append_map, hMessages, alerts]
    by_cases he : f.editor = id
    · rw [if_pos he, he]
    · simp [he, Act.alerted?]
  · have hNone : a.alerted? w id h = none := by
      cases a with
      | complete f => exact absurd ⟨f, rfl⟩ hComplete
      | _ => rfl
    rw [Host.alerts_act fun f hf => hComplete ⟨f, hf⟩, hNone]
    exact (List.append_nil _).symm

/-! ### No run completes twice -/

/-- The run that an act completes. -/
def Act.completed? : Act → Option RunNumber
  | complete f => some f.run
  | _ => none

/-- The runs that completed in a course, the last one first. -/
def completions (c : List Deed) : List RunNumber := c.filterMap fun d => d.act.completed?

/-- A run is over: its number has been given, and it is not in flight. -/
def IsOver (h : Host) (run : RunNumber) : Prop :=
  run < h.started ∧ ∀ f ∈ h.flights, f.run ≠ run

theorem started_le_act (w : Setup) (h : Host) (a : Act) : h.started ≤ (h.act w a).started := by
  have hFire : ∀ (g : Host) id, g.started ≤ (g.fire w id).started := by
    intro g id
    cases hf : g.session? id with
    | none => simp [fire, hf]
    | some s =>
      rw [started_fire hf]
      exact Nat.le_add_right ..
  by_cases ha : a.IsFire
  swap
  · exact Nat.le_of_eq (started_act ha).symm
  cases a with
  | begin id =>
    refine Nat.le_trans (Nat.le_of_eq ?_) (hFire (h.cancelTimer id) id)
    unfold cancelTimer
    split <;> rfl
  | elapse id =>
    simp only [act, elapse]
    split
    · exact Nat.le_refl _
    · rename_i s _
      exact hFire ((h.log s [.fired]).put { s with timer := s.timer.cancel }) id
  | _ => exact ha.elim

/-- Once a run is over, it stays over. -/
theorem IsOver.act {run : RunNumber} (ho : h.IsOver run) (hs : Sound owner h)
    (possible : a.Possible h) : (h.act w a).IsOver run := by
  refine ⟨Nat.lt_of_lt_of_le ho.1 (started_le_act w h a), fun f hf => ?_⟩
  rcases hs.mem_flights_act possible hf with hf | hNew
  · exact ho.2 f hf
  · exact hNew ▸ Nat.ne_of_gt ho.1

theorem Sound.isOver_complete (hs : Sound owner h) (hf : f ∈ h.flights) :
    (h.act w (.complete f)).IsOver f.run := by
  refine ⟨Nat.lt_of_lt_of_le (hs.flight f hf).1 (started_le_act w h _), fun g hg => ?_⟩
  rw [show h.act w (.complete f) = h.complete w f from rfl, flights_complete] at hg
  simpa using (List.mem_filter.mp hg).2

/-- No run completes twice. -/
theorem Course.completions_nodup (hs : ∃ owner, Sound owner h) (hc : Course w h c h') :
    (completions c).Nodup ∧ ∀ run ∈ completions c, h'.IsOver run := by
  induction hc with
  | nil => exact ⟨List.nodup_nil, fun run hRun => absurd hRun List.not_mem_nil⟩
  | @cons c h' prior a possible ih =>
    obtain ⟨hNodup, hOver⟩ := ih
    obtain ⟨owner', hs'⟩ := prior.leads.sound hs
    cases hRun : a.completed? with
    | none =>
      rw [completions, List.filterMap_cons_none (a := (⟨h', a⟩ : Deed)) hRun]
      exact ⟨hNodup, fun run hRun => (hOver run hRun).act hs' possible⟩
    | some run =>
      obtain ⟨f, rfl, rfl⟩ : ∃ f, a = .complete f ∧ f.run = run := by
        cases a with
        | complete f => exact ⟨f, rfl, Option.some.inj hRun⟩
        | _ => exact absurd hRun (Option.some_ne_none _).symm
      have hNew : f.run ∉ completions c := fun hMem => (hOver _ hMem).2 f possible rfl
      rw [completions, List.filterMap_cons_some (a := (⟨h', .complete f⟩ : Deed)) hRun]
      refine ⟨List.nodup_cons.mpr ⟨hNew, hNodup⟩, fun run hMem => ?_⟩
      rcases List.mem_cons.mp hMem with rfl | hMem
      · exact hs'.isOver_complete possible
      · exact (hOver run hMem).act hs' possible

theorem Course.alerts_eq (hc : Course w {} c h) (id : EditorId) :
    h.alerts id = c.reverse.filterMap fun d => d.act.alerted? w id d.host := by
  induction hc with
  | nil => rfl
  | cons prior a possible ih =>
    rw [Reachable.alerts_act prior.leads possible, ih, List.reverse_cons, List.filterMap_append]
    congr 1

/-- **No error is lost or repeated.**  The alerts for an editor are, in order of completion, the
whole errors of those runs of its sessions that came to an error, completed before their session
had its end and, under the cancel policy, were not superseded.  No run completes twice, and what is
judged an error has a text.  A completion alerts once at most, after all that it draws. -/
theorem Course.alerts_exact (hc : Course w {} c h) (id : EditorId) :
    h.alerts id = (c.reverse.filterMap fun d => d.act.alerted? w id d.host) ∧
    (completions c).Nodup ∧
    (∀ f : Flight, (f.verdict w).note.kind = .error ↔ f.result.errorText?.isSome = true) ∧
    ∀ f ∈ h.flights, ∃ drawn, Drawing drawn ∧ (h.complete w f).calls = h.calls ++
      (drawn ++ ((Act.complete f).alerted? w f.editor h).toList.map SurfaceCall.alert).map
        (f.editor, ·) :=
  ⟨hc.alerts_eq id, (hc.completions_nodup ⟨fun _ => 0, Sound.initial⟩).1, kind_verdict_eq_error w,
    fun _ hf => Reachable.exists_calls_complete hc.leads hf⟩

/-- Runs take a second and fail on a line that no document here has. -/
def failing : Setup :=
  { sample fun _ => 1000 with
    plan := fun _ _ => { latency := 1000, result := { failure := some "line 9\n ".toList } } }

/-- Two overlapping runs have failed, and neither annotation is shown. -/
def failed : Host :=
  run failing {} [.openEditor 1 ⟨⟨"print(1)\n".toList⟩, 0⟩, .notify 1, .advance 10, .notify 1,
    .advance 10, .advance 1000]

theorem alerts_exact_failed :
    ∃ c, Course failing {} c failed ∧
      (c.reverse.filterMap fun d => d.act.alerted? failing 1 d.host) =
        ["line 9\n ".toList, "line 9\n ".toList] ∧
      (∀ s ∈ failed.sessions, s.presenter.decorations = []) ∧
      (completions c).Nodup := by
  obtain ⟨c, hc⟩ := Leads.exists_course (Reachable.run (w := failing) _)
  obtain ⟨hAlerts, hOnce, -, -⟩ := Course.alerts_exact hc 1
  exact ⟨c, hc, hAlerts.symm.trans (by decide), by decide, hOnce⟩

end

end Host

end LiveLine
