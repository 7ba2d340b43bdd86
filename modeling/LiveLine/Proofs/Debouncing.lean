import LiveLine.Debouncer.Timeline

/-!
# What fires

What becomes of a label can be read off the steps alone: it fires if the end of its delay comes
before the next step that is not the passing of time.  This file reads the schedulings off a list of
steps, and shows that a timeline does what they say.

* `Step.schedulings`: what is scheduled, and when the next call is made.
* `Timeline.firings_run`, `Timeline.waiting_run`: what has fired, and what is pending.
* `Timeline.Balanced.run`: how often labels are scheduled, superseded, fired and dropped.
* `Timeline.trace_law`: all of it, for every list of steps.
-/

namespace LiveLine.Debouncer

variable {α : Type}

/-- A label that was scheduled at some time under some delay. -/
structure Scheduling (α : Type) where
  label : α
  time : Nat
  delay : Nat
  /-- When the next call was made, or else the time that was reached. -/
  reached : Nat
  /-- Whether a further call was made. -/
  isEnded : Bool
  deriving DecidableEq, Repr

namespace Scheduling

def due (s : Scheduling α) : Nat := s.time + s.delay

/-- The label and its due time, if time reaches that before another call is made. -/
def firing? (s : Scheduling α) : Option (α × Nat) :=
  if s.due ≤ s.reached then some (s.label, s.due) else none

/-- The timer, if it has neither fired nor given way to a call. -/
def timer? (s : Scheduling α) : Option (Nat × α) :=
  if s.reached < s.due ∧ s.isEnded = false then some (s.due, s.label) else none

theorem isSome_timer? {s : Scheduling α} :
    s.timer?.isSome = true ↔ s.reached < s.due ∧ s.isEnded = false := by
  unfold timer?
  split <;> simp_all

end Scheduling

namespace Mark

def firing? : Mark α → Option (α × Nat)
  | fired label time => some (label, time)
  | scheduled _ | superseded | dropped => none

def isScheduled : Mark α → Bool
  | scheduled _ => true
  | superseded | fired .. | dropped => false

def isSuperseded : Mark α → Bool
  | superseded => true
  | scheduled _ | fired .. | dropped => false

def isFired : Mark α → Bool
  | fired .. => true
  | scheduled _ | superseded | dropped => false

def isDropped : Mark α → Bool
  | dropped => true
  | scheduled _ | superseded | fired .. => false

end Mark

namespace Step

def schedules : Step α → Bool
  | schedule _ => true
  | cancel | advance _ | replace _ => false

/-- Whether a step makes a pending timer give way. -/
def supersedes : Step α → Bool
  | schedule _ | cancel => true
  | advance _ | replace _ => false

/-- Whether a step drops the debouncer. -/
def replaces : Step α → Bool
  | replace _ => true
  | schedule _ | cancel | advance _ => false

/-- Whether a step is a call, which ends what is pending, and not the passing of time. -/
def isCall : Step α → Bool
  | advance _ => false
  | schedule _ | cancel | replace _ => true

/-- When the next call is made, or else the time that is reached. -/
def nextCall (now : Nat) : List (Step α) → Nat
  | advance time :: steps => nextCall (now + time) steps
  | _ => now

/-- What is scheduled by steps that begin at a time under a delay, in order. -/
def schedulings (now delay : Nat) : List (Step α) → List (Scheduling α)
  | [] => []
  | schedule label :: steps =>
    ⟨label, now, delay, nextCall now steps, steps.any isCall⟩ :: schedulings now delay steps
  | cancel :: steps => schedulings now delay steps
  | advance time :: steps => schedulings (now + time) delay steps
  | replace delay :: steps => schedulings now delay steps

theorem le_nextCall (now : Nat) (steps : List (Step α)) : now ≤ nextCall now steps := by
  induction steps generalizing now with
  | nil => exact Nat.le_refl now
  | cons step steps ih =>
    cases step with
    | advance time => exact Nat.le_trans (Nat.le_add_right now time) (ih (now + time))
    | schedule label => exact Nat.le_refl now
    | cancel => exact Nat.le_refl now
    | replace delay => exact Nat.le_refl now

theorem any_isCall_of_schedulings {now delay : Nat} {steps : List (Step α)}
    (hSome : schedulings now delay steps ≠ []) : steps.any isCall = true := by
  induction steps generalizing now with
  | nil => exact absurd rfl hSome
  | cons step steps ih =>
    cases step with
    | advance time => exact ih hSome
    | schedule label => rfl
    | cancel => rfl
    | replace delay => rfl

/-- All but the last scheduling give way to the next one. -/
theorem isEnded_of_mem_dropLast {now delay : Nat} {steps : List (Step α)} {s : Scheduling α}
    (hs : s ∈ (schedulings now delay steps).dropLast) : s.isEnded = true := by
  induction steps generalizing now delay with
  | nil => simp [schedulings] at hs
  | cons step steps ih =>
    cases step with
    | schedule label =>
      rw [schedulings] at hs
      by_cases hRest : schedulings now delay steps = []
      · simp [hRest] at hs
      · rw [List.dropLast_cons_of_ne_nil hRest] at hs
        rcases List.mem_cons.mp hs with rfl | hs
        · exact any_isCall_of_schedulings hRest
        · exact ih hs
    | advance time => exact ih hs
    | cancel => exact ih hs
    | replace delay => exact ih hs

/-- Only the last scheduling can be waiting. -/
theorem filterMap_timer? (now delay : Nat) (steps : List (Step α)) :
    (schedulings now delay steps).filterMap Scheduling.timer? =
      ((schedulings now delay steps).getLast?.bind Scheduling.timer?).toList := by
  have hNone : (schedulings now delay steps).dropLast.filterMap Scheduling.timer? = [] :=
    List.filterMap_eq_nil_iff.mpr fun s hs => by
      simp [Scheduling.timer?, isEnded_of_mem_dropLast hs]
  rcases List.eq_nil_or_concat (schedulings now delay steps) with hNil | ⟨ss, s, hLast⟩
  · rw [hNil]
    rfl
  · rw [hLast, List.concat_eq_append, List.dropLast_concat] at hNone
    rw [hLast, List.concat_eq_append, List.filterMap_append, hNone, List.getLast?_concat]
    cases s.timer? <;> rfl

end Step

open Step

namespace Timeline

variable {t : Timeline α}

/-- What has fired, in order, with the times. -/
def firings (t : Timeline α) : List (α × Nat) :=
  t.marks.reverse.filterMap Mark.firing?

/-- The steps, each with the state in which it is taken. -/
def encounters (t : Timeline α) : List (Step α) → List (Timeline α × Step α)
  | [] => []
  | step :: steps => (t, step) :: (t.step step).encounters steps

/-- Nothing is left that is due. -/
def Settled (t : Timeline α) : Prop :=
  ∀ due label, t.debouncer.pending = some (due, label) → t.now < due

/-- What is pending, as if it were scheduled at its due time without a delay. -/
def outstanding (t : Timeline α) (steps : List (Step α)) : List (Scheduling α) :=
  (t.debouncer.pending.map fun p =>
    ⟨p.2, p.1, 0, nextCall t.now steps, steps.any isCall⟩).toList

/-- What is pending, and what steps will schedule. -/
def awaited (t : Timeline α) (steps : List (Step α)) : List (Scheduling α) :=
  t.outstanding steps ++ schedulings t.now t.debouncer.delay steps

/-- What will have fired after some steps. -/
def prospect (t : Timeline α) (steps : List (Step α)) : List (α × Nat) :=
  t.firings ++ (t.awaited steps).filterMap Scheduling.firing?

@[simp] theorem run_cons (t : Timeline α) (step : Step α) (steps : List (Step α)) :
    run t (step :: steps) = run (t.step step) steps := rfl

/-! ### Settling -/

theorem settle_of_due {due : Nat} {label : α} (hPending : t.debouncer.pending = some (due, label))
    (hDue : due ≤ t.now) :
    t.settle =
      { t with debouncer := t.debouncer.cancel, marks := .fired label due :: t.marks } := by
  simp only [settle, hPending, if_pos hDue]

theorem Settled.settle_eq (hSettled : t.Settled) : t.settle = t := by
  unfold settle
  split
  · rename_i due label hPending
    exact if_neg (Nat.not_le.mpr (hSettled due label hPending))
  · rfl

theorem settled_of_not_pending (hNone : t.debouncer.pending = none) : t.Settled :=
  fun _ _ hSome => absurd (hNone.symm.trans hSome) (by simp)

theorem settled_or_due (t : Timeline α) :
    t.Settled ∨ ∃ due label, t.debouncer.pending = some (due, label) ∧ due ≤ t.now := by
  rcases hPending : t.debouncer.pending with _ | ⟨due, label⟩
  · exact Or.inl (settled_of_not_pending hPending)
  · rcases Nat.lt_or_ge t.now due with hLate | hDue
    · refine Or.inl fun due' label' hSome => ?_
      obtain ⟨rfl, rfl⟩ := Prod.mk.inj (Option.some.inj (hPending.symm.trans hSome))
      exact hLate
    · exact Or.inr ⟨due, label, rfl, hDue⟩

theorem settled_settle (t : Timeline α) : t.settle.Settled := by
  rcases settled_or_due t with hSettled | ⟨due, label, hPending, hDue⟩
  · rw [hSettled.settle_eq]
    exact hSettled
  · rw [settle_of_due hPending hDue]
    exact settled_of_not_pending rfl

theorem Settled.endPending (hSettled : t.Settled) (m : Mark α) : (t.endPending m).Settled := by
  unfold Timeline.endPending
  split
  · exact settled_of_not_pending rfl
  · exact hSettled

theorem Settled.step (hSettled : t.Settled) (step : Step α) : (t.step step).Settled := by
  cases step with
  | schedule label => exact settled_settle _
  | cancel => exact hSettled.endPending .superseded
  | advance time => exact settled_settle _
  | replace delay => exact settled_of_not_pending rfl

/-- What settling fires was awaited. -/
theorem prospect_settle (t : Timeline α) (steps : List (Step α)) :
    t.settle.prospect steps = t.prospect steps := by
  rcases settled_or_due t with hSettled | ⟨due, label, hPending, hDue⟩
  · rw [hSettled.settle_eq]
  · have hReached : due ≤ nextCall t.now steps := Nat.le_trans hDue (le_nextCall t.now steps)
    rw [settle_of_due hPending hDue]
    simp [prospect, awaited, outstanding, hPending, firings, Mark.firing?, Debouncer.cancel,
      Scheduling.firing?, Scheduling.due, hReached]

/-- What settling fires is not waiting. -/
theorem timers_settle (t : Timeline α) (steps : List (Step α)) :
    (t.settle.awaited steps).filterMap Scheduling.timer? =
      (t.awaited steps).filterMap Scheduling.timer? := by
  rcases settled_or_due t with hSettled | ⟨due, label, hPending, hDue⟩
  · rw [hSettled.settle_eq]
  · have hReached : ¬ nextCall t.now steps < due :=
      Nat.not_lt.mpr (Nat.le_trans hDue (le_nextCall t.now steps))
    rw [settle_of_due hPending hDue]
    simp [awaited, outstanding, hPending, Debouncer.cancel, Scheduling.timer?, Scheduling.due,
      hReached]

/-- A call ends what is pending, which then neither fires nor waits. -/
theorem Settled.awaited_call (hSettled : t.Settled) {call : Step α} (hCall : call.isCall = true)
    (steps : List (Step α)) :
    (t.awaited (call :: steps)).filterMap Scheduling.firing? =
        (schedulings t.now t.debouncer.delay (call :: steps)).filterMap Scheduling.firing? ∧
      (t.awaited (call :: steps)).filterMap Scheduling.timer? =
        (schedulings t.now t.debouncer.delay (call :: steps)).filterMap Scheduling.timer? := by
  have hNow : nextCall t.now (call :: steps) = t.now := by
    cases call with
    | advance => exact absurd hCall (by simp [isCall])
    | schedule | cancel | replace => rfl
  rcases hPending : t.debouncer.pending with _ | ⟨due, label⟩
  · simp [awaited, outstanding, hPending]
  · have hLate : ¬ due ≤ t.now := Nat.not_le.mpr (hSettled due label hPending)
    simp [awaited, outstanding, hPending, hNow, hCall, Scheduling.firing?, Scheduling.timer?,
      Scheduling.due, hLate]

theorem awaited_of_not_pending (hNone : t.debouncer.pending = none) (steps : List (Step α)) :
    t.awaited steps = schedulings t.now t.debouncer.delay steps := by
  simp [awaited, outstanding, hNone]

@[simp] theorem endPending_now (m : Mark α) : (t.endPending m).now = t.now := by
  unfold endPending
  split <;> rfl

@[simp] theorem endPending_delay (m : Mark α) :
    (t.endPending m).debouncer.delay = t.debouncer.delay := by
  unfold endPending
  split <;> rfl

@[simp] theorem endPending_pending (m : Mark α) : (t.endPending m).debouncer.pending = none := by
  unfold endPending
  split
  · rfl
  · rename_i hNone
    simpa [isPending] using hNone

@[simp] theorem endPending_isPending (m : Mark α) :
    (t.endPending m).debouncer.isPending = false := by
  rw [isPending, endPending_pending]
  rfl

theorem endPending_firings {m : Mark α} (hm : m.firing? = none) :
    (t.endPending m).firings = t.firings := by
  unfold endPending
  split
  · simp [firings, hm]
  · rfl

/-- What is scheduled now is awaited like a label that is scheduled when it is due. -/
theorem awaited_schedule (t : Timeline α) (label : α) (marks : List (Mark α))
    (steps : List (Step α)) :
    (awaited { t with debouncer := t.debouncer.schedule t.now label, marks } steps).filterMap
        Scheduling.firing? =
        (schedulings t.now t.debouncer.delay (.schedule label :: steps)).filterMap
          Scheduling.firing? ∧
      (awaited { t with debouncer := t.debouncer.schedule t.now label, marks } steps).filterMap
        Scheduling.timer? =
        (schedulings t.now t.debouncer.delay (.schedule label :: steps)).filterMap
          Scheduling.timer? := ⟨rfl, rfl⟩

/-- A step fires some of what was awaited, and leaves the rest. -/
theorem Settled.prospect_step (hSettled : t.Settled) (step : Step α) (steps : List (Step α)) :
    (t.step step).prospect steps = t.prospect (step :: steps) := by
  cases step with
  | schedule label =>
    have hFirings := endPending_firings (t := t) (m := .superseded) rfl
    rw [Timeline.step, prospect_settle, prospect, prospect, (awaited_schedule ..).1,
      (hSettled.awaited_call rfl steps).1]
    simp only [firings] at hFirings
    simp [firings, List.filterMap_cons, Mark.firing?, hFirings]
  | cancel =>
    rw [Timeline.step, prospect, prospect, endPending_firings rfl,
      awaited_of_not_pending (endPending_pending _), (hSettled.awaited_call rfl steps).1]
    simp [schedulings]
  | advance time =>
    rw [Timeline.step, prospect_settle]
    rfl
  | replace delay =>
    have hFirings := endPending_firings (t := t) (m := .dropped) rfl
    rw [prospect, prospect, awaited_of_not_pending rfl, (hSettled.awaited_call rfl steps).1]
    simp only [firings] at hFirings
    simp [Timeline.step, firings, hFirings, schedulings]

theorem Settled.timers_step (hSettled : t.Settled) (step : Step α) (steps : List (Step α)) :
    ((t.step step).awaited steps).filterMap Scheduling.timer? =
      (t.awaited (step :: steps)).filterMap Scheduling.timer? := by
  cases step with
  | schedule label =>
    rw [Timeline.step, timers_settle, (awaited_schedule ..).2,
      (hSettled.awaited_call rfl steps).2]
    simp
  | cancel =>
    rw [Timeline.step, awaited_of_not_pending (endPending_pending _),
      (hSettled.awaited_call rfl steps).2]
    simp [schedulings]
  | advance time =>
    rw [Timeline.step, timers_settle]
    rfl
  | replace delay =>
    rw [awaited_of_not_pending rfl, (hSettled.awaited_call rfl steps).2]
    simp [Timeline.step, schedulings]

/-! ### Runs -/

/-- Every run fires what it awaits in time. -/
theorem Settled.firings_run (hSettled : t.Settled) (steps : List (Step α)) :
    (run t steps).firings = t.prospect steps := by
  induction steps generalizing t with
  | nil =>
    rcases hPending : t.debouncer.pending with _ | ⟨due, label⟩
    · simp [run, prospect, awaited_of_not_pending hPending, schedulings]
    · have hLate : ¬ due ≤ t.now := Nat.not_le.mpr (hSettled due label hPending)
      simp [run, prospect, awaited, outstanding, hPending, schedulings, nextCall,
        Scheduling.firing?, Scheduling.due, hLate]
  | cons step steps ih => rw [run_cons, ih (hSettled.step step), hSettled.prospect_step]

/-- Every run is left with the timer that waits. -/
theorem Settled.pending_run (hSettled : t.Settled) (steps : List (Step α)) :
    (run t steps).debouncer.pending.toList =
      (t.awaited steps).filterMap Scheduling.timer? := by
  induction steps generalizing t with
  | nil =>
    rcases hPending : t.debouncer.pending with _ | ⟨due, label⟩
    · simp [run, awaited_of_not_pending hPending, schedulings, hPending]
    · have hLate := hSettled due label hPending
      simp [run, awaited, outstanding, hPending, schedulings, nextCall, Scheduling.timer?,
        Scheduling.due, hLate]
  | cons step steps ih => rw [run_cons, ih (hSettled.step step), hSettled.timers_step]

/-! ### Counting -/

/-- How often something was marked. -/
def count (t : Timeline α) (p : Mark α → Bool) : Nat := t.marks.countP p

theorem count_settle {p : Mark α → Bool} (hp : ∀ label time, p (.fired label time) = false) :
    t.settle.count p = t.count p := by
  rcases settled_or_due t with hSettled | ⟨due, label, hPending, hDue⟩
  · rw [hSettled.settle_eq]
  · simp [settle_of_due hPending hDue, count, hp]

theorem count_endPending (t : Timeline α) (m : Mark α) (p : Mark α → Bool) :
    (t.endPending m).count p = t.count p + if t.debouncer.isPending && p m then 1 else 0 := by
  unfold endPending
  split
  · rename_i hPending
    simp [count, hPending, List.countP_cons]
  · rename_i hNone
    simp [hNone]

/-- What is counted in a run is counted step by step. -/
theorem count_run {p : Mark α → Bool} {q : Timeline α × Step α → Bool}
    (hStep : ∀ t step, (Timeline.step t step).count p = t.count p + if q (t, step) then 1 else 0)
    (t : Timeline α) (steps : List (Step α)) :
    (run t steps).count p = t.count p + (t.encounters steps).countP q := by
  induction steps generalizing t with
  | nil => rfl
  | cons step steps ih =>
    rw [run_cons, ih, hStep, encounters, List.countP_cons]
    omega

/-- The steps that make a timer give way are those that find one pending and schedule or cancel. -/
theorem count_superseded_step (t : Timeline α) (step : Step α) :
    (t.step step).count Mark.isSuperseded = t.count Mark.isSuperseded +
      if t.debouncer.isPending && step.supersedes then 1 else 0 := by
  cases step with
  | schedule label =>
    have hEnd := count_endPending t .superseded Mark.isSuperseded
    rw [Timeline.step, count_settle fun _ _ => rfl]
    simpa [count, supersedes, Mark.isSuperseded] using hEnd
  | cancel => exact count_endPending t .superseded Mark.isSuperseded
  | advance time =>
    rw [Timeline.step, count_settle fun _ _ => rfl]
    simp [count, supersedes]
  | replace delay =>
    exact count_endPending t .dropped Mark.isSuperseded

/-- The steps that drop a timer are those that find one pending and replace the debouncer. -/
theorem count_dropped_step (t : Timeline α) (step : Step α) :
    (t.step step).count Mark.isDropped = t.count Mark.isDropped +
      if t.debouncer.isPending && step.replaces then 1 else 0 := by
  cases step with
  | schedule label =>
    have hEnd := count_endPending t .superseded Mark.isDropped
    rw [Timeline.step, count_settle fun _ _ => rfl]
    simpa [count, replaces, Mark.isDropped] using hEnd
  | cancel => exact count_endPending t .superseded Mark.isDropped
  | advance time =>
    rw [Timeline.step, count_settle fun _ _ => rfl]
    simp [count, replaces]
  | replace delay =>
    exact count_endPending t .dropped Mark.isDropped

theorem count_scheduled_step (t : Timeline α) (step : Step α) :
    (t.step step).count Mark.isScheduled = t.count Mark.isScheduled +
      if step.schedules then 1 else 0 := by
  cases step with
  | schedule label =>
    have hEnd := count_endPending t .superseded Mark.isScheduled
    rw [Timeline.step, count_settle fun _ _ => rfl]
    simp only [count, Mark.isScheduled, Bool.and_false] at hEnd
    simpa [count, schedules, Mark.isScheduled, List.countP_cons] using hEnd
  | cancel =>
    have hEnd := count_endPending t .superseded Mark.isScheduled
    simp only [Mark.isScheduled, Bool.and_false] at hEnd
    exact hEnd
  | advance time =>
    rw [Timeline.step, count_settle fun _ _ => rfl]
    rfl
  | replace delay =>
    have hEnd := count_endPending t .dropped Mark.isScheduled
    simp only [Mark.isScheduled, Bool.and_false] at hEnd
    exact hEnd

/-- What was scheduled has given way, fired, gone with its debouncer, or is pending. -/
def Balanced (t : Timeline α) : Prop :=
  t.count Mark.isScheduled =
    t.count Mark.isSuperseded + t.count Mark.isFired + t.count Mark.isDropped +
      if t.debouncer.isPending then 1 else 0

theorem Balanced.settle (hBalanced : t.Balanced) : t.settle.Balanced := by
  rcases settled_or_due t with hSettled | ⟨due, label, hPending, hDue⟩
  · rwa [hSettled.settle_eq]
  · have hIsPending : t.debouncer.isPending = true := by rw [isPending, hPending]; rfl
    simp only [Balanced, hIsPending, count] at hBalanced
    simp [settle_of_due hPending hDue, Balanced, count, List.countP_cons, hBalanced,
      Mark.isScheduled, Mark.isSuperseded, Mark.isFired, Mark.isDropped, Debouncer.cancel,
      isPending]
    omega

theorem Balanced.endPending (hBalanced : t.Balanced) {m : Mark α}
    (hm : m = .superseded ∨ m = .dropped) : (t.endPending m).Balanced := by
  simp only [Balanced, count_endPending, endPending_isPending] at hBalanced ⊢
  rcases hm with rfl | rfl
  · simp [hBalanced, Mark.isScheduled, Mark.isSuperseded, Mark.isFired, Mark.isDropped]
    omega
  · simp [hBalanced, Mark.isScheduled, Mark.isSuperseded, Mark.isFired, Mark.isDropped]
    omega

theorem Balanced.step (hBalanced : t.Balanced) (step : Step α) : (t.step step).Balanced := by
  cases step with
  | schedule label =>
    have hEnd : (t.endPending .superseded).Balanced := hBalanced.endPending (Or.inl rfl)
    refine Balanced.settle ?_
    simp only [Balanced, endPending_isPending, count] at hEnd
    simp [Balanced, count, List.countP_cons, hEnd, Mark.isScheduled, Mark.isSuperseded,
      Mark.isFired, Mark.isDropped, Debouncer.schedule, isPending]
  | cancel => exact hBalanced.endPending (Or.inl rfl)
  | advance time => exact Balanced.settle hBalanced
  | replace delay =>
    have hEnd : (t.endPending .dropped).Balanced := hBalanced.endPending (Or.inr rfl)
    simp only [Balanced, endPending_isPending] at hEnd
    exact hEnd

theorem Balanced.run (hBalanced : t.Balanced) (steps : List (Step α)) :
    (Timeline.run t steps).Balanced := by
  induction steps generalizing t with
  | nil => exact hBalanced
  | cons step steps ih => exact ih (hBalanced.step step)

theorem isPending_iff : t.debouncer.isPending = true ↔ t.debouncer.pending.toList ≠ [] := by
  rw [isPending]
  cases t.debouncer.pending <;> simp

theorem count_isFired (t : Timeline α) : t.count Mark.isFired = t.firings.length := by
  rw [firings, List.filterMap_reverse, List.length_reverse, List.length_filterMap_eq_countP, count]
  refine List.countP_congr fun m _ => ?_
  cases m <;> simp [Mark.isFired, Mark.firing?]

/-- **The law of debouncing.**  For every list of steps: a label fires if and only if its due time
comes before the next call, once and at that time, and labels fire in the order in which they were
scheduled.  At most one timer is pending; it is that of the last label, if that has neither fired
nor given way to a call, and cancelling then tells so.  Every label that was scheduled has given
way, fired, gone with its debouncer, or is pending; those that have given way are counted by the
calls that schedule or cancel and find a timer pending. -/
theorem trace_law (delay : Nat) (steps : List (Step α)) :
    (run (start delay) steps).firings =
        (schedulings 0 delay steps).filterMap Scheduling.firing? ∧
      (run (start delay) steps).debouncer.pending.toList =
        (schedulings 0 delay steps).filterMap Scheduling.timer? ∧
      ((run (start delay) steps).debouncer.isPending = true ↔
        ∃ s, (schedulings 0 delay steps).getLast? = some s ∧ s.reached < s.due ∧
          s.isEnded = false) ∧
      ((run (start delay) steps).answer? .cancel = some true ↔
        ∃ s ∈ schedulings 0 delay steps, s.timer?.isSome = true) ∧
      (run (start delay) steps).Balanced ∧
      (run (start delay) steps).count Mark.isScheduled =
        ((start delay).encounters steps).countP (fun e => e.2.schedules) ∧
      (run (start delay) steps).count Mark.isSuperseded =
        ((start delay).encounters steps).countP
          (fun e => e.1.debouncer.isPending && e.2.supersedes) ∧
      (run (start delay) steps).count Mark.isFired = (run (start delay) steps).firings.length ∧
      (run (start delay) steps).count Mark.isDropped =
        ((start delay).encounters steps).countP
          (fun e => e.1.debouncer.isPending && e.2.replaces) := by
  have hSettled : (start delay : Timeline α).Settled := settled_of_not_pending rfl
  have hFirings : (run (start delay) steps).firings =
      (schedulings 0 delay steps).filterMap Scheduling.firing? := hSettled.firings_run steps
  have hTimers : (run (start delay) steps).debouncer.pending.toList =
      (schedulings 0 delay steps).filterMap Scheduling.timer? := hSettled.pending_run steps
  have hCount : ∀ {p : Mark α → Bool} {q : Timeline α × Step α → Bool},
      (∀ t step, (Timeline.step t step).count p = t.count p + if q (t, step) then 1 else 0) →
      (run (start delay) steps).count p = ((start delay).encounters steps).countP q := by
    intro p q hStep
    rw [count_run hStep]
    exact Nat.zero_add _
  have hBalanced : (start delay : Timeline α).Balanced := rfl
  refine ⟨hFirings, hTimers, ?_, ?_, hBalanced.run steps, hCount count_scheduled_step,
    hCount count_superseded_step, count_isFired _, hCount count_dropped_step⟩
  · rw [isPending_iff, hTimers, filterMap_timer?]
    cases (schedulings 0 delay steps).getLast? with
    | none => simp
    | some s => simp [← Scheduling.isSome_timer?, Option.isSome_iff_ne_none]
  · rw [answer?, Option.some_inj, isPending_iff, hTimers, Ne, List.filterMap_eq_nil_iff]
    simp [Option.isSome_iff_ne_none]

end Timeline

end LiveLine.Debouncer
