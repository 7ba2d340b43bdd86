import LiveLine.Proofs.Moves
import LiveLine.Proofs.Scripts

/-!
# The passing of time

Letting time pass performs whatever is due, one item after another, and nothing that is due remains:
an item makes the workload of a host smaller, so that there are enough of them.  It makes no
difference whether time passes at once or in two goes.

* `workload_perform_lt`: performing an item that is due makes the workload smaller.
* `performDue_induct`: what every item that is due keeps.
* `next?_advanceTo`: nothing that is due remains.
* `advanceTo_advanceTo`: time can pass in two goes.
-/

namespace LiveLine.Host

variable {owner : Nat → EditorId} {w : Setup} {h : Host} {s t : Session} {f : Flight}
  {item : Nat × Due} {time limit : Nat}

/-! ### Workload -/

/-- How many timers are pending. -/
def pendingTimers (h : Host) : Nat := h.sessions.countP (·.timer.isPending)

theorem workload_eq (h : Host) : h.workload = 2 * h.pendingTimers + h.flights.length := rfl

theorem countP_insertSession {ss : List Session} (p : Session → Bool) (hSorted : Sorted ss)
    (hs : s ∈ ss) (he : t.editor = s.editor) :
    (insertSession t ss).countP p + (if p s = true then 1 else 0) =
      ss.countP p + (if p t = true then 1 else 0) := by
  induction ss with
  | nil => exact absurd hs List.not_mem_nil
  | cons u us ih =>
    obtain ⟨hu, hus⟩ := List.pairwise_cons.mp hSorted
    rcases List.mem_cons.mp hs with rfl | hs
    · rw [insertSession, if_neg (Nat.not_lt.mpr (Nat.le_of_eq he.symm)), if_pos he,
        List.countP_cons, List.countP_cons]
      omega
    · have hlt : u.editor < t.editor := he ▸ hu s hs
      have hRest := ih hus hs
      rw [insertSession, if_neg (Nat.not_lt.mpr (Nat.le_of_lt hlt)), if_neg (Nat.ne_of_gt hlt),
        List.countP_cons, List.countP_cons]
      omega

theorem pendingTimers_put (hSorted : Sorted h.sessions) (hm : s ∈ h.sessions)
    (he : t.editor = s.editor) :
    (h.put t).pendingTimers + (if s.timer.isPending = true then 1 else 0) =
      h.pendingTimers + (if t.timer.isPending = true then 1 else 0) :=
  countP_insertSession (·.timer.isPending) hSorted hm he

/-- A session that takes a place and keeps the timer keeps the number of pending timers. -/
theorem pendingTimers_put_of_timer (hSorted : Sorted h.sessions) (hm : s ∈ h.sessions)
    (he : t.editor = s.editor) (hTimer : t.timer = s.timer) :
    (h.put t).pendingTimers = h.pendingTimers := by
  have hPut := pendingTimers_put hSorted hm he
  rw [hTimer] at hPut
  exact Nat.add_right_cancel hPut

theorem length_flights_supersede_le (w : Setup) (h : Host) (s : Session) :
    (h.supersede w s).flights.length ≤ h.flights.length := by
  unfold supersede
  split
  · split
    · exact List.length_filter_le ..
    · exact Nat.le_refl _
  · exact Nat.le_refl _

/-- An evaluation adds one run at most, and keeps the timers. -/
theorem workload_fire_le (hSorted : Sorted h.sessions) (id : EditorId) :
    (h.fire w id).workload ≤ h.workload + 1 := by
  unfold fire
  split
  · exact Nat.le_succ _
  · rename_i s hf
    obtain ⟨hm, -⟩ := (session?_eq_some hSorted).mp hf
    split
    · exact Nat.le_succ _
    · obtain ⟨flights, journal, hSupersede⟩ := exists_supersede_eq w h s
      have hFewer := length_flights_supersede_le w h s
      rw [hSupersede] at hFewer ⊢
      dsimp only at hFewer ⊢
      split
      · have hTimers : (start w { h with flights, journal } (s.evaluated w)).pendingTimers =
            h.pendingTimers := pendingTimers_put_of_timer hSorted hm rfl rfl
        have hFlights : (start w { h with flights, journal } (s.evaluated w)).flights.length =
            flights.length + 1 := List.length_append
        rw [← Session.evaluated, workload_eq, workload_eq, hTimers, hFlights]
        omega
      · have hTimers : (reject w { h with flights, journal } (s.evaluated w)).pendingTimers =
            h.pendingTimers := pendingTimers_put_of_timer hSorted hm rfl rfl
        have hFlights : (reject w { h with flights, journal } (s.evaluated w)).flights = flights :=
          rfl
        rw [← Session.evaluated, workload_eq, workload_eq, hTimers, hFlights]
        omega

theorem workload_elapse_lt (hSorted : Sorted h.sessions) (hf : h.session? s.editor = some s)
    (hPending : s.timer.isPending = true) : (h.elapse w s.editor).workload < h.workload := by
  obtain ⟨hm, -⟩ := (session?_eq_some hSorted).mp hf
  have hPut := pendingTimers_put (h := h.log s [.fired]) (t := { s with timer := s.timer.cancel })
    hSorted hm rfl
  rw [if_pos hPending, if_neg (by simp [Debouncer.isPending, Debouncer.cancel])] at hPut
  have hFire := workload_fire_le (w := w)
    (h := (h.log s [.fired]).put { s with timer := s.timer.cancel })
    (sorted_insertSession hSorted) s.editor
  have hLog : (h.log s [.fired]).pendingTimers = h.pendingTimers := rfl
  have hFlights : ((h.log s [.fired]).put { s with timer := s.timer.cancel }).flights =
    h.flights := rfl
  rw [workload_eq ((h.log s [.fired]).put _), hFlights] at hFire
  simp only [elapse, hf]
  rw [workload_eq h]
  omega

theorem length_flights_land_lt (hf : f ∈ h.flights) :
    (h.land f.run).flights.length < h.flights.length :=
  List.length_filter_lt_length_iff_exists.mpr ⟨f, hf, by simp⟩

theorem workload_complete_lt (hSorted : Sorted h.sessions) (hf : f ∈ h.flights) :
    (h.complete w f).workload < h.workload := by
  have hLand := length_flights_land_lt hf
  have hIgnored : ({ h.land f.run with
      journal := ⟨f.session, f.editor, .finished f.run f.result⟩ :: h.journal } : Host).workload <
        h.workload := by
    rw [workload_eq, workload_eq]
    exact Nat.add_lt_add_left hLand _
  unfold complete
  dsimp only
  split
  · exact hIgnored
  · rename_i s hs
    split
    · exact hIgnored
    · have hm : s ∈ h.sessions := List.mem_of_find?_eq_some hs
      have hTimers := pendingTimers_put_of_timer (t := s.heard w h.issued f) hSorted hm rfl rfl
      rw [workload_eq] at hIgnored ⊢
      exact lt_of_eq_of_lt (congrArg (2 * · + (h.land f.run).flights.length) hTimers) hIgnored

/-- What is on the agenda: a pending timer, or a run in flight. -/
theorem mem_agenda_iff :
    item ∈ h.agenda ↔
      (∃ s ∈ h.sessions, s.timer.due? = some item.1 ∧ item.2 = .timer s.editor) ∨
        ∃ f ∈ h.flights, f.due = item.1 ∧ item.2 = .completion f := by
  obtain ⟨due, what⟩ := item
  simp only [agenda, List.mem_append, List.mem_filterMap, List.mem_map, Option.map_eq_some_iff,
    Prod.mk.injEq]
  constructor
  · rintro (⟨s, hs, time, hTime, rfl, rfl⟩ | ⟨f, hf, rfl, rfl⟩)
    · exact Or.inl ⟨s, hs, hTime, rfl⟩
    · exact Or.inr ⟨f, hf, rfl, rfl⟩
  · rintro (⟨s, hs, hTime, rfl⟩ | ⟨f, hf, rfl, rfl⟩)
    · exact Or.inl ⟨s, hs, due, hTime, rfl, rfl⟩
    · exact Or.inr ⟨f, hf, rfl, rfl⟩

theorem isPending_of_due? {due : Nat} (hDue : s.timer.due? = some due) :
    s.timer.isPending = true := by
  obtain ⟨x, hx, -⟩ := Option.map_eq_some_iff.mp hDue
  simp [Debouncer.isPending, hx]

/-- **An item that is performed is one less to come.** -/
theorem workload_perform_lt (hSorted : Sorted h.sessions) (hItem : item ∈ h.agenda) (now : Nat) :
    (perform w { h with now } item.2).workload < h.workload := by
  obtain ⟨due, what⟩ := item
  rcases mem_agenda_iff.mp hItem with ⟨s, hs, hDue, rfl⟩ | ⟨f, hf, -, rfl⟩
  · exact workload_elapse_lt (h := { h with now }) hSorted
      ((session?_eq_some hSorted).mpr ⟨hs, rfl⟩) (isPending_of_due? hDue)
  · exact workload_complete_lt (h := { h with now }) hSorted hf

/-! ### What is due -/

theorem mem_of_next? (hNext : h.next? time = some item) : item ∈ h.agenda ∧ item.1 ≤ time := by
  obtain ⟨hEarliest, hDue⟩ := Option.filter_eq_some_iff.mp hNext
  exact ⟨mem_of_earliest? hEarliest, by simpa using hDue⟩

theorem next?_mono {earlier : Nat} (hle : earlier ≤ time) (hNext : h.next? earlier = some item) :
    h.next? time = some item := by
  obtain ⟨hEarliest, hDue⟩ := Option.filter_eq_some_iff.mp hNext
  refine Option.filter_eq_some_iff.mpr ⟨hEarliest, ?_⟩
  simp only [decide_eq_true_eq] at hDue ⊢
  omega

theorem performDue_of_next?_none (hNext : h.next? time = none) (limit : Nat) :
    performDue w time limit h = h := by
  cases limit with
  | zero => rfl
  | succ limit => rw [performDue, hNext]

theorem performDue_of_next?_some (hNext : h.next? time = some item) (limit : Nat) :
    performDue w time (limit + 1) h =
      performDue w time limit (perform w { h with now := item.1 } item.2) := by
  rw [performDue, hNext]

theorem exists_sound_perform (hs : ∃ owner, Sound owner h) (hItem : item ∈ h.agenda) (now : Nat) :
    ∃ owner, Sound owner (perform w { h with now } item.2) := by
  obtain ⟨owner, hOwner⟩ := hs
  exact (Passes.perform hOwner.sorted hItem now).leads.sound ⟨owner, hOwner⟩

/-- Letting time pass, item by item: how what is due is performed can be told from the last host,
where nothing is due, and from one where an item is due, when it is told from the host after it. -/
theorem performDue_induct (w : Setup) (time : Nat) {P : Host → Prop} (hs : ∃ owner, Sound owner h)
    (rest : ∀ h, (∃ owner, Sound owner h) → h.next? time = none → P h)
    (item : ∀ h item, (∃ owner, Sound owner h) → h.next? time = some item →
      P (perform w { h with now := item.1 } item.2) → P h) : P h := by
  induction hn : h.workload using Nat.strongRecOn generalizing h with
  | _ n ih =>
    cases hNext : h.next? time with
    | none => exact rest h hs hNext
    | some x =>
      obtain ⟨hItem, -⟩ := mem_of_next? hNext
      have hSound := exists_sound_perform (w := w) hs hItem x.1
      obtain ⟨owner, hOwner⟩ := hs
      have hlt := workload_perform_lt (w := w) hOwner.sorted hItem x.1
      exact item h x ⟨owner, hOwner⟩ hNext (ih _ (hn ▸ hlt) hSound rfl)

/-- A limit that is as high as the workload is no limit. -/
theorem performDue_eq_of_workload_le (hs : ∃ owner, Sound owner h) (hLimit : h.workload ≤ limit) :
    performDue w time limit h = performDue w time h.workload h := by
  revert limit
  refine performDue_induct w time
    (P := fun h => ∀ {limit}, h.workload ≤ limit →
      performDue w time limit h = performDue w time h.workload h) hs ?_ ?_
  · intro h _ hNext limit _
    rw [performDue_of_next?_none hNext, performDue_of_next?_none hNext]
  · intro h item hs hNext ih limit hLimit
    obtain ⟨owner, hOwner⟩ := hs
    have hlt := workload_perform_lt (w := w) hOwner.sorted (mem_of_next? hNext).1 item.1
    obtain ⟨n, hn⟩ : ∃ n, h.workload = n + 1 := ⟨h.workload - 1, by omega⟩
    obtain ⟨m, rfl⟩ : ∃ m, limit = m + 1 := ⟨limit - 1, by omega⟩
    rw [hn, performDue_of_next?_some hNext, performDue_of_next?_some hNext]
    exact (ih (Nat.le_of_lt_succ (Nat.lt_of_lt_of_le hlt hLimit))).trans
      (ih (Nat.le_of_lt_succ (Nat.lt_of_lt_of_eq hlt hn))).symm

/-- Letting time pass performs the first item that is due, and lets time pass from there. -/
theorem performDue_workload_of_next? (hs : ∃ owner, Sound owner h)
    (hNext : h.next? time = some item) :
    performDue w time h.workload h =
      performDue w time (perform w { h with now := item.1 } item.2).workload
        (perform w { h with now := item.1 } item.2) := by
  have hItem := (mem_of_next? hNext).1
  have hSound := exists_sound_perform (w := w) hs hItem item.1
  obtain ⟨owner, hOwner⟩ := hs
  have hlt := workload_perform_lt (w := w) hOwner.sorted hItem item.1
  obtain ⟨n, hn⟩ : ∃ n, h.workload = n + 1 := ⟨h.workload - 1, by omega⟩
  rw [hn, performDue_of_next?_some hNext, performDue_eq_of_workload_le hSound (by omega)]

theorem advanceTo_of_next?_none (hNext : h.next? time = none) :
    h.advanceTo w time = { h with now := time } := by
  rw [advanceTo, performDue_of_next?_none hNext]

theorem advanceTo_of_next?_some (hs : ∃ owner, Sound owner h) (hNext : h.next? time = some item) :
    h.advanceTo w time = (perform w { h with now := item.1 } item.2).advanceTo w time := by
  rw [advanceTo, performDue_workload_of_next? hs hNext, advanceTo]

/-- **Nothing that is due remains.** -/
theorem next?_advanceTo (hs : ∃ owner, Sound owner h) (time : Nat) :
    (h.advanceTo w time).next? time = none := by
  refine performDue_induct w time
    (P := fun h => (h.advanceTo w time).next? time = none) hs ?_ ?_
  · intro h _ hNext
    rw [advanceTo_of_next?_none hNext]
    exact hNext
  · intro h item hs hNext ih
    rwa [advanceTo_of_next?_some hs hNext]

/-- The clock says nothing of what is to come. -/
theorem advanceTo_now (hs : ∃ owner, Sound owner h) (now time : Nat) :
    advanceTo w { h with now } time = h.advanceTo w time := by
  have hs' : ∃ owner, Sound owner { h with now } := by
    obtain ⟨owner, hOwner⟩ := hs
    exact ⟨owner, hOwner.aside now h.focused h.issued⟩
  cases hNext : h.next? time with
  | none => rw [advanceTo_of_next?_none hNext, advanceTo_of_next?_none (h := { h with now }) hNext]
  | some item =>
    rw [advanceTo_of_next?_some hs hNext, advanceTo_of_next?_some (h := { h with now }) hs' hNext]

/-- **Time can pass in two goes.** -/
theorem advanceTo_advanceTo (hs : ∃ owner, Sound owner h) {earlier : Nat} (hle : earlier ≤ time) :
    (h.advanceTo w earlier).advanceTo w time = h.advanceTo w time := by
  refine performDue_induct w earlier
    (P := fun h => (h.advanceTo w earlier).advanceTo w time = h.advanceTo w time) hs ?_ ?_
  · intro h hs hNext
    rw [advanceTo_of_next?_none hNext, advanceTo_now hs]
  · intro h item hs hNext ih
    rw [advanceTo_of_next?_some hs hNext, ih, advanceTo_of_next?_some hs (next?_mono hle hNext)]

end LiveLine.Host
