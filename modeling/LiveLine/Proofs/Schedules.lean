import LiveLine.Proofs.Alone

/-!
# What is due for one editor

The items on the agenda of a host that are about one editor keep their order when those about other
editors are left out, and the first of all items that are due is the first of those about its
editor.  So time makes of the part of an editor what it makes of it in a host that has this editor
alone.

* `agenda_filter`: the agenda of an editor.
* `earliest?_filter`, `rel_earliest?`: the first item among some, and among items in pairs.
* `Sound.view_perform`: the same is made of equal views by items in a pair.
* `Sound.view_advanceTo`: the same is made of equal views by the passing of time.
-/

namespace LiveLine

/-- The editor that an item is about. -/
def Due.editor : Due → EditorId
  | timer id => id
  | completion f => f.editor

namespace Host

variable {owner : Nat → EditorId} {w w' : Setup} {h g : Host} {s t : Session} {id : EditorId}
  {f f' : Flight} {plan : Nat → RunPlan} {x y : Nat × Due} {time : Nat}

/-! ### The first item -/

theorem earliest?_eq_none_iff {items : List (Nat × Due)} : earliest? items = none ↔ items = [] := by
  cases items with
  | nil => simp [earliest?]
  | cons y ys =>
    simp only [earliest?, reduceCtorEq, iff_false]
    split
    · simp
    · split <;> simp

theorem earliest?_cons (y : Nat × Due) (ys : List (Nat × Due)) :
    earliest? (y :: ys) =
      some ((earliest? ys).elim y fun z => if z.1 < y.1 then z else y) := by
  rw [earliest?]
  split
  · rename_i hNone
    rw [hNone]
    rfl
  · rename_i z hSome
    rw [hSome]
    dsimp only [Option.elim]
    split <;> rfl

theorem le_of_earliest? {items : List (Nat × Due)} (hx : earliest? items = some x) :
    ∀ u ∈ items, x.1 ≤ u.1 := by
  induction items generalizing x with
  | nil => simp
  | cons y ys ih =>
    rw [earliest?_cons, Option.some.injEq] at hx
    subst hx
    cases hEarliest : earliest? ys with
    | none =>
      rw [earliest?_eq_none_iff.mp hEarliest]
      simp
    | some z =>
      have hz := ih hEarliest
      intro u hu
      dsimp only [Option.elim]
      rcases List.mem_cons.mp hu with rfl | hu
      · split <;> omega
      · have := hz u hu
        split <;> omega

/-- The first item is also the first of those with a property that it has. -/
theorem earliest?_filter {items : List (Nat × Due)} {p : Nat × Due → Bool}
    (hx : earliest? items = some x) (hp : p x = true) : earliest? (items.filter p) = some x := by
  induction items with
  | nil => simp [earliest?] at hx
  | cons y ys ih =>
    rw [earliest?_cons, Option.some.injEq] at hx
    cases hEarliest : earliest? ys with
    | none =>
      rw [hEarliest] at hx
      obtain rfl : y = x := hx
      rw [earliest?_eq_none_iff.mp hEarliest, List.filter_cons_of_pos hp]
      rfl
    | some z =>
      rw [hEarliest] at hx
      dsimp only [Option.elim] at hx
      split at hx
      · rename_i hlt
        subst hx
        have hRest := ih hEarliest
        rw [List.filter_cons]
        split
        · rw [earliest?_cons, hRest]
          simp [hlt]
        · exact hRest
      · rename_i hle
        subst hx
        rw [List.filter_cons_of_pos hp, earliest?_cons]
        cases hFiltered : earliest? (ys.filter p) with
        | none => rfl
        | some u =>
          have hu := le_of_earliest? hEarliest u
            (List.mem_of_mem_filter (mem_of_earliest? hFiltered))
          simp only [Option.elim, Option.some.injEq]
          rw [if_neg (by omega)]

/-- The first items of two lists of items in pairs are a pair. -/
theorem rel_earliest? {R : Nat × Due → Nat × Due → Prop} (hR : ∀ x y, R x y → x.1 = y.1)
    {xs ys : List (Nat × Due)} (hItems : List.Forall₂ R xs ys) :
    Option.Rel R (earliest? xs) (earliest? ys) := by
  induction hItems with
  | nil => exact .none
  | @cons x y xs ys hxy _ ih =>
    rw [earliest?_cons, earliest?_cons]
    refine .some ?_
    generalize earliest? xs = u at ih
    generalize earliest? ys = v at ih
    cases ih with
    | none => exact hxy
    | @some u v huv =>
      dsimp only [Option.elim]
      rw [hR u v huv, hR x y hxy]
      split
      · exact huv
      · exact hxy

theorem next?_eq_none_iff : h.next? time = none ↔ ∀ u ∈ h.agenda, time < u.1 := by
  rw [next?, Option.filter_eq_none_iff]
  constructor
  · intro hNone u hu
    cases hEarliest : earliest? h.agenda with
    | none =>
      rw [earliest?_eq_none_iff.mp hEarliest] at hu
      exact absurd hu List.not_mem_nil
    | some x =>
      have hx := hNone x hEarliest
      have hle := le_of_earliest? hEarliest u hu
      simp only [decide_eq_true_eq] at hx
      omega
  · intro hAll x hx
    have := hAll x (mem_of_earliest? hx)
    simp only [decide_eq_true_eq]
    omega

/-! ### The agenda of an editor -/

theorem sessions_filter (hSorted : Sorted h.sessions) (id : EditorId) :
    h.sessions.filter (·.editor = id) = (h.session? id).toList := by
  have hAny : ∀ ss : List Session, Sorted ss →
      ss.filter (·.editor = id) = (ss.find? (·.editor = id)).toList := by
    intro ss hSorted
    induction ss with
    | nil => rfl
    | cons s ss ih =>
      obtain ⟨hs, hRest⟩ := List.pairwise_cons.mp hSorted
      by_cases he : s.editor = id
      · have hNone : ss.filter (·.editor = id) = [] := by
          refine List.filter_eq_nil_iff.mpr fun t ht => ?_
          have hlt := hs t ht
          rw [he] at hlt
          simpa using Nat.ne_of_gt hlt
        rw [List.filter_cons_of_pos (by simpa using he), List.find?_cons_of_pos (by simpa using he),
          hNone]
        rfl
      · rw [List.filter_cons_of_neg (by simpa using he), List.find?_cons_of_neg (by simpa using he),
          ih hRest]
  exact hAny h.sessions hSorted

/-- What is on the agenda of a life. -/
def items (id : EditorId) (l : Life) : List (Nat × Due) :=
  (l.session.bind fun s => s.timer.due?.map fun due => (due, Due.timer id)).toList ++
    l.flights.map fun f => (f.due, .completion f)

/-- **The agenda of an editor** can be read off its part. -/
theorem agenda_filter (hSorted : Sorted h.sessions) (id : EditorId) :
    h.agenda.filter (·.2.editor = id) = items id (h.part id) := by
  have hTimers : (h.sessions.filterMap fun s =>
      s.timer.due?.map fun due => (due, Due.timer s.editor)).filter (·.2.editor = id) =
        ((h.session? id).bind fun s => s.timer.due?.map fun due => (due, Due.timer id)).toList := by
    have hSwap : ∀ ss : List Session, (ss.filterMap fun s =>
        s.timer.due?.map fun due => (due, Due.timer s.editor)).filter (·.2.editor = id) =
          (ss.filter (·.editor = id)).filterMap fun s =>
            s.timer.due?.map fun due => (due, Due.timer id) := by
      intro ss
      induction ss with
      | nil => rfl
      | cons s ss ih =>
        by_cases he : s.editor = id
        · cases hDue : s.timer.due? <;> simp_all [Due.editor]
        · cases hDue : s.timer.due? <;> simp_all [Due.editor]
    rw [hSwap, sessions_filter hSorted]
    cases h.session? id with
    | none => rfl
    | some s => cases hDue : s.timer.due? <;> simp [hDue]
  have hRuns : (h.flights.map fun f => (f.due, Due.completion f)).filter (·.2.editor = id) =
      (h.flights.filter (·.editor = id)).map fun f => (f.due, Due.completion f) := by
    rw [List.filter_map]
    rfl
  rw [agenda, List.filter_append, hTimers, hRuns]
  rfl

theorem Alone.agenda_eq (hg : Alone id g) : g.agenda = items id (g.part id) := by
  rw [← agenda_filter hg.sound.sorted]
  refine (List.filter_eq_self.mpr fun x hx => ?_).symm
  rcases mem_agenda_iff.mp hx with ⟨s, hs, -, he⟩ | ⟨f, hf, -, he⟩
  · simpa [he, Due.editor] using hg.editor_of_mem hs
  · simpa [he, Due.editor] using hg.editor_of_flight hf

/-! ### Items in pairs -/

/-- Two items at the same time, for which two lives have the same place. -/
inductive Paired (id : EditorId) (l k : Life) : Nat × Due → Nat × Due → Prop
  | timer (due : Nat) : Paired id l k (due, .timer id) (due, .timer id)
  | completion {f f' : Flight} (hf : Life.Counterpart l k f f') (hDue : f.due = f'.due) :
      Paired id l k (f.due, .completion f) (f'.due, .completion f')

theorem Paired.time_eq {l k : Life} (hPaired : Paired id l k x y) : x.1 = y.1 := by
  cases hPaired with
  | timer => rfl
  | completion hf hDue => exact hDue

/-- Lists that look the same are made of pairs that have the same place. -/
theorem forall₂_split {α β : Type} {a b : α → β} {xs ys : List α} (hSame : xs.map a = ys.map b) :
    List.Forall₂ (fun x y => a x = b y ∧ ∃ pre post pre' post',
      xs = pre ++ x :: post ∧ ys = pre' ++ y :: post' ∧ pre.map a = pre'.map b ∧
        post.map a = post'.map b) xs ys := by
  induction xs generalizing ys with
  | nil =>
    rw [List.map_nil, eq_comm, List.map_eq_nil_iff] at hSame
    rw [hSame]
    exact .nil
  | cons x xs ih =>
    obtain ⟨y, ys, rfl, hx, hRest⟩ := List.map_eq_cons_iff.mp hSame.symm
    refine .cons ⟨hx.symm, [], xs, [], ys, rfl, rfl, rfl, hRest.symm⟩ ((ih hRest.symm).imp ?_)
    rintro u v ⟨huv, pre, post, pre', post', hxs, hys, hPre, hPost⟩
    exact ⟨huv, x :: pre, post, y :: pre', post', congrArg (x :: ·) hxs, congrArg (y :: ·) hys,
      by rw [List.map_cons, List.map_cons, hPre, hx], hPost⟩

theorem paired_items {l k : Life} (hView : l.view = k.view) :
    List.Forall₂ (Paired id l k) (items id l) (items id k) := by
  obtain ⟨-, hFlights, -⟩ := Life.view_eq_iff.mp hView
  have hTimers : List.Forall₂ (Paired id l k)
      (l.session.bind fun s => s.timer.due?.map fun due => (due, Due.timer id)).toList
      (k.session.bind fun s => s.timer.due?.map fun due => (due, Due.timer id)).toList := by
    cases hs : l.session with
    | none =>
      rw [Life.session_eq_none_of_view hView hs]
      exact .nil
    | some s =>
      obtain ⟨t, ht, hAlike⟩ := Life.exists_session_of_view hView hs
      simp only [ht, Option.bind_some, ← hAlike.timer]
      cases s.timer.due? with
      | none => exact .nil
      | some due => exact .cons (.timer due) .nil
  have hRuns : List.Forall₂ (Paired id l k) (l.flights.map fun f => (f.due, Due.completion f))
      (k.flights.map fun f => (f.due, Due.completion f)) := by
    rw [List.forall₂_map_left_iff, List.forall₂_map_right_iff]
    refine (forall₂_split hFlights).imp ?_
    rintro f f' ⟨hSight, hSplit⟩
    exact .completion ⟨hSplit, hSight⟩ (congrArg Sight.due hSight)
  exact List.rel_append hTimers hRuns

/-- **The same is made of equal views by items in a pair.** -/
theorem Sound.view_perform (hs : Sound owner h) (hg : Alone id g) (hw : w.Agrees w')
    (hAlone : ∀ run request, w'.plan run request = plan run)
    (hView : (h.part id).view = (g.part id).view) (hx : x ∈ h.agenda) (hy : y ∈ g.agenda)
    (hPaired : Paired id (h.part id) (g.part id) x y) (hNow : h.now = g.now)
    (hGets : Gets w id plan (h.perform w x.2)) :
    ((h.perform w x.2).part id).view = ((g.perform w' y.2).part id).view := by
  have hg' := hg.sound
  cases hPaired with
  | timer due =>
    show ((h.elapse w id).part id).view = ((g.elapse w' id).part id).view
    have hGets : Gets w id plan (h.elapse w id) := hGets
    cases hf : h.session? id with
    | none =>
      have hf' : g.session? id = none := Life.session_eq_none_of_view hView hf
      simpa only [Host.elapse, hf, hf'] using hView
    | some s =>
      obtain ⟨t, hf', -⟩ := Life.exists_session_of_view hView hf
      rw [show h.elapse w id = _ from act_elapse hf] at hGets ⊢
      have hf' : g.session? id = some t := hf'
      rw [show g.elapse w' id = _ from act_elapse hf']
      exact hs.view_fired hg' hw hView hNow hf hf' rfl
        (hs.plan_alone hg hView hf (.singleton rfl) hGets hAlone _)
  | @completion f f' hf hDue =>
    have hMem : f ∈ h.flights := by
      rcases mem_agenda_iff.mp hx with ⟨s, -, -, he⟩ | ⟨e, he, -, hItem⟩
      · cases he
      · cases hItem
        exact he
    have hMem' : f' ∈ g.flights := by
      rcases mem_agenda_iff.mp hy with ⟨s, -, -, he⟩ | ⟨e, he, -, hItem⟩
      · cases he
      · cases hItem
        exact he
    have hEditor : f.editor = id := by
      obtain ⟨pre, post, -, -, hFlights, -⟩ := hf.exists_split
      have hIn : f ∈ (h.part id).flights := by simp [hFlights]
      exact (mem_flights_part.mp hIn).2
    have hEditor' : f'.editor = id := hg.editor_of_flight hMem'
    show ((h.complete w f).part id).view = ((g.complete w' f').part id).view
    rw [hs.part_complete hMem, hg'.part_complete hMem', hEditor, hEditor', Function.update_self,
      Function.update_self]
    exact Life.view_complete hw hView (hs.nodup_part id) (hg'.nodup_part id) hf _ _

/-! ### The passing of time -/

theorem Alone.perform (hg : Alone id g) (hy : y ∈ g.agenda) (now : Nat) :
    Alone id (perform w { g with now } y.2) := by
  have hTick : Alone id { g with now } := hg.act (w := w) (a := .tick now) trivial (Or.inr rfl)
  obtain ⟨due, item⟩ := y
  rcases mem_agenda_iff.mp hy with ⟨s, hs, hDue, rfl⟩ | ⟨f, hf, -, rfl⟩
  · have hEditor := hg.editor_of_mem hs
    refine hTick.act (a := .elapse s.editor) ⟨s, ?_, isPending_of_due? hDue⟩
      (Or.inl (congrArg some hEditor))
    exact (session?_eq_some hg.sound.sorted).mpr ⟨hs, rfl⟩
  · exact hTick.act (a := .complete f) hf (Or.inl (congrArg some (hg.editor_of_flight hf)))

theorem Alone.advanceTo (hg : Alone id g) (time : Nat) : Alone id (g.advanceTo w time) := by
  have hSound : ∃ owner, Sound owner g := ⟨_, hg.sound⟩
  revert hg
  refine performDue_induct w time (P := fun g => Alone id g → Alone id (g.advanceTo w time))
    hSound ?_ ?_
  · intro g _ hNext hg
    rw [advanceTo_of_next?_none hNext]
    exact hg.act (w := w) (a := .tick time) trivial (Or.inr rfl)
  · intro g item hs hNext ih hg
    rw [advanceTo_of_next?_some hs hNext]
    exact ih (hg.perform (mem_of_next? hNext).1 item.1)

/-- An item about another editor leaves the part of an editor as it is. -/
theorem Sound.part_perform_of_ne (hs : Sound owner h) (hx : x ∈ h.agenda) (hOther : x.2.editor ≠ id)
    (now : Nat) : (perform w { h with now } x.2).part id = h.part id := by
  have hTick : Sound owner { h with now } := hs.aside now h.focused h.issued
  have hOther' : some x.2.editor ≠ some id := fun he => hOther (Option.some.inj he)
  obtain ⟨due, item⟩ := x
  rcases mem_agenda_iff.mp hx with ⟨s, hs', hDue, rfl⟩ | ⟨f, hf, -, rfl⟩
  · exact hTick.part_act_of_ne (a := .elapse s.editor)
      ⟨s, (session?_eq_some hs.sorted).mpr ⟨hs', rfl⟩, isPending_of_due? hDue⟩ hOther'
  · exact hTick.part_act_of_ne (a := .complete f) hf hOther'

/-- What is due first for an editor alone is what is due first for it among others. -/
theorem Sound.exists_next?_alone (hs : Sound owner h) (hg : Alone id g)
    (hView : (h.part id).view = (g.part id).view) (hNext : h.next? time = some x)
    (hOwn : x.2.editor = id) :
    ∃ y, g.next? time = some y ∧ Paired id (h.part id) (g.part id) x y := by
  obtain ⟨hEarliest, hDue⟩ := Option.filter_eq_some_iff.mp hNext
  have hFirst := earliest?_filter (p := (·.2.editor = id)) hEarliest (by simpa using hOwn)
  have hItems : List.Forall₂ (Paired id (h.part id) (g.part id)) (items id (h.part id))
      (items id (g.part id)) := paired_items hView
  have hRel := rel_earliest? (fun _ _ => Paired.time_eq) hItems
  rw [← agenda_filter hs.sorted, ← hg.agenda_eq, hFirst] at hRel
  obtain ⟨y, hy, hPaired⟩ : ∃ y, earliest? g.agenda = some y ∧ Paired id _ _ x y := by
    cases hEarliest' : earliest? g.agenda with
    | none =>
      rw [hEarliest'] at hRel
      cases hRel
    | some y =>
      rw [hEarliest'] at hRel
      cases hRel with
      | some hPaired => exact ⟨y, rfl, hPaired⟩
  refine ⟨y, Option.filter_eq_some_iff.mpr ⟨hy, ?_⟩, hPaired⟩
  rw [← hPaired.time_eq]
  exact hDue

theorem Sound.next?_alone_eq_none (hs : Sound owner h) (hg : Alone id g)
    (hView : (h.part id).view = (g.part id).view) (hNext : h.next? time = none) :
    g.next? time = none := by
  rw [next?_eq_none_iff] at hNext ⊢
  intro u hu
  have hPairs : List.Forall₂ (Paired id (h.part id) (g.part id)) (items id (h.part id))
      (items id (g.part id)) := paired_items hView
  rw [← agenda_filter hs.sorted, ← hg.agenda_eq] at hPairs
  obtain ⟨i, hi, rfl⟩ := List.getElem_of_mem hu
  have hi' : i < (h.agenda.filter (·.2.editor = id)).length := hPairs.length_eq ▸ hi
  have hPaired := (List.forall₂_iff_get.mp hPairs).2 i hi' hi
  have hlt := hNext _ (List.mem_of_mem_filter (List.getElem_mem hi'))
  have hTime := hPaired.time_eq
  simp only [List.get_eq_getElem] at hTime
  omega

/-- **Time makes the same of equal views.**  What happens to the other editors makes no
difference. -/
theorem Sound.view_advanceTo (hs : Sound owner h) (hg : Alone id g) (hw : w.Agrees w')
    (hAlone : ∀ run request, w'.plan run request = plan run)
    (hView : (h.part id).view = (g.part id).view) (time : Nat)
    (hGets : Gets w id plan (h.advanceTo w time)) :
    ((h.advanceTo w time).part id).view = ((g.advanceTo w' time).part id).view := by
  revert g
  refine performDue_induct w time (P := fun h => Gets w id plan (h.advanceTo w time) →
    ∀ {g : Host}, Alone id g → (h.part id).view = (g.part id).view →
      ((h.advanceTo w time).part id).view = ((g.advanceTo w' time).part id).view)
    ⟨owner, hs⟩ ?_ ?_ hGets
  · rintro h ⟨owner, hs⟩ hNext - g hg hView
    have hNext' := hs.next?_alone_eq_none hg hView hNext
    rw [advanceTo_of_next?_none hNext, advanceTo_of_next?_none hNext']
    exact hView
  · rintro h x ⟨owner, hs⟩ hNext ih hGets g hg hView
    have hx := (mem_of_next? hNext).1
    have hStep := advanceTo_of_next?_some (w := w) ⟨owner, hs⟩ hNext
    rw [hStep] at hGets ⊢
    by_cases hOwn : x.2.editor = id
    · obtain ⟨y, hNext', hPaired⟩ := hs.exists_next?_alone hg hView hNext hOwn
      have hy := (mem_of_next? hNext').1
      rw [advanceTo_of_next?_some ⟨_, hg.sound⟩ hNext']
      have hSound := exists_sound_perform (w := w) ⟨owner, hs⟩ hx x.1
      have hTick : Alone id { g with now := y.1 } :=
        hg.act (w := w) (a := .tick y.1) trivial (Or.inr rfl)
      refine ih hGets (hg.perform hy y.1) ?_
      exact (hs.aside x.1 h.focused h.issued).view_perform hTick hw hAlone hView hx hy hPaired
        hPaired.time_eq (hGets.anti (.advanceTo hSound time))
    · refine ih hGets hg ?_
      rw [hs.part_perform_of_ne hx hOwn]
      exact hView

end Host

end LiveLine
