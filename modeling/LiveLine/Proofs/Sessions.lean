import LiveLine.Host
import Mathlib.Data.List.Basic

/-!
# Sessions by editor and by number

A host finds its sessions by their editors, and a run finds its session by its number.  This file
says what `put` and `remove` do to both ways of finding a session, on a list in the order of the
editors.

* `mem_insertSession`: after `insertSession` the list has the new session and those of the other
  editors.
* `find?_number_insertSession`: a session put in place of the one with its number changes what is
  found by that number only.
-/

namespace LiveLine

/-- Sessions in the strict order of their editors. -/
abbrev Sorted (ss : List Session) : Prop := ss.Pairwise fun s t => s.editor < t.editor

theorem Sorted.eq_of_editor {ss : List Session} (hSorted : Sorted ss) {s t : Session}
    (hs : s ∈ ss) (ht : t ∈ ss) (he : s.editor = t.editor) : s = t := by
  induction ss with
  | nil => simp at hs
  | cons u us ih =>
    obtain ⟨hu, hus⟩ := List.pairwise_cons.mp hSorted
    rcases List.mem_cons.mp hs with rfl | hs' <;> rcases List.mem_cons.mp ht with rfl | ht'
    · rfl
    · exact absurd he (Nat.ne_of_lt (hu t ht'))
    · exact absurd he.symm (Nat.ne_of_lt (hu s hs'))
    · exact ih hus hs' ht'

namespace Host

theorem mem_insertSession {s t : Session} {ss : List Session} (hSorted : Sorted ss) :
    t ∈ insertSession s ss ↔ t = s ∨ t ∈ ss ∧ t.editor ≠ s.editor := by
  induction ss with
  | nil => simp [insertSession]
  | cons u us ih =>
    obtain ⟨hu, hus⟩ := List.pairwise_cons.mp hSorted
    rw [insertSession]
    split
    · rename_i hlt
      have hOther : ∀ v ∈ u :: us, v.editor ≠ s.editor := by
        intro v hv
        rcases List.mem_cons.mp hv with rfl | hv
        · exact Nat.ne_of_gt hlt
        · exact Nat.ne_of_gt (Nat.lt_trans hlt (hu v hv))
      rw [List.mem_cons]
      exact or_congr_right ⟨fun h => ⟨h, hOther t h⟩, And.left⟩
    · split
      · rename_i heq
        have hOther : ∀ v ∈ us, v.editor ≠ s.editor :=
          fun v hv => heq ▸ Nat.ne_of_gt (hu v hv)
        rw [List.mem_cons, List.mem_cons]
        refine or_congr_right ⟨fun h => ⟨Or.inr h, hOther t h⟩, ?_⟩
        rintro ⟨rfl | h, hne⟩
        · exact absurd heq.symm hne
        · exact h
      · rename_i hne
        rw [List.mem_cons, List.mem_cons, ih hus]
        constructor
        · rintro (rfl | rfl | ⟨h, he⟩)
          · exact Or.inr ⟨Or.inl rfl, fun h => hne h.symm⟩
          · exact Or.inl rfl
          · exact Or.inr ⟨Or.inr h, he⟩
        · rintro (rfl | ⟨rfl | h, he⟩)
          · exact Or.inr (Or.inl rfl)
          · exact Or.inl rfl
          · exact Or.inr (Or.inr ⟨h, he⟩)

theorem sorted_insertSession {s : Session} {ss : List Session} (hSorted : Sorted ss) :
    Sorted (insertSession s ss) := by
  induction ss with
  | nil => simp [insertSession]
  | cons u us ih =>
    obtain ⟨hu, hus⟩ := List.pairwise_cons.mp hSorted
    rw [insertSession]
    split
    · rename_i hlt
      refine List.pairwise_cons.mpr ⟨fun v hv => ?_, hSorted⟩
      rcases List.mem_cons.mp hv with rfl | hv
      · exact hlt
      · exact Nat.lt_trans hlt (hu v hv)
    · split
      · rename_i heq
        exact List.pairwise_cons.mpr ⟨fun v hv => heq ▸ hu v hv, hus⟩
      · rename_i hle hne
        refine List.pairwise_cons.mpr ⟨fun v hv => ?_, ih hus⟩
        rcases (mem_insertSession hus).mp hv with rfl | ⟨hv, _⟩
        · exact Nat.lt_of_le_of_ne (Nat.le_of_not_lt hle) (fun h => hne h.symm)
        · exact hu v hv

theorem insertSession_of_lt {s : Session} {ss : List Session}
    (hlt : ∀ t ∈ ss, s.editor < t.editor) : insertSession s ss = s :: ss := by
  cases ss with
  | nil => rfl
  | cons t ts => rw [insertSession, if_pos (hlt t (List.mem_cons_self ..))]

/-- A session put where the one of its editor was removed takes the place of that one. -/
theorem insertSession_filter {s : Session} {ss : List Session} (hSorted : Sorted ss) :
    insertSession s (ss.filter (·.editor ≠ s.editor)) = insertSession s ss := by
  have hAll : ∀ us : List Session, (∀ u ∈ us, s.editor < u.editor) →
      us.filter (·.editor ≠ s.editor) = us := fun us hus =>
    List.filter_eq_self.mpr fun u hu => by simpa using Nat.ne_of_gt (hus u hu)
  induction ss with
  | nil => rfl
  | cons t ts ih =>
    obtain ⟨ht, hts⟩ := List.pairwise_cons.mp hSorted
    rcases Nat.lt_trichotomy s.editor t.editor with hlt | heq | hgt
    · rw [hAll]
      intro u hu
      rcases List.mem_cons.mp hu with rfl | hu
      · exact hlt
      · exact Nat.lt_trans hlt (ht u hu)
    · have hLater : ∀ u ∈ ts, s.editor < u.editor := fun u hu => heq ▸ ht u hu
      have hNot : ¬ s.editor < t.editor := Nat.not_lt.mpr (Nat.le_of_eq heq.symm)
      rw [List.filter_cons_of_neg (by simpa using heq.symm), hAll ts hLater,
        insertSession_of_lt hLater, insertSession, if_neg hNot, if_pos heq]
    · rw [List.filter_cons_of_pos (by simpa using Nat.ne_of_lt hgt), insertSession, insertSession,
        ih hts, if_neg (Nat.not_lt.mpr (Nat.le_of_lt hgt)), if_neg (Nat.ne_of_gt hgt),
        if_neg (Nat.not_lt.mpr (Nat.le_of_lt hgt)), if_neg (Nat.ne_of_gt hgt)]

/-- A session that takes its own place changes nothing. -/
theorem insertSession_self {s : Session} {ss : List Session} (hSorted : Sorted ss) (hs : s ∈ ss) :
    insertSession s ss = ss := by
  induction ss with
  | nil => exact absurd hs List.not_mem_nil
  | cons t ts ih =>
    obtain ⟨ht, hts⟩ := List.pairwise_cons.mp hSorted
    rcases List.mem_cons.mp hs with rfl | hs
    · rw [insertSession, if_neg (Nat.lt_irrefl _), if_pos rfl]
    · have hgt := ht s hs
      rw [insertSession, if_neg (Nat.not_lt.mpr (Nat.le_of_lt hgt)), if_neg (Nat.ne_of_gt hgt),
        ih hts hs]

/-- Of two sessions that take one place after the other, the second has it. -/
theorem insertSession_insertSession {s t : Session} (he : s.editor = t.editor)
    (ss : List Session) : insertSession t (insertSession s ss) = insertSession t ss := by
  induction ss with
  | nil => simp only [insertSession, he, Nat.lt_irrefl, if_false, if_true]
  | cons u us ih =>
    rw [insertSession, insertSession, he]
    split
    · rw [insertSession, he, if_neg (Nat.lt_irrefl _), if_pos rfl]
    · rename_i hge
      split
      · rw [insertSession, he, if_neg (Nat.lt_irrefl _), if_pos rfl]
      · rename_i hne
        rw [insertSession, if_neg hge, if_neg hne, ih]

/-- A session that takes the place of the one with its number is found by that number, and
nothing else changes. -/
theorem find?_number_insertSession {s : Session} {ss : List Session}
    (hPlace : ∀ t ∈ ss, t.editor = s.editor ↔ t.number = s.number) (n : Nat) :
    (insertSession s ss).find? (·.number = n) =
      if s.number = n then some s else ss.find? (·.number = n) := by
  induction ss with
  | nil => by_cases h : s.number = n <;> simp [insertSession, h]
  | cons u us ih =>
    have hu := hPlace u (List.mem_cons_self ..)
    have ih := ih fun t ht => hPlace t (List.mem_cons_of_mem u ht)
    rw [insertSession]
    split
    · by_cases h : s.number = n <;> simp [h]
    · split
      · rename_i heq
        have hn : u.number = s.number := hu.mp heq.symm
        by_cases h : s.number = n <;> simp [h, hn]
      · rename_i hne
        have hn : u.number ≠ s.number := fun h => hne (hu.mpr h).symm
        by_cases h : u.number = n
        · have hs : s.number ≠ n := fun hs => hn (h.trans hs.symm)
          simp [h, hs]
        · rw [List.find?_cons_of_neg (by simpa using h), ih,
            List.find?_cons_of_neg (by simpa using h)]

theorem session?_eq_some {h : Host} (hSorted : Sorted h.sessions) {id : EditorId} {s : Session} :
    h.session? id = some s ↔ s ∈ h.sessions ∧ s.editor = id := by
  constructor
  · intro hs
    exact ⟨List.mem_of_find?_eq_some hs, by simpa using List.find?_some hs⟩
  · rintro ⟨hm, rfl⟩
    cases hf : h.session? s.editor with
    | none => simpa using List.find?_eq_none.mp hf s hm
    | some t =>
      have ht : t.editor = s.editor := by simpa using List.find?_some hf
      rw [hSorted.eq_of_editor (List.mem_of_find?_eq_some hf) hm ht]

theorem session?_eq_none {h : Host} {id : EditorId} :
    h.session? id = none ↔ ∀ s ∈ h.sessions, s.editor ≠ id := by
  simp [session?]

end Host

end LiveLine
