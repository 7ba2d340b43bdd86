import LiveLine.Text.Basic
import Mathlib.Data.List.Basic

/-!
# The pieces of a text

A text that is cut at a character has a piece more than it has such characters.  Around each piece
stand those before it, each with the character behind it, and those after it, each with the
character in front.

* `splitOn_eq`: the pieces are those of the library's `List.splitOn`.
* `length_splitOn`: how many pieces there are.
* `splitOn_append`, `getLast?_splitOn_append`: cutting at one of the characters.
* `getLast?_splitOn`: the last piece ends as the text does.
* `not_mem_of_mem_splitOn`: no piece has the character.
* `joinWith_take_succ`, `joinWith_take_append`: the text through a piece, and what is after it.
-/

namespace LiveLine

namespace Text

variable {c : Char} {t u p : Text} {ps qs : List Text} {n : Nat}

theorem splitOn_eq (c : Char) (t : Text) : splitOn c t = List.splitOn c t := by
  induction t with
  | nil => rfl
  | cons x t ih =>
    rw [splitOn, ih, List.splitOn_cons_eq_if_modifyHead]
    obtain ⟨p, ps, hParts⟩ := List.exists_cons_of_ne_nil (List.splitOn_ne_nil c t)
    by_cases hx : x = c <;> simp [hx, hParts]

/-- There is a piece more than there are cuts. -/
theorem length_splitOn (c : Char) (t : Text) : (splitOn c t).length = t.count c + 1 := by
  induction t with
  | nil => rfl
  | cons x t ih =>
    obtain ⟨p, ps, hParts⟩ := List.exists_cons_of_ne_nil (splitOn_ne_nil c t)
    rw [hParts] at ih
    rw [splitOn, hParts]
    split_ifs with hx
    · rw [hx, List.count_cons_self, List.length_cons, ih]
    · rw [List.count_cons_of_ne hx, ← ih]
      rfl

theorem splitOn_append (c : Char) (t u : Text) :
    splitOn c (t ++ c :: u) = splitOn c t ++ splitOn c u := by
  rw [splitOn_eq, splitOn_eq, splitOn_eq, List.splitOn_append_cons_self]

theorem splitOn_of_not_mem (hText : c ∉ t) : splitOn c t = [t] := by
  rw [splitOn_eq, List.splitOn_eq_singleton hText]

theorem getLast?_splitOn_append (t : Text) (hText : c ∉ u) :
    (splitOn c (t ++ c :: u)).getLast? = some u := by
  rw [splitOn_append, splitOn_of_not_mem hText, List.getLast?_concat]

/-- The last piece of a text that does not end with the character ends as the text does. -/
theorem getLast?_splitOn {x : Char} (hx : x ≠ c) (t : Text) :
    ∃ p, (splitOn c (t ++ [x])).getLast? = some (p ++ [x]) := by
  induction t with
  | nil => exact ⟨[], by simp [splitOn, hx]⟩
  | cons y t ih =>
    obtain ⟨p, hLast⟩ := ih
    rw [List.cons_append, splitOn]
    rcases hParts : splitOn c (t ++ [x]) with _ | ⟨q, qs⟩
    · exact absurd hParts (splitOn_ne_nil c _)
    · rw [hParts] at hLast
      split_ifs with hy
      · exact ⟨p, by rw [List.getLast?_cons_cons, hLast]⟩
      · rcases qs with _ | ⟨q', qs⟩
        · obtain rfl : q = p ++ [x] := by simpa using hLast
          exact ⟨y :: p, rfl⟩
        · refine ⟨p, ?_⟩
          rw [List.getLast?_cons_cons] at hLast ⊢
          exact hLast

theorem not_mem_of_mem_splitOn (hp : p ∈ splitOn c t) : c ∉ p := by
  induction t generalizing p with
  | nil =>
    obtain rfl : p = [] := by simpa [splitOn] using hp
    exact List.not_mem_nil
  | cons x t ih =>
    obtain ⟨q, qs, hParts⟩ := List.exists_cons_of_ne_nil (splitOn_ne_nil c t)
    rw [hParts] at ih
    rw [splitOn, hParts] at hp
    split_ifs at hp with hx
    · rcases List.mem_cons.mp hp with rfl | hp
      · exact List.not_mem_nil
      · exact ih hp
    · rcases List.mem_cons.mp hp with rfl | hp
      · intro hMem
        rcases List.mem_cons.mp hMem with hc | hMem
        · exact hx hc.symm
        · exact ih List.mem_cons_self hMem
      · exact ih (List.mem_cons_of_mem _ hp)

theorem joinWith_cons (c : Char) (p : Text) (ps : List Text) :
    joinWith c (p :: ps) = p ++ ps.flatMap (c :: ·) := by
  induction ps generalizing p with
  | nil => simp [joinWith]
  | cons q qs ih => rw [joinWith, ih, List.flatMap_cons, List.cons_append]

theorem joinWith_append (ps : List Text) (hMore : qs ≠ []) :
    joinWith c (ps ++ qs) = ps.flatMap (· ++ [c]) ++ joinWith c qs := by
  induction ps with
  | nil => rfl
  | cons p ps ih =>
    obtain ⟨q, rest, hCons⟩ :=
      List.exists_cons_of_ne_nil (List.append_ne_nil_of_right_ne_nil ps hMore)
    rw [List.cons_append, hCons, joinWith, ← hCons, ih]
    simp

theorem exists_close_eq (c : Char) (hMore : ps ≠ []) :
    ∃ u : Text, ps.flatMap (· ++ [c]) = u ++ [c] := by
  obtain ⟨qs, q, rfl⟩ := (List.eq_nil_or_concat ps).resolve_left hMore
  exact ⟨qs.flatMap (· ++ [c]) ++ q, by simp⟩

/-! ### Around a piece -/

theorem take_succ_of_piece (hPiece : (splitOn c t)[n]? = some p) :
    (splitOn c t).take (n + 1) = (splitOn c t).take n ++ [p] := by
  rw [List.take_add_one, hPiece]
  rfl

/-- The text through a piece: the pieces before it with the character behind each, and the piece. -/
theorem joinWith_take_succ (hPiece : (splitOn c t)[n]? = some p) :
    joinWith c ((splitOn c t).take (n + 1)) = ((splitOn c t).take n).flatMap (· ++ [c]) ++ p := by
  rw [take_succ_of_piece hPiece, joinWith_append _ (List.cons_ne_nil p [])]
  rfl

/-- **The text around a piece.**  It is the text through the piece, and behind that the pieces after
it with the character in front of each. -/
theorem joinWith_take_append (hPiece : (splitOn c t)[n]? = some p) :
    joinWith c ((splitOn c t).take (n + 1)) ++
      ((splitOn c t).drop (n + 1)).flatMap (c :: ·) = t := by
  have hParts : (splitOn c t).take n ++ p :: (splitOn c t).drop (n + 1) = splitOn c t := by
    have hTake := List.take_append_drop (n + 1) (splitOn c t)
    rwa [take_succ_of_piece hPiece, List.append_assoc] at hTake
  calc joinWith c ((splitOn c t).take (n + 1)) ++ ((splitOn c t).drop (n + 1)).flatMap (c :: ·)
      = ((splitOn c t).take n).flatMap (· ++ [c]) ++
          joinWith c (p :: (splitOn c t).drop (n + 1)) := by
        rw [joinWith_take_succ hPiece, joinWith_cons, List.append_assoc]
    _ = joinWith c (splitOn c t) := by rw [← joinWith_append _ (List.cons_ne_nil p _), hParts]
    _ = t := joinWith_splitOn c t

end Text

end LiveLine
