import LiveLine.Runner
import Mathlib.Data.List.Basic

/-!
# The scratch file

A run writes its snippet to the scratch file, starts the interpreter on it and removes it.  Where a
path leads depends on the directories on the way, and these are the same after a file was written
or removed.  So what was written is read again, and what was removed is no longer there, whichever
run did it.

* `FileTree.Extends`: what a tree has is in another one, and directories stay directories.
* `FileTree.read?_of_write?`, `FileTree.hasPath_of_remove?`: what is written is read, and what is
  removed is gone.
* `Runner.read?_of_save`, `Runner.hasPath_of_cleanUp`: the same of the scratch file.
* `Runner.run_scratch`: a run by itself starts on its own snippet, and leaves no scratch file unless
  the removal fails.
-/

namespace LiveLine

namespace FileTree

variable {t t' : FileTree} {cwd place q : List Text} {p : Path} {content : Bytes}

/-! ### Nodes -/

/-- What is kept by its key is found as before. -/
theorem lookup_filter {α β : Type} [BEq α] [LawfulBEq α] (keeps : α → Bool)
    (l : List (α × β)) (key : α) :
    (l.filter (keeps ·.1)).lookup key = if keeps key then l.lookup key else none := by
  induction l with
  | nil => simp
  | cons e l ih =>
    obtain ⟨k, v⟩ := e
    rw [List.filter_cons]
    by_cases hKey : key = k
    · subst hKey
      cases hKeeps : keeps key with
      | true => simp
      | false => simpa [hKeeps] using ih
    · have hNot : (key == k) = false := beq_false_of_ne hKey
      cases keeps k <;> simp [List.lookup_cons, hNot, ih]

theorem node?_put (t : FileTree) (place : List Text) (n : FileNode) (q : List Text) :
    (t.put place n).node? q = if q ≠ [] ∧ q = place then some n else t.node? q := by
  have hKept := lookup_filter (fun k => decide (k ≠ place)) t.nodes q
  by_cases hRoot : q = []
  · simp [node?, hRoot]
  · by_cases hPlace : q = place
    · subst hPlace
      simp [node?, put, hRoot]
    · have hNot : (q == place) = false := beq_false_of_ne hPlace
      rw [if_pos (decide_eq_true hPlace)] at hKept
      simp only [node?, put, List.lookup_cons, hNot, hKept, hPlace, and_false, if_false]

theorem node?_erase (hPlace : place ≠ []) (q : List Text) :
    (t.erase place).node? q = if place <+: q then none else t.node? q := by
  have hKept := lookup_filter (fun k => !place.isPrefixOf k) t.nodes q
  by_cases hRoot : q = []
  · simp [node?, hRoot, hPlace]
  · rw [node?, if_neg hRoot, erase, hKept, node?, if_neg hRoot]
    by_cases hBelow : place <+: q
    · rw [if_pos hBelow, if_neg (by simpa using hBelow)]
    · have hPrefix : place.isPrefixOf q = false :=
        Bool.eq_false_iff.mpr (mt List.isPrefixOf_iff_prefix.mp hBelow)
      rw [if_neg hBelow, if_pos (by rw [hPrefix]; rfl)]

/-- What a tree has is in the other one, and its directories are directories there. -/
structure Extends (t t' : FileTree) : Prop where
  directory : ∀ q, t.node? q = some .directory → t'.node? q = some .directory
  isSome : ∀ q, (t.node? q).isSome → (t'.node? q).isSome

/-- A file is put where there is no directory. -/
theorem extends_put (content : Bytes) (executable : Bool)
    (hFile : t.node? place ≠ some .directory) :
    Extends t (t.put place (.file content executable)) where
  directory q hNode := by
    rw [node?_put, if_neg]
    · exact hNode
    · rintro ⟨-, rfl⟩
      exact hFile hNode
  isSome q hNode := by
    rw [node?_put]
    split
    · rfl
    · exact hNode

theorem extends_erase (hPlace : place ≠ []) : Extends (t.erase place) t where
  directory q hNode := by
    rw [node?_erase hPlace] at hNode
    split at hNode
    · cases hNode
    · exact hNode
  isSome q hNode := by
    rw [node?_erase hPlace] at hNode
    split at hNode
    · cases hNode
    · exact hNode

/-! ### Ways -/

/-- A way through a tree is one through a tree that has more. -/
theorem Extends.walk? (hExtends : Extends t t') {parts : List Text}
    (hWalk : t.walk? place parts = .ok q) : t'.walk? place parts = .ok q := by
  induction parts generalizing place with
  | nil => exact hWalk
  | cons part rest ih =>
    unfold FileTree.walk? at hWalk ⊢
    split at hWalk
    swap
    · cases hWalk
    rename_i hHere
    simp only [hExtends.directory place hHere]
    split_ifs at hWalk ⊢ with hStay hUp hLong
    · exact ih hWalk
    · exact ih hWalk
    · split at hWalk
      · rename_i n hNext
        obtain ⟨n', hNext'⟩ := Option.isSome_iff_exists.mp
          (hExtends.isSome _ (Option.isSome_iff_exists.mpr ⟨n, hNext⟩))
        simp only [hNext']
        exact ih hWalk
      · cases hWalk

theorem Extends.find? (hExtends : Extends t t') (hFind : t.find? cwd p = .ok q) :
    t'.find? cwd p = .ok q := by
  unfold FileTree.find? at hFind ⊢
  split_ifs at hFind ⊢
  · exact hExtends.walk? hFind
  · exact hExtends.walk? hFind

theorem walk?_append (t : FileTree) (place parts more : List Text) :
    t.walk? place (parts ++ more) = (t.walk? place parts).bind (t.walk? · more) := by
  induction parts generalizing place with
  | nil => rfl
  | cons part rest ih =>
    rw [List.cons_append, walk?, walk?]
    split
    · split_ifs
      · exact ih place
      · exact ih place.dropLast
      · rfl
      · split
        · exact ih (place ++ [part])
        · rfl
    · rfl

/-- No way leads to a place that is gone with all below it. -/
theorem walk?_ne_of_gone (hGone : ∀ q, place <+: q → t.node? q = none) {parts start : List Text}
    (hStart : parts ≠ [] ∨ ¬ place <+: start) : t.walk? start parts ≠ .ok place := by
  induction parts generalizing start with
  | nil =>
    intro hWalk
    obtain rfl : start = place := Except.ok.inj hWalk
    exact hStart.elim (· rfl) (· List.prefix_rfl)
  | cons part rest ih =>
    intro hWalk
    unfold walk? at hWalk
    split at hWalk
    swap
    · cases hWalk
    rename_i hHere
    have hOutside : ¬ place <+: start := fun hBelow => by simp [hGone start hBelow] at hHere
    split_ifs at hWalk
    · exact ih (Or.inr hOutside) hWalk
    · exact ih (Or.inr fun hBelow => hOutside (hBelow.trans start.dropLast_prefix)) hWalk
    · split at hWalk
      · rename_i n hNext
        exact ih (Or.inr fun hBelow => by simp [hGone _ hBelow] at hNext) hWalk
      · cases hWalk

/-! ### Writing and removing -/

theorem exists_of_bind_eq_ok {ε α β : Type} {x : Except ε α} {f : α → Except ε β} {b : β}
    (hBind : (x >>= f) = .ok b) : ∃ a, x = .ok a ∧ f a = .ok b := by
  cases x with
  | error e => cases hBind
  | ok a => exact ⟨a, rfl, hBind⟩

theorem read?_of_node? {executable : Bool} (hFind : t.find? cwd p = .ok place)
    (hNode : t.node? place = some (.file content executable)) : t.read? cwd p = .ok content := by
  rw [read?, hFind]
  simp only [bind, Except.bind, hNode]
  rfl

theorem find?_eq_walk? (t : FileTree) (cwd : List Text) (hZero : p.contains '\x00' = false)
    (hSome : p.isEmpty = false) :
    t.find? cwd p = t.walk? (if p.isAbsolute then [] else cwd) p.pieces := by
  rw [find?, hZero, hSome]
  rfl

/-- One step further down. -/
theorem walk?_singleton {name : Text} (hHere : t.node? place = some .directory)
    (hName : ¬ (name = [] ∨ name = ['.'])) (hUp : name ≠ "..".toList) :
    t.walk? place [name] =
      if 255 < name.byteLength then .error .nameTooLong
      else if (t.node? (place ++ [name])).isSome then .ok (place ++ [name])
      else .error .notFound := by
  have hStay : (name.isEmpty || decide (name = ['.'])) = false := by simpa using hName
  rw [walk?, hHere]
  simp only [hStay, hUp, Bool.false_eq_true, if_false]
  split
  · rfl
  · cases t.node? (place ++ [name]) <;> rfl

/-- A path that leads nowhere would lead to a new place in a directory that is there. -/
theorem exists_outer_of_target? (hTarget : t.target? cwd p = .ok place)
    (hNew : ∀ q, t.find? cwd p ≠ .ok q) :
    t.find? cwd p = .error .notFound ∧ p.isEmpty = false ∧ ∃ (outer : List Text) (name : Text),
      p.pieces = p.pieces.dropLast ++ [name] ∧ place = outer ++ [name] ∧
      ¬ (name = [] ∨ name = ['.']) ∧ name ≠ "..".toList ∧
      t.walk? (if p.isAbsolute then [] else cwd) p.pieces.dropLast = .ok outer ∧
      t.node? outer = some .directory := by
  unfold target? at hTarget
  split at hTarget
  · rename_i q hFind
    exact absurd hFind (hNew q)
  · rename_i hMissing
    dsimp only at hTarget
    split at hTarget
    · cases hTarget
    rename_i name hLast
    split at hTarget
    · cases hTarget
    rename_i hNone
    split at hTarget
    · cases hTarget
    rename_i hEmpty
    obtain ⟨outer, hOuter, hTarget⟩ := exists_of_bind_eq_ok hTarget
    split_ifs at hTarget with hDirectory
    simp only [Bool.or_eq_true, decide_eq_true_eq, not_or, Bool.not_eq_true] at hNone
    refine ⟨hMissing, hNone.1.1, outer, name, ?_, (Except.ok.inj hTarget).symm, ?_, hNone.2, hOuter,
      ?_⟩
    · exact (List.dropLast_append_getLast? name hLast).symm
    · rintro (rfl | rfl)
      · exact hEmpty rfl
      · exact hNone.1.2 rfl
    · cases hNode : t.node? outer with
      | none => simp [hNode] at hDirectory
      | some n =>
        cases n with
        | file content executable => simp [hNode, FileNode.isDirectory] at hDirectory
        | directory => rfl
  · cases hTarget

/-- A path leads to the place that it would lead to, once a file is there. -/
theorem find?_of_target? (hTarget : t.target? cwd p = .ok place)
    (hFile : t.node? place ≠ some .directory) (content : Bytes) (executable : Bool) :
    (t.put place (.file content executable)).find? cwd p = .ok place := by
  have hExtends := extends_put content executable hFile
  by_cases hNew : ∀ q, t.find? cwd p ≠ .ok q
  swap
  · obtain ⟨q, hFind⟩ := not_forall_not.mp hNew
    have hSame : t.target? cwd p = .ok q := by rw [target?, hFind]
    obtain rfl : q = place := Except.ok.inj (hSame.symm.trans hTarget)
    exact hExtends.find? hFind
  obtain ⟨hMissing, hSome, outer, name, hPieces, rfl, hName, hUp, hOuter, hHere⟩ :=
    exists_outer_of_target? hTarget hNew
  have hZero : p.contains '\x00' = false := by
    refine Bool.eq_false_iff.mpr fun hZero => ?_
    rw [find?, if_pos hZero] at hMissing
    cases hMissing
  have hShort : ¬ 255 < name.byteLength := by
    intro hLong
    rw [find?_eq_walk? t cwd hZero hSome, hPieces, walk?_append, hOuter, Except.bind,
      walk?_singleton hHere hName hUp, if_pos hLong] at hMissing
    cases hMissing
  have hThere : ((t.put (outer ++ [name]) (.file content executable)).node?
      (outer ++ [name])).isSome := by
    rw [node?_put, if_pos ⟨by simp, rfl⟩]
    rfl
  rw [find?_eq_walk? _ cwd hZero hSome, hPieces, walk?_append, hExtends.walk? hOuter, Except.bind,
    walk?_singleton (hExtends.directory _ hHere) hName hUp, if_neg hShort, if_pos hThere]

/-- A file is written by putting it at the place of its path, where there is no directory. -/
theorem exists_of_write? (hWrite : t.write? cwd p content = .ok t') :
    ∃ place, t.target? cwd p = .ok place ∧ t.node? place ≠ some .directory ∧
      ∃ executable, t' = t.put place (.file content executable) := by
  obtain ⟨place, hTarget, hWrite⟩ := exists_of_bind_eq_ok hWrite
  split at hWrite
  · cases hWrite
  · rename_i old executable hNode
    exact ⟨place, hTarget, by rw [hNode]; exact nofun, executable, (Except.ok.inj hWrite).symm⟩
  · rename_i hNode
    exact ⟨place, hTarget, by rw [hNode]; exact nofun, false, (Except.ok.inj hWrite).symm⟩

/-- **What is written to a path is read from it.** -/
theorem read?_of_write? (hWrite : t.write? cwd p content = .ok t') :
    t'.read? cwd p = .ok content := by
  obtain ⟨place, hTarget, hFile, executable, rfl⟩ := exists_of_write? hWrite
  have hPlace : place ≠ [] := by
    rintro rfl
    exact hFile rfl
  have hNode : (t.put place (.file content executable)).node? place =
      some (.file content executable) := by rw [node?_put, if_pos ⟨hPlace, rfl⟩]
  exact read?_of_node? (find?_of_target? hTarget hFile content executable) hNode

/-- **What is removed is no longer there.** -/
theorem hasPath_of_remove? (hRemove : t.remove? cwd p = .ok t') : t'.hasPath cwd p = false := by
  obtain ⟨place, hFind, hRemove⟩ := exists_of_bind_eq_ok hRemove
  split_ifs at hRemove with hDirectory
  obtain rfl := Except.ok.inj hRemove
  have hPlace : place ≠ [] := by
    rintro rfl
    exact hDirectory rfl
  have hGone : ∀ q, place <+: q → (t.erase place).node? q = none := fun q hBelow => by
    rw [node?_erase hPlace, if_pos hBelow]
  rw [hasPath]
  cases hFind' : (t.erase place).find? cwd p with
  | error e => rfl
  | ok q =>
    obtain rfl : q = place :=
      Except.ok.inj (((extends_erase hPlace).find? hFind').symm.trans hFind)
    unfold find? at hFind'
    split_ifs at hFind'
    all_goals exact absurd hFind' (walk?_ne_of_gone hGone (Or.inl (Text.splitOn_ne_nil '/' p)))

end FileTree

namespace Runner

variable {r : Runner} {around : Surroundings} {request : Request} {files files' : FileTree}

/-- Once a run has saved its snippet, the scratch file holds it, whatever it held before. -/
theorem read?_of_save (hSave : r.save around request files = .ok files') :
    files'.read? around.cwd r.scratchPath = .ok (Utf8.encode request.source) :=
  FileTree.read?_of_write? hSave

/-- Once a run has cleaned up, there is no scratch file, whichever run has written it. -/
theorem hasPath_of_cleanUp (hClean : r.cleanUp around files = .ok files') :
    files'.hasPath around.cwd r.scratchPath = false :=
  FileTree.hasPath_of_remove? hClean

/-- **A run by itself starts on its own snippet and leaves no scratch file.**  Where the snippet
cannot be written, nothing is started and the files stay as they are; a scratch file that cannot be
removed is marked. -/
theorem run_scratch (r : Runner) (around : Surroundings) (request : Request) :
    (∃ e, r.save around request around.files = .error e ∧
      (r.run around request).outcome = .failed (.write e.message) ∧
      (r.run around request).files = around.files) ∨
    ∃ files, r.save around request around.files = .ok files ∧
      (r.launch around files).files.read? around.cwd r.scratchPath =
        .ok (Utf8.encode request.source) ∧
      (r.run around request).outcome = (r.invoke around files).1 ∧
      ((r.run around request).files.hasPath around.cwd r.scratchPath = false ∨
        ∃ e, RunMark.removeFailed e ∈ (r.run around request).marks) := by
  cases hSave : r.save around request around.files with
  | error e =>
    rw [run_of_save_error hSave]
    exact Or.inl ⟨e, rfl, rfl, rfl⟩
  | ok files =>
    refine Or.inr ⟨files, rfl, read?_of_save hSave, outcome_run_of_save hSave, ?_⟩
    rw [run, hSave]
    cases hClean : r.cleanUp around (r.invoke around files).2.1 with
    | ok files' => exact Or.inl (by simpa [hClean] using hasPath_of_cleanUp hClean)
    | error e => exact Or.inr ⟨e, by simp [hClean]⟩

end Runner

end LiveLine
