import LiveLine.Proofs.Ownership
import LiveLine.Terminal.Screen
import Mathlib.Data.List.Induction

/-!
# What is printed bold

A terminal keeps one table of live highlights, by line, for all editors.  An inline text is printed
bold just when some editor has a highlight on its line by then, which was applied and not removed.
So the errors of one editor can be seen in what is printed for another.

* `Orderly.of_splits`, `Host.Reachable.orderly_calls`: all calls of a host are in order.
* `Screen.mem_highlights_drawAll`: the table of a terminal has what is live.
* `Host.Reachable.printed_bold_iff`: what is printed for an inline text, in every run of a host.
-/

namespace LiveLine

/-- Some highlight of an editor on a line was applied and not removed. -/
def Highlights (calls : List (EditorId × SurfaceCall)) (editor : EditorId) (line : Nat) : Prop :=
  ∃ id start stop color, (editor, .apply id (.highlight line start stop color)) ∈ calls ∧
    ∀ other, (other, .remove id) ∉ calls

namespace Screen

variable {calls : List SurfaceCall} {id : Decoration.Id} {line : Nat} {label : Text}

/-- The printed form of an inline text behind a label, bold or not. -/
def printed (label : Text) (line : Nat) (text color : Text) (isBold : Bool) : Text :=
  ((Color.ofName? color).map foreground).getD [] ++ (if isBold then bold else []) ++
    label ++ ':' :: Text.ofNat (line + 1) ++ text ++ reset ++ reset ++ ['\n']

theorem inlineText_eq (s : Screen) (line : Nat) (text color : Text) :
    s.inlineText line text color = printed s.label line text color (s.isHighlighted line) := rfl

/-- The two forms are not the same. -/
theorem printed_inj {text color : Text} {b b' : Bool} :
    printed label line text color b = printed label line text color b' ↔ b = b' := by
  refine ⟨fun hSame => ?_, fun hSame => by rw [hSame]⟩
  have hLength := congrArg List.length hSame
  simp only [printed, List.length_append, Nat.add_right_cancel_iff, Nat.add_left_cancel_iff]
    at hLength
  cases b <;> cases b' <;> simp [bold, escape] at hLength ⊢

@[simp] theorem label_draw (s : Screen) (call : SurfaceCall) : (s.draw call).label = s.label := by
  unfold draw
  split <;> rfl

@[simp] theorem label_drawAll (s : Screen) (calls : List SurfaceCall) :
    (s.drawAll calls).label = s.label := by
  induction calls generalizing s with
  | nil => rfl
  | cons call calls ih => exact (ih (s.draw call)).trans (label_draw s call)

theorem drawAll_reverse_cons (s : Screen) (call : SurfaceCall) (calls : List SurfaceCall) :
    s.drawAll (call :: calls).reverse = (s.drawAll calls.reverse).draw call := by
  simp [drawAll]

/-- The table of a terminal has the highlights that are live, with their lines. -/
theorem mem_highlights_drawAll (ho : Orderly calls) :
    (id, line) ∈ (drawAll { label } calls.reverse).highlights ↔
      (∃ start stop color, .apply id (.highlight line start stop color) ∈ calls) ∧
        .remove id ∉ calls := by
  induction calls with
  | nil => simp [drawAll]
  | cons call calls ih =>
    rw [drawAll_reverse_cons]
    cases call with
    | alert message => simpa [draw] using ih ho
    | remove removed =>
      simp only [draw, List.mem_filter, ih ho.2, List.mem_cons, SurfaceCall.remove.injEq,
        reduceCtorEq, false_or, not_or, decide_eq_true_eq, ne_eq]
      exact ⟨fun ⟨⟨hd, hr⟩, hne⟩ => ⟨hd, hne, hr⟩, fun ⟨hd, hne, hr⟩ => ⟨⟨hd, hr⟩, hne⟩⟩
    | apply applied d =>
      cases d with
      | inlineText => simpa [draw] using ih ho.2
      | highlight l start stop color =>
        -- a name that is applied now was not applied before, so it was not removed either
        have hNew : .remove applied ∉ calls := fun hRemove => by
          obtain ⟨d, hd⟩ := ho.2.exists_apply hRemove
          exact ho.1 d hd
        simp only [draw, List.mem_cons, ih ho.2, Prod.mk.injEq, SurfaceCall.apply.injEq,
          Decoration.highlight.injEq, reduceCtorEq, false_or]
        constructor
        · rintro (⟨rfl, rfl⟩ | ⟨⟨b, e, c, hd⟩, hRemove⟩)
          · exact ⟨⟨start, stop, color, Or.inl ⟨rfl, rfl, rfl, rfl, rfl⟩⟩, hNew⟩
          · exact ⟨⟨b, e, c, Or.inr hd⟩, hRemove⟩
        · rintro ⟨⟨b, e, c, ⟨rfl, rfl, -⟩ | hd⟩, hRemove⟩
          · exact Or.inl ⟨rfl, rfl⟩
          · exact Or.inr ⟨⟨b, e, c, hd⟩, hRemove⟩

end Screen

/-- Calls are in order if each of them is, after those before it. -/
theorem Orderly.of_splits {calls : List SurfaceCall}
    (hApply : ∀ before after id d, calls = before ++ .apply id d :: after →
      ∀ d', .apply id d' ∉ before)
    (hRemove : ∀ before after id, calls = before ++ .remove id :: after → IsLive before id) :
    Orderly calls.reverse := by
  induction calls using List.reverseRecOn with
  | nil => trivial
  | append_singleton calls call ih =>
    have hRest : Orderly calls.reverse := ih
      (fun before after id d hCalls => hApply before (after ++ [call]) id d (by simp [hCalls]))
      fun before after id hCalls => hRemove before (after ++ [call]) id (by simp [hCalls])
    rw [List.reverse_append, List.reverse_singleton, List.singleton_append]
    cases call with
    | apply id d =>
      exact ⟨fun d' hd' => hApply calls [] id d rfl d' (List.mem_reverse.mp hd'), hRest⟩
    | remove id => exact ⟨by simpa [IsLive] using hRemove calls [] id rfl, hRest⟩
    | alert message => exact hRest

namespace Host

variable {w : Setup} {h : Host} {label : Text} {editor : EditorId} {line : Nat}
  {before after : List (EditorId × SurfaceCall)}

/-- On a surface that never gives a name twice, the calls of all sessions together are in order. -/
theorem Reachable.orderly_calls (hIds : Function.Injective w.ids) (hr : Reachable w h) :
    Orderly (h.calls.map Prod.snd).reverse := by
  have hSplit : ∀ {earlier later : List SurfaceCall} {call : SurfaceCall},
      h.calls.map Prod.snd = earlier ++ call :: later →
        ∃ before editor after, h.calls = before ++ (editor, call) :: after ∧
          before.map Prod.snd = earlier := by
    intro earlier later call hCalls
    obtain ⟨before, rest, hBefore, hEarlier, hRest⟩ := List.map_eq_append_iff.mp hCalls
    obtain ⟨⟨editor, _⟩, after, rfl, rfl, -⟩ := List.map_eq_cons_iff.mp hRest
    exact ⟨before, editor, after, hBefore, hEarlier⟩
  refine .of_splits (fun earlier later id d hCalls d' hMem => ?_) fun earlier later id hCalls => ?_
  · obtain ⟨before, editor, after, hBefore, rfl⟩ := hSplit hCalls
    obtain ⟨⟨other, call⟩, hMem, rfl⟩ := List.mem_map.mp hMem
    exact hr.not_mem_of_apply hIds hBefore other d' hMem
  · obtain ⟨before, editor, after, hBefore, rfl⟩ := hSplit hCalls
    obtain ⟨⟨d, hd⟩, hRemove⟩ := hr.live_of_remove hIds hBefore
    refine ⟨⟨d, List.mem_map_of_mem (f := Prod.snd) hd⟩, fun hMem => ?_⟩
    obtain ⟨⟨other, call⟩, hMem, rfl⟩ := List.mem_map.mp hMem
    exact hRemove other hMem

/-- A terminal draws bold on a line where some editor has a highlight. -/
theorem isHighlighted_drawAll_iff (ho : Orderly (before.map Prod.snd).reverse) :
    (Screen.drawAll { label } (before.map Prod.snd)).isHighlighted line = true ↔
      ∃ editor, Highlights before editor line := by
  have hTable : ∀ id, (id, line) ∈ (Screen.drawAll { label }
      (before.map Prod.snd).reverse.reverse).highlights ↔ _ :=
    fun id => Screen.mem_highlights_drawAll ho
  simp only [List.reverse_reverse, List.mem_reverse, List.mem_map, Prod.exists,
    exists_eq_right] at hTable
  simp only [Screen.isHighlighted, List.any_eq_true, beq_iff_eq, Prod.exists, exists_eq_right,
    hTable]
  constructor
  · rintro ⟨id, ⟨start, stop, color, editor, hd⟩, hRemove⟩
    exact ⟨editor, id, start, stop, color, hd, fun other hMem => hRemove ⟨other, hMem⟩⟩
  · rintro ⟨editor, id, start, stop, color, hd, hRemove⟩
    exact ⟨id, ⟨start, stop, color, editor, hd⟩, fun ⟨other, hMem⟩ => hRemove other hMem⟩

/-- **An inline text is printed bold just when some editor has a highlight on its line.**  This
holds for every inline text that a host has applied, in whatever order runs have completed: what the
terminal writes for it is the text in its color behind label and line, bold just when at that moment
an editor has a highlight on the line that was applied for it and not removed.  So where no other
editor has one, it depends on the editor itself. -/
theorem Reachable.printed_bold_iff (hIds : Function.Injective w.ids) (hr : Reachable w h)
    (label : Text) {id : Decoration.Id} {column : Nat} {text color : Text}
    (hCalls : h.calls =
      before ++ (editor, .apply id (.inlineText line column text color)) :: after) :
    let screen := Screen.drawAll { label } (before.map Prod.snd)
    let drawn := screen.draw (.apply id (.inlineText line column text color))
    (∃ isBold, drawn.out = screen.out ++ Screen.printed label line text color isBold) ∧
    (drawn.out = screen.out ++ Screen.printed label line text color true ↔
      ∃ other, Highlights before other line) ∧
    ((∀ other, Highlights before other line → other = editor) →
      (drawn.out = screen.out ++ Screen.printed label line text color true ↔
        Highlights before editor line)) := by
  intro screen drawn
  have ho := hr.orderly_calls hIds
  rw [hCalls, List.map_append, List.reverse_append, List.map_cons, List.reverse_cons,
    List.append_assoc] at ho
  have hOut : drawn.out =
      screen.out ++ Screen.printed label line text color (screen.isHighlighted line) := by
    have hLabel : screen.label = label := Screen.label_drawAll { label } _
    rw [← hLabel, ← Screen.inlineText_eq]
    rfl
  have hBold : drawn.out = screen.out ++ Screen.printed label line text color true ↔
      ∃ other, Highlights before other line := by
    rw [hOut, List.append_cancel_left_eq, Screen.printed_inj,
      isHighlighted_drawAll_iff ho.of_append.of_append]
  refine ⟨⟨_, hOut⟩, hBold, fun hOnly => hBold.trans ⟨?_, fun hOwn => ⟨editor, hOwn⟩⟩⟩
  rintro ⟨other, hOther⟩
  exact hOnly other hOther ▸ hOther

/-- The first run fails, and any other says `2`. -/
def mixed : Setup :=
  { sample fun _ => 0 with
    plan := fun run _ =>
      { latency := 0
        result := if run = 0 then { failure := some "no".toList } else { stdout := ['2', '\n'] } } }

/-- The line of one editor has come to an error, and the same line of another has an output. -/
def neighbours : Host :=
  run mixed {} [.openEditor 1 ⟨⟨"f()".toList⟩, 0⟩, .openEditor 2 ⟨⟨"g()".toList⟩, 0⟩, .notify 1,
    .advance 10, .notify 2, .advance 10]

/-- What is shown for the error, behind the line, and what is shown for the output. -/
def errorText : Decoration := .inlineText 0 3 " # Error: no".toList "red".toList

def outputText : Decoration := .inlineText 0 3 " # Output: 2".toList "grey".toList

theorem calls_neighbours :
    neighbours.calls = neighbours.calls.take 1 ++ (1, .apply 2 errorText) ::
      neighbours.calls.drop 2 ∧
    neighbours.calls = neighbours.calls.take 3 ++ (2, .apply 3 outputText) :: [] := by
  decide +kernel

/-- The output of one editor is printed bold for the error of another, although its own editor has
no highlight. -/
theorem bold_for_other_editor :
    Reachable mixed neighbours ∧
      (let screen := Screen.drawAll { label := "x".toList } ((neighbours.calls.take 3).map Prod.snd)
      (screen.draw (.apply 3 outputText)).out =
        screen.out ++ Screen.printed "x".toList 0 " # Output: 2".toList "grey".toList true) ∧
      ¬ Highlights (neighbours.calls.take 3) 2 0 := by
  have hFirst : ∀ call ∈ neighbours.calls.take 3, call.1 = 1 := by decide +kernel
  refine ⟨.run _, by decide +kernel, ?_⟩
  rintro ⟨id, start, stop, color, hd, -⟩
  exact absurd (hFirst _ hd) (by simp)

theorem printed_bold_iff_neighbours :
    Function.Injective mixed.ids ∧ Reachable mixed neighbours ∧
      (∃ other, Highlights (neighbours.calls.take 3) other 0) ∧
      Highlights (neighbours.calls.take 1) 1 0 := by
  have hIds : Function.Injective mixed.ids := fun _ _ h => h
  have hr : Reachable mixed neighbours := .run _
  have hOnly : ∀ other, Highlights (neighbours.calls.take 1) other 0 → other = 1 := by
    have hFirst : ∀ call ∈ neighbours.calls.take 1, call.1 = 1 := by decide +kernel
    rintro other ⟨id, start, stop, color, hd, -⟩
    exact hFirst _ hd
  have hError := (hr.printed_bold_iff hIds "x".toList calls_neighbours.1).2.2 hOnly
  have hOutput := (hr.printed_bold_iff hIds "x".toList calls_neighbours.2).2.1
  exact ⟨hIds, hr, hOutput.mp (by decide +kernel), hError.mp (by decide +kernel)⟩

end Host

end LiveLine
