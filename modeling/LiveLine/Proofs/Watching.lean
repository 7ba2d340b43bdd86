import LiveLine.FileWatch
import LiveLine.Script
import LiveLine.Proofs.Evaluations
import LiveLine.Proofs.Scratch
import LiveLine.Proofs.Scripts

/-!
# Watching a script

Three parties are at work while a script is watched.  Somebody writes the file; the watch forwards
each report of a write through a bounded channel, or drops it when the channel is full; and the
event loop hands the events to the session of the script, whose timer has the file read and its
cursor line evaluated when changes have settled.  They take turns in any order.  A report that is
dropped does no harm: the channel was full of others, and the file is read after those.

* `Watching.take`: what the parties do.
* `Watching.Course`: what they have done, with the states in which it was done.
* `Watching.Course.write`: what is written to the file that is watched is a move of such a course.
* `Watchful`: what every move keeps.
* `Course.drops_harmless`: once all is calm, the last evaluation has seen the last write.
-/

namespace LiveLine

/-! ### The parties and their moves -/

/-- A script that is watched. -/
structure Watching where
  watch : FileWatch
  /-- The line that the cursor is pinned to. -/
  pinned : Option Nat := none
  /-- What the file holds, if it can be read. -/
  content : Option Bytes
  /-- How many reports of writes are still to be forwarded. -/
  owed : Nat := 0
  channel : Channel
  host : Host

namespace Watching

def editor (x : Watching) : EditorId := x.watch.editor

def snapshot (x : Watching) : Snapshot := Snapshot.ofFile x.content x.pinned

/-- The host when the editor shows what the file holds now. -/
def refresh (x : Watching) : Host :=
  x.host.edit x.editor (some x.snapshot.document.text) (some x.snapshot.cursor)

/-- Whether the timer of the script is pending. -/
def isAwaiting (x : Watching) : Bool :=
  (x.host.session? x.editor).any fun s => s.timer.isPending

/-- What a party can do. -/
inductive Move where
  /-- The file is written, which the watch will report so many times. -/
  | write (content : Bytes) (reports : Nat)
  /-- The watch sends a report to the event loop, unless the channel is full. -/
  | forward
  /-- The event loop takes the oldest event off the channel and handles it. -/
  | receive
  /-- The timer elapses, and the file is evaluated as it is now. -/
  | elapse
  /-- The file is evaluated at once, as it is when watching begins. -/
  | begin
  /-- A run completes, and is presented against the file as it is now. -/
  | complete (flight : Flight)
  | tick (now : Nat)

/-- When a party can do something. -/
def Move.Possible (x : Watching) : Move → Prop
  | write _ reports => 0 < reports
  | forward => 0 < x.owed
  | receive => x.channel.queue ≠ []
  | elapse => x.isAwaiting = true
  | complete f => f ∈ x.host.flights
  | begin | tick _ => True

/-- Whether the file is read for an evaluation. -/
def Move.isFire : Move → Bool
  | elapse | begin => true
  | _ => false

/-- What the file is filled with. -/
def Move.written? : Move → Option Bytes
  | write content _ => some content
  | _ => none

/-- Handles the oldest event in the channel. -/
def receive (x : Watching) : Watching :=
  match x.channel.receive? with
  | some (.editor e, channel) => { x with channel, host := x.host.handle e }
  | some (.shutdown, channel) => { x with channel, host := x.host.shutdown }
  | none => x

def take (w : Setup) (x : Watching) : Move → Watching
  | .write content reports => { x with content := some content, owed := x.owed + reports }
  | .forward => { x with owed := x.owed - 1, channel := x.channel.offer x.watch.event }
  | .receive => x.receive
  | .elapse => { x with host := x.refresh.elapse w x.editor }
  | .begin => { x with host := x.refresh.begin w x.editor }
  | .complete f => { x with host := x.refresh.complete w f }
  | .tick now => { x with host := { x.host with now } }

/-- A script that is opened, with a channel to its event loop. -/
def start (w : Setup) (watch : FileWatch) (pinned : Option Nat) (content : Option Bytes)
    (capacity : Nat) : Watching where
  watch
  pinned
  content
  channel := { capacity }
  host := Host.openEditor w {} watch.editor (Snapshot.ofFile content pinned)

/-- A move, and the state in which it is made. -/
structure Deed where
  state : Watching
  move : Move

/-- The moves that lead from one state to another, the last one first. -/
inductive Course (w : Setup) (x : Watching) : List Deed → Watching → Prop
  | nil : Course w x [] x
  | cons {c : List Deed} {y : Watching} (prior : Course w x c y) (m : Move)
      (possible : m.Possible y) : Course w x (⟨y, m⟩ :: c) (y.take w m)

/-- The moves since the last evaluation. -/
def sinceFire (c : List Deed) : List Deed := c.takeWhile fun d => !d.move.isFire

/-- The last evaluation came after the last write. -/
def UpToDate (c : List Deed) : Prop := ∀ d ∈ sinceFire c, d.move.written? = none

/-- What was read of the file for the last evaluation. -/
def lastSnapshot? (c : List Deed) : Option Snapshot :=
  (c.find? (·.move.isFire)).map (·.state.snapshot)

/-- What the file was last filled with. -/
def lastWrite? (c : List Deed) : Option Bytes := c.findSome? fun d => d.move.written?

section

variable {owner : Nat → EditorId} {w : Setup} {x y : Watching} {c : List Deed} {m : Move}
  {s : Session} {watch : FileWatch} {pinned : Option Nat} {content : Option Bytes}
  {capacity : Nat}

/-- **A write to the file that is watched is a move.**  The watch reports it as often as it says, and
then the file holds what the state has. -/
theorem Course.write {t t' : FileTree} {cwd place : List Text} {path : Path} {bytes : Bytes}
    (hc : Course w x c y) (hPlace : t.target? cwd path = .ok place)
    (hConcerns : y.watch.concerns place = true) (hWrite : t.write? cwd path bytes = .ok t') :
    let m := Move.write bytes (y.watch.reports t cwd (.write path bytes))
    Course w x (⟨y, m⟩ :: c) (y.take w m) ∧
      (t'.read? cwd path).toOption = (y.take w m).content := by
  obtain ⟨place', hPlace', hFile, -⟩ := FileTree.exists_of_write? hWrite
  obtain rfl : place = place' := Except.ok.inj (hPlace.symm.trans hPlace')
  have hReports := FileWatch.reports_write_pos (congrArg Except.toOption hPlace) hConcerns hFile bytes
  exact ⟨hc.cons _ hReports, congrArg Except.toOption (FileTree.read?_of_write? hWrite)⟩

/-! ### What moves do to the order of events -/

theorem sinceFire_fire (hFire : m.isFire = true) : sinceFire (⟨x, m⟩ :: c) = [] := by
  rw [sinceFire, List.takeWhile_cons_of_neg (by simp [hFire])]

theorem sinceFire_other (hOther : m.isFire = false) :
    sinceFire (⟨x, m⟩ :: c) = ⟨x, m⟩ :: sinceFire c := by
  rw [sinceFire, List.takeWhile_cons_of_pos (by simp [hOther])]
  rfl

theorem upToDate_fire (hFire : m.isFire = true) : UpToDate (⟨x, m⟩ :: c) := by
  intro d hd
  rw [sinceFire_fire hFire] at hd
  cases hd

theorem upToDate_other (hFire : m.isFire = false) (hWrite : m.written? = none) :
    UpToDate (⟨x, m⟩ :: c) ↔ UpToDate c := by
  simp only [UpToDate, sinceFire_other hFire, List.forall_mem_cons, hWrite, true_and]

theorem lastSnapshot?_fire (hFire : m.isFire = true) :
    lastSnapshot? (⟨x, m⟩ :: c) = some x.snapshot := by
  rw [lastSnapshot?, List.find?_cons_of_pos (by simp [hFire]), Option.map_some]

theorem lastSnapshot?_other (hOther : m.isFire = false) :
    lastSnapshot? (⟨x, m⟩ :: c) = lastSnapshot? c := by
  rw [lastSnapshot?, List.find?_cons_of_neg (by simp [hOther]), lastSnapshot?]

/-! ### What every move keeps -/

/-- What holds while a script is watched: its session is open and focused, the channel holds
reports only, and no write goes unnoticed. -/
structure Watchful (w : Setup) (c : List Deed) (x : Watching) : Prop where
  sound : ∃ owner, Host.Sound owner x.host
  capacity : 0 < x.channel.capacity
  queue : ∀ e ∈ x.channel.queue, e = x.watch.event
  focused : x.host.focused = some x.editor
  isOpen : Life.IsOpen (x.host.part x.editor)
  noticed : 0 < x.owed ∨ UpToDate c ∨ x.channel.queue ≠ [] ∨ x.isAwaiting = true
  evaluated : (x.host.part x.editor).last? Happening.evaluation? =
    (lastSnapshot? c).map (Snapshot.evaluation w)

/-- Reading the file changes what the editor shows, and nothing else. -/
theorem part_refresh (hs : Host.Sound owner x.host) (hf : x.host.session? x.editor = some s) :
    x.refresh.part x.editor = (x.host.part x.editor).hold { s with snapshot := x.snapshot } := by
  rw [refresh, hs.part_edit hf, Function.update_self]
  rfl

theorem focused_refresh (w : Setup) (x : Watching) : x.refresh.focused = x.host.focused :=
  (Host.aside_act (w := w) (a := .edit x.editor (some x.snapshot.document.text)
    (some x.snapshot.cursor)) trivial).2

theorem flights_refresh (x : Watching) : x.refresh.flights = x.host.flights := by
  unfold refresh Host.edit
  split <;> rfl

theorem sound_initial : Host.Sound (fun _ => 0) {} := Host.Sound.initial

theorem part_start (w : Setup) (watch : FileWatch) (pinned : Option Nat) (content : Option Bytes)
    (capacity : Nat) :
    (start w watch pinned content capacity).host.part watch.editor =
      (Life.hold {} (w.session 0 watch.editor (Snapshot.ofFile content pinned))).record
        [.opened] := by
  have hPart := Host.Sound.part_openEditor (w := w) sound_initial
    (show Host.session? {} watch.editor = none from rfl) (Snapshot.ofFile content pinned)
  exact (congrFun hPart watch.editor).trans (Function.update_self ..)

theorem watchful_start (w : Setup) (watch : FileWatch) (pinned : Option Nat)
    (content : Option Bytes) {capacity : Nat} (hCapacity : 0 < capacity) :
    Watchful w [] (start w watch pinned content capacity) where
  sound := ⟨_, sound_initial.openEditor rfl _⟩
  capacity := hCapacity
  queue _ he := absurd he List.not_mem_nil
  focused := rfl
  isOpen := ⟨_, congrArg Life.session (part_start w watch pinned content capacity), rfl⟩
  noticed := Or.inr (Or.inl fun _ hd => absurd hd List.not_mem_nil)
  evaluated := congrArg (Life.last? Happening.evaluation?)
    (part_start w watch pinned content capacity)

namespace Watchful

theorem write (hx : Watchful w c x) (content : Bytes) {reports : Nat} (hReports : 0 < reports) :
    Watchful w (⟨x, .write content reports⟩ :: c) (x.take w (.write content reports)) :=
  { hx with
    noticed := Or.inl (Nat.add_pos_right _ hReports)
    evaluated := hx.evaluated.trans (congrArg _ (lastSnapshot?_other rfl).symm) }

theorem forward (hx : Watchful w c x) :
    Watchful w (⟨x, .forward⟩ :: c) (x.take w .forward) := by
  have hQueue : (x.channel.offer x.watch.event).queue ≠ [] ∧
      ∀ e ∈ (x.channel.offer x.watch.event).queue, e = x.watch.event := by
    unfold Channel.offer
    split
    · refine ⟨by simp, fun e he => ?_⟩
      rcases List.mem_append.mp he with he | he
      · exact hx.queue e he
      · exact List.mem_singleton.mp he
    · -- the channel is full, and so not empty
      rename_i hFull
      refine ⟨fun hEmpty => hFull ?_, hx.queue⟩
      rw [show x.channel.queue = [] from hEmpty]
      exact hx.capacity
  have hCapacity : (x.channel.offer x.watch.event).capacity = x.channel.capacity := by
    unfold Channel.offer
    split <;> rfl
  exact { hx with
    capacity := hCapacity ▸ hx.capacity
    queue := hQueue.2
    noticed := Or.inr (Or.inr (Or.inl hQueue.1))
    evaluated := hx.evaluated.trans (congrArg _ (lastSnapshot?_other rfl).symm) }

/-- The event loop schedules an evaluation for a report. -/
theorem receive (hx : Watchful w c x) (hSome : x.channel.queue ≠ []) :
    Watchful w (⟨x, .receive⟩ :: c) (x.take w .receive) := by
  obtain ⟨owner, hs⟩ := hx.sound
  obtain ⟨s, hf, hDisposed⟩ := hx.isOpen
  obtain ⟨e, rest, hQueue⟩ := List.exists_cons_of_ne_nil hSome
  have hEvent : e = x.watch.event := hx.queue e (hQueue ▸ List.mem_cons_self ..)
  have hHandle : x.host.handle ⟨.textChanged, x.editor⟩ = x.host.notify x.editor := by
    have hSession : x.host.session? x.editor = some s := hf
    simp [Host.handle, Host.route, hSession, hx.focused]
  have hTake : x.take w .receive =
      { x with channel := { x.channel with queue := rest }, host := x.host.notify x.editor } := by
    rw [← hHandle]
    simp only [take, Watching.receive, Channel.receive?, hQueue, hEvent]
    rfl
  have hPart := congrFun (hs.part_notify hf hDisposed) x.editor
  rw [Function.update_self] at hPart
  rw [hTake]
  refine ⟨⟨owner, hs.notify x.editor⟩, hx.capacity, fun e he => hx.queue e ?_, ?_, ?_, ?_, ?_⟩
  · rw [hQueue]
    exact List.mem_cons_of_mem _ he
  · exact (Host.aside_act (w := w) (a := .notify x.editor) trivial).2.trans hx.focused
  · exact ⟨_, congrArg Life.session hPart, hDisposed⟩
  · have hSession : (x.host.notify x.editor).session? x.editor = _ := congrArg Life.session hPart
    refine Or.inr (Or.inr (Or.inr ?_))
    show ((x.host.notify x.editor).session? x.editor).any _ = true
    rw [hSession]
    rfl
  · have hLast : ((x.host.notify x.editor).part x.editor).last? Happening.evaluation? =
        (x.host.part x.editor).last? Happening.evaluation? := by
      rw [hPart]
      exact Life.last?_record Happening.reading_evaluation? (Happening.quiet_scheduled s)
    rw [lastSnapshot?_other rfl]
    exact hLast.trans hx.evaluated

/-- An evaluation sees what the file holds. -/
theorem fire (hx : Watchful w c x) (hFire : m.isFire = true) {h : Host}
    (hTake : x.take w m = { x with host := h }) (hSound : ∃ owner, Host.Sound owner h)
    (hFocused : h.focused = x.refresh.focused)
    (hEvaluation : (h.part x.editor).last? Happening.evaluation? =
      some (x.snapshot.evaluation w) ∧ Life.IsOpen (h.part x.editor)) :
    Watchful w (⟨x, m⟩ :: c) (x.take w m) := by
  rw [hTake]
  exact {
    sound := hSound
    capacity := hx.capacity
    queue := hx.queue
    focused := (hFocused.trans (focused_refresh w x)).trans hx.focused
    isOpen := hEvaluation.2
    noticed := Or.inr (Or.inl (upToDate_fire hFire))
    evaluated := by
      rw [lastSnapshot?_fire hFire]
      exact hEvaluation.1 }

theorem begin (hx : Watchful w c x) : Watchful w (⟨x, .begin⟩ :: c) (x.take w .begin) := by
  obtain ⟨owner, hs⟩ := hx.sound
  obtain ⟨s, hf, hDisposed⟩ := hx.isOpen
  have hRefresh : Host.Sound owner x.refresh := hs.edit x.editor _ _
  have hf' : x.refresh.session? x.editor = some { s with snapshot := x.snapshot } :=
    congrArg Life.session (part_refresh hs hf)
  have hBegin : x.refresh.begin w x.editor = _ := Host.act_begin hf'
  refine hx.fire rfl rfl ⟨owner, (hRefresh.cancelTimer _).fire _⟩ ?_ ?_
  · exact (Host.aside_act (a := .begin x.editor) trivial).2
  · rw [hBegin]
    exact hRefresh.evaluation_fired hf' hDisposed _

theorem elapse (hx : Watchful w c x) : Watchful w (⟨x, .elapse⟩ :: c) (x.take w .elapse) := by
  obtain ⟨owner, hs⟩ := hx.sound
  obtain ⟨s, hf, hDisposed⟩ := hx.isOpen
  have hRefresh : Host.Sound owner x.refresh := hs.edit x.editor _ _
  have hf' : x.refresh.session? x.editor = some { s with snapshot := x.snapshot } :=
    congrArg Life.session (part_refresh hs hf)
  have hElapse : x.refresh.elapse w x.editor = _ := Host.act_elapse hf'
  refine hx.fire rfl rfl ⟨owner, hRefresh.elapse _⟩ ?_ ?_
  · exact (Host.aside_act (a := .elapse x.editor) trivial).2
  · rw [hElapse]
    exact hRefresh.evaluation_fired hf' hDisposed _

theorem complete (hx : Watchful w c x) {f : Flight} (hf : f ∈ x.host.flights) :
    Watchful w (⟨x, .complete f⟩ :: c) (x.take w (.complete f)) := by
  obtain ⟨owner, hs⟩ := hx.sound
  obtain ⟨s, hOpen, hDisposed⟩ := hx.isOpen
  have hRefresh : Host.Sound owner x.refresh := hs.edit x.editor _ _
  have hFlight : f ∈ x.refresh.flights := flights_refresh x ▸ hf
  have hRead := part_refresh hs hOpen
  obtain ⟨⟨t, ht, hTimer, hOn⟩, hLast⟩ : (∃ t, ((x.refresh.complete w f).part x.editor).session =
      some t ∧ t.timer = s.timer ∧ t.disposed = s.disposed) ∧
        ((x.refresh.complete w f).part x.editor).last? Happening.evaluation? =
          (x.host.part x.editor).last? Happening.evaluation? := by
    rw [hRefresh.part_complete hFlight]
    by_cases he : f.editor = x.editor
    · rw [he, Function.update_self, hRead]
      have hSession : ((x.host.part x.editor).hold { s with snapshot := x.snapshot }).session =
          some { s with snapshot := x.snapshot } := rfl
      exact Host.keeps_complete hSession _ f
    · rw [Function.update_of_ne (Ne.symm he), hRead]
      exact ⟨⟨_, rfl, rfl, rfl⟩, rfl⟩
  have hAwaiting : (x.take w (.complete f)).isAwaiting = x.isAwaiting := by
    have hSession : (x.refresh.complete w f).session? x.editor = some t := ht
    have hBefore : x.host.session? x.editor = some s := hOpen
    show ((x.refresh.complete w f).session? x.editor).any _ = (x.host.session? x.editor).any _
    rw [hSession, hBefore, Option.any_some, Option.any_some, hTimer]
  have hFocused : (x.refresh.complete w f).focused = x.refresh.focused :=
    (Host.aside_act (a := .complete f) trivial).2
  refine ⟨⟨owner, hRefresh.complete hFlight⟩, hx.capacity, hx.queue,
    (hFocused.trans (focused_refresh w x)).trans hx.focused, ⟨t, ht, hOn.trans hDisposed⟩, ?_, ?_⟩
  · rw [hAwaiting]
    exact hx.noticed.imp_right (Or.imp_left (upToDate_other rfl rfl).mpr)
  · rw [lastSnapshot?_other rfl]
    exact hLast.trans hx.evaluated

theorem tick (hx : Watchful w c x) (now : Nat) :
    Watchful w (⟨x, .tick now⟩ :: c) (x.take w (.tick now)) := by
  obtain ⟨owner, hs⟩ := hx.sound
  exact { hx with
    sound := ⟨owner, hs.aside now x.host.focused x.host.issued⟩
    noticed := hx.noticed.imp_right (Or.imp_left (upToDate_other rfl rfl).mpr)
    evaluated := hx.evaluated.trans (congrArg _ (lastSnapshot?_other rfl).symm) }

/-- **No move leaves a write unnoticed.** -/
theorem take (hx : Watchful w c x) (m : Move) (possible : m.Possible x) :
    Watchful w (⟨x, m⟩ :: c) (x.take w m) := by
  cases m with
  | write content reports => exact hx.write content possible
  | forward => exact hx.forward
  | receive => exact hx.receive possible
  | elapse => exact hx.elapse
  | begin => exact hx.begin
  | complete f => exact hx.complete possible
  | tick now => exact hx.tick now

end Watchful

/-! ### Courses of moves -/

theorem Course.watchful (hx : Watchful w [] x) (hc : Course w x c y) : Watchful w c y := by
  induction hc with
  | nil => exact hx
  | cons _ m possible ih => exact ih.take m possible

theorem pinned_take (w : Setup) (x : Watching) (m : Move) : (x.take w m).pinned = x.pinned := by
  cases m with
  | receive =>
    show x.receive.pinned = x.pinned
    unfold receive
    split <;> rfl
  | _ => rfl

theorem content_take (w : Setup) (x : Watching) (m : Move) :
    (x.take w m).content = m.written?.or x.content := by
  cases m with
  | receive =>
    show x.receive.content = x.content
    unfold receive
    split <;> rfl
  | _ => rfl

theorem Course.pinned_eq (hc : Course w x c y) : y.pinned = x.pinned := by
  induction hc with
  | nil => rfl
  | cons _ m _ ih => rw [pinned_take, ih]

/-- The file holds what was written last. -/
theorem Course.content_eq (hc : Course w x c y) : y.content = (lastWrite? c).or x.content := by
  induction hc with
  | nil => rfl
  | @cons c y _ m _ ih =>
    rw [content_take, ih, lastWrite?, lastWrite?, List.findSome?_cons]
    cases m.written? <;> rfl

/-- The last evaluation has seen a write that it came after. -/
theorem Course.lastSnapshot?_eq (hc : Course w x c y) (hDate : UpToDate c) {written : Bytes}
    (hWrite : lastWrite? c = some written) : lastSnapshot? c = some y.snapshot := by
  induction hc with
  | nil => cases hWrite
  | @cons c y _ m _ ih =>
    have hSnapshot : m.written? = none → (y.take w m).snapshot = y.snapshot := by
      intro hNone
      rw [snapshot, content_take, pinned_take, hNone, Option.none_or, snapshot]
    cases hFire : m.isFire with
    | true =>
      have hNone : m.written? = none := by cases m <;> simp_all [Move.isFire, Move.written?]
      rw [lastSnapshot?_fire hFire, hSnapshot hNone]
    | false =>
      have hNone : m.written? = none := by
        rw [UpToDate, sinceFire_other hFire] at hDate
        exact hDate _ (List.mem_cons_self ..)
      have hBefore : lastWrite? c = some written := by
        rwa [lastWrite?, List.findSome?_cons_of_isNone (by simp [hNone])] at hWrite
      rw [lastSnapshot?_other hFire, hSnapshot hNone]
      exact ih ((upToDate_other hFire hNone).mp hDate) hBefore

/-- **Dropped reports are harmless.**  Whatever the capacity of the channel is and however the
parties take turns: when no report of a write is still to be forwarded, the last evaluation came
after the last write, or an event is queued, or the timer is pending.  So when the channel is empty
and the timer idle, what was read for the last evaluation is what was written last, and the
evaluation was one of that. -/
theorem Course.drops_harmless (hCapacity : 0 < capacity)
    (hc : Course w (start w watch pinned content capacity) c x) (hForwarded : x.owed = 0) :
    (UpToDate c ∨ x.channel.queue ≠ [] ∨ x.isAwaiting = true) ∧
      (x.channel.queue = [] → x.isAwaiting = false → ∀ written, lastWrite? c = some written →
        lastSnapshot? c = some (Snapshot.ofFile (some written) pinned) ∧
          (x.host.part x.editor).last? Happening.evaluation? =
            some ((Snapshot.ofFile (some written) pinned).evaluation w)) := by
  have hx := hc.watchful (watchful_start w watch pinned content hCapacity)
  have hNoticed : UpToDate c ∨ x.channel.queue ≠ [] ∨ x.isAwaiting = true :=
    hx.noticed.resolve_left (by omega)
  refine ⟨hNoticed, fun hEmpty hIdle written hWrite => ?_⟩
  have hDate : UpToDate c := by
    rcases hNoticed with hDate | hQueue | hPending
    · exact hDate
    · exact absurd hEmpty hQueue
    · rw [hIdle] at hPending
      cases hPending
  have hSnapshot : lastSnapshot? c = some (Snapshot.ofFile (some written) pinned) := by
    rw [hc.lastSnapshot?_eq hDate hWrite, snapshot, hc.content_eq, hWrite, hc.pinned_eq]
    rfl
  refine ⟨hSnapshot, ?_⟩
  rw [hx.evaluated, hSnapshot, Option.map_some]

/-- A script that is not there yet, with room for one report. -/
def vacant : Watching :=
  start (Host.sample fun _ => 1000) ⟨some [], "a.py".toList, false, 1⟩ none none 1

/-- The script is written twice in a burst, and the second report is dropped. -/
theorem drops_harmless_burst : ∃ c x, Course (Host.sample fun _ => 1000) vacant c x ∧
    x.channel.failures = 1 ∧ lastSnapshot? c = some ⟨⟨"2\n".toList⟩, 0⟩ := by
  let first : Bytes := [49, 10]
  let second : Bytes := [50, 10]
  have hFirst : Course (Host.sample fun _ => 1000) vacant _ _ :=
    .cons .nil (.write first 1) Nat.one_pos
  have hSecond := (hFirst.cons .forward Nat.one_pos).cons (.write second 1) Nat.one_pos
  have hDropped := hSecond.cons .forward Nat.one_pos
  have hc := (hDropped.cons .receive (List.cons_ne_nil _ _)).cons .elapse rfl
  have hLast := ((hc.drops_harmless Nat.one_pos rfl).2 rfl (by decide +kernel) second rfl).1
  exact ⟨_, _, hc, rfl, hLast.trans (by decide +kernel)⟩

end

end Watching

end LiveLine
