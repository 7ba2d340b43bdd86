import LiveLine.Annotation

/-!
# Events

Editors report changes, focus and closing; event sources send such reports through one bounded
channel.
-/

namespace LiveLine

inductive EditorEventKind where
  | textChanged
  | selectionChanged
  | focused
  | closed
  deriving DecidableEq, Repr

def EditorEventKind.name : EditorEventKind → Text
  | textChanged => "text_changed".toList
  | selectionChanged => "selection_changed".toList
  | focused => "focused".toList
  | closed => "closed".toList

/-- The kind of event that has a name. -/
def EditorEventKind.ofName? (name : Text) : Option EditorEventKind :=
  [textChanged, selectionChanged, focused, closed].find? fun k => k.name = name

structure EditorEvent where
  kind : EditorEventKind
  editor : EditorId
  deriving DecidableEq, Repr

/-- Whether the event restarts the settle period of its editor. -/
def EditorEvent.isTrigger (e : EditorEvent) : Bool :=
  match e.kind with
  | .textChanged | .selectionChanged => true
  | .focused | .closed => false

inductive Event where
  | editor (event : EditorEvent)
  | shutdown
  deriving DecidableEq, Repr

/-- An event as it is written in messages. -/
def Event.name : Event → Text
  | editor e => e.kind.name ++ ' ' :: EditorId.name e.editor
  | shutdown => "shutdown".toList

/-- The bounded channel between event sources and the event loop. -/
structure Channel where
  capacity : Nat
  queue : List Event := []
  /-- How many events were dropped because the channel was full. -/
  failures : Nat := 0
  deriving DecidableEq, Repr

namespace Channel

/-- The capacity of the program's channel. -/
def defaultCapacity : Nat := 1024

/-- Enqueues an event, or drops it when the channel is full. -/
def offer (c : Channel) (e : Event) : Channel :=
  if c.queue.length < c.capacity then { c with queue := c.queue ++ [e] }
  else { c with failures := c.failures + 1 }

/-- The oldest event, and the channel without it. -/
def receive? (c : Channel) : Option (Event × Channel) :=
  match c.queue with
  | [] => none
  | e :: rest => some (e, { c with queue := rest })

end Channel

/-- The event sources that start together, each with the events that it sends. -/
structure SourceRegistry where
  sources : List (List Event) := []
  deriving Repr

namespace SourceRegistry

def register (r : SourceRegistry) (source : List Event) : SourceRegistry :=
  ⟨r.sources ++ [source]⟩

def size (r : SourceRegistry) : Nat := r.sources.length

/-- Starts every source once; gives the emptied registry and the sources started. -/
def startAll (r : SourceRegistry) : SourceRegistry × List (List Event) := (⟨[]⟩, r.sources)

end SourceRegistry

end LiveLine
