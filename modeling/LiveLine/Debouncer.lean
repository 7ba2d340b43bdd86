/-!
# Debouncing

A debouncer holds at most one pending timer. Scheduling replaces the pending timer by one that
is due after the full delay.
-/

namespace LiveLine

/-- A debounce delay, and the pending timer's due time and label. -/
structure Debouncer (α : Type) where
  delay : Nat
  pending : Option (Nat × α) := none
  deriving DecidableEq, Repr

namespace Debouncer

variable {α : Type}

def isPending (d : Debouncer α) : Bool := d.pending.isSome

/-- When the pending timer is due. -/
def due? (d : Debouncer α) : Option Nat := d.pending.map Prod.fst

/-- Starts a timer at time `now`, in place of a pending one. -/
def schedule (d : Debouncer α) (now : Nat) (label : α) : Debouncer α :=
  { d with pending := some (now + d.delay, label) }

/-- Drops the pending timer. -/
def cancel (d : Debouncer α) : Debouncer α := { d with pending := none }

end Debouncer

end LiveLine
