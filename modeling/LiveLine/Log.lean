import LiveLine.Text.Basic
import LiveLine.Text.Hidden

/-!
# The log

A record has a level, a target, a message and fields, and is written as one line.
-/

namespace LiveLine

namespace Log

/-- How severe a record is, the most severe first. -/
inductive Level where
  | error
  | warn
  | info
  | debug
  | trace
  deriving DecidableEq, Repr

namespace Level

def rank : Level → Nat
  | error => 0
  | warn => 1
  | info => 2
  | debug => 3
  | trace => 4

def name : Level → Text
  | error => "ERROR".toList
  | warn => "WARN".toList
  | info => "INFO".toList
  | debug => "DEBUG".toList
  | trace => "TRACE".toList

def all : List Level := [error, warn, info, debug, trace]

/-- The level with a name, in letters of any case. -/
def ofName? (t : Text) : Option Level := all.find? fun l => l.name = t.map Char.toUpper

end Level

structure Record where
  level : Level
  target : Text
  message : Text
  fields : List (Text × Text) := []
  deriving DecidableEq, Repr

namespace Record

/-- A record as it is written. -/
def line (r : Record) : Text :=
  r.level.name ++ ' ' :: r.target ++ ':' :: ' ' :: r.message ++
    r.fields.flatMap fun f => ' ' :: f.1 ++ '=' :: f.2

/-- Whether a record has a field; the message is one too. -/
def hasField (r : Record) (name : Text) : Bool :=
  name = "message".toList || r.fields.any fun f => f.1 = name

end Record

/-! ## Values of fields -/

/-- A character inside quotes; a hidden one is written by its number. -/
def escaped (c : Char) : Text :=
  if c = '"' then "\\\"".toList
  else if c = '\\' then "\\\\".toList
  else if c = '\n' then "\\n".toList
  else if c = '\r' then "\\r".toList
  else if c = '\t' then "\\t".toList
  else if c = '\x00' then "\\0".toList
  else if isHidden c then "\\u\x7b".toList ++ Nat.toDigits 16 c.toNat ++ "\x7d".toList
  else [c]

/-- A text in quotes. -/
def quoted (t : Text) : Text := '"' :: t.flatMap escaped ++ ['"']

def flag (b : Bool) : Text := if b then "true".toList else "false".toList

/-- A number that may be missing. -/
def optional : Option Nat → Text
  | some n => "Some(".toList ++ Text.ofNat n ++ [')']
  | none => "None".toList

/-- A record from plain strings. -/
def record (level : Level) (target message : String) (fields : List (String × Text)) : Record :=
  { level
    target := target.toList
    message := message.toList
    fields := fields.map fun f => (f.1.toList, f.2) }

end Log

end LiveLine
