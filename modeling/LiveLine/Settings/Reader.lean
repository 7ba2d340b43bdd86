import LiveLine.Settings
import LiveLine.Text.Utf8
import LiveLine.Toml.Reader

/-!
# Settings from a configuration file

The table `live` gives the settings, by name or as an array in the order of the fields. A file is
taken as a whole or not at all: one value of a wrong type, or one number that cannot be handed on,
leaves every setting at its default. Only what an array holds beyond the fields is not looked at.
-/

namespace LiveLine

open Toml (Value)

namespace Settings

def text? : Value → Option Text
  | .text t => some t
  | _ => none

/-- Durations are whole milliseconds below the word bound. -/
def duration? : Value → Option Nat
  | .integer n => if 0 ≤ n ∧ n < Text.wordBound then some n.toNat else none
  | _ => none

def policyNamed? (name : Text) : Option OverlapPolicy :=
  [.finish, .cancel].find? fun p => p.name = name

/-- A policy is its name, or a table with that one key and nothing under it. -/
def policy? : Value → Option OverlapPolicy
  | .text name => policyNamed? name
  | .table _ [(name, .table _ [])] => policyNamed? name
  | .table _ [(name, .array _ [])] => policyNamed? name
  | _ => none

/-- The seven fields, in the order in which an array gives them. -/
inductive Field where
  | interpreterPath
  | outputColor
  | errorColor
  | debounceDelay
  | runTimeout
  | onSupersede
  | scratchFile
  deriving DecidableEq, Repr

namespace Field

def all : List Field :=
  [interpreterPath, outputColor, errorColor, debounceDelay, runTimeout, onSupersede, scratchFile]

def key : Field → Text
  | interpreterPath => "interpreter_path".toList
  | outputColor => "output_color".toList
  | errorColor => "error_color".toList
  | debounceDelay => "debounce_delay".toList
  | runTimeout => "run_timeout".toList
  | onSupersede => "on_supersede".toList
  | scratchFile => "scratch_file".toList

/-- Sets a field to a value, if the value is of its type. -/
def set? (f : Field) (v : Value) (s : Settings) : Option Settings :=
  match f with
  | interpreterPath => (text? v).map fun t => { s with interpreterPath := some t }
  | outputColor => (text? v).map fun t => { s with outputColor := t }
  | errorColor => (text? v).map fun t => { s with errorColor := t }
  | debounceDelay => (duration? v).map fun n => { s with debounceDelay := n }
  | runTimeout => (duration? v).map fun n => { s with runTimeout := n }
  | onSupersede => (policy? v).map fun p => { s with onSupersede := p }
  | scratchFile => (text? v).map fun t => { s with scratchFile := t }

end Field

/-- Sets fields in turn; a field without a value keeps what it has. -/
def fill? (value : Field → Option Value) : List Field → Settings → Option Settings
  | [], s => some s
  | f :: fs, s => match value f with
    | none => fill? value fs s
    | some v => (f.set? v s).bind (fill? value fs)

/-- The settings that a value under `live` gives. -/
def ofLive? : Value → Option Settings
  | .table _ entries =>
    if Toml.areHeld entries then fill? (fun f => entries.lookup f.key) Field.all {} else none
  | .array _ items => fill? (fun f => items[Field.all.idxOf f]?) Field.all {}
  | .datetime => some {}
  | _ => none

def liveKey : Text := "live".toList

/-- The settings that the entries of a file give. -/
def ofEntries? (entries : Toml.Entries) : Option Settings :=
  if !Toml.areHeld (entries.filter fun e => e.1 ≠ liveKey) then none
  else match entries.lookup liveKey with
    | none => some {}
    | some v => ofLive? v

end Settings

/-- Settings, and the whole text of the file that they come from. -/
structure Configuration where
  raw : Option Text := none
  settings : Settings := {}
  deriving DecidableEq, Repr

namespace Configuration

/-- The configuration in a text, if it is well formed throughout. -/
def ofText? (t : Text) : Option Configuration :=
  ((Toml.read? t).bind Settings.ofEntries?).map fun s => ⟨some t, s⟩

/-- The configuration in a file; a missing file, one that is not UTF-8, and an ill-formed one all
give the defaults. -/
def ofFile (content : Option Bytes) : Configuration :=
  ((content.bind Utf8.decode?).bind ofText?).getD {}

end Configuration

end LiveLine
