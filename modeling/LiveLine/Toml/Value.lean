import LiveLine.Text.Basic

/-!
# Values of a configuration file

A file is a tree of tables. How a table came to be decides what may still be added to it.
-/

namespace LiveLine.Toml

/-- How a table came to be. -/
inductive Origin where
  /-- The root, or named by a header of its own. -/
  | header
  /-- On the way to the table of a longer header. -/
  | implied
  /-- On the way to the value of a dotted key. -/
  | dotted
  /-- Written between braces. -/
  | braces
  deriving DecidableEq, Repr

inductive Value where
  | text (t : Text)
  | integer (n : Int)
  /-- A number with a fraction or an exponent. It `overflows` if no double-precision number is near
  it. -/
  | float (overflows : Bool)
  | boolean (b : Bool)
  | datetime
  /-- A list of values; `ofTables` if it is built by headers in double brackets. -/
  | array (ofTables : Bool) (items : List Value)
  | table (origin : Origin) (entries : List (Text × Value))

mutual

/-- Whether two values are the same. -/
def Value.same : Value → Value → Bool
  | .text t, .text u => t = u
  | .integer m, .integer n => m = n
  | .float overflows, .float overflows' => overflows = overflows'
  | .boolean b, .boolean c => b = c
  | .datetime, .datetime => true
  | .array ofTables items, .array ofTables' items' => ofTables = ofTables' && areSame items items'
  | .table origin entries, .table origin' entries' =>
    origin = origin' && haveSame entries entries'
  | _, _ => false

/-- Whether two lists of values are the same. -/
def areSame : List Value → List Value → Bool
  | [], [] => true
  | v :: vs, w :: ws => v.same w && areSame vs ws
  | _, _ => false

/-- Whether two lists have the same values under the same keys. -/
def haveSame : List (Text × Value) → List (Text × Value) → Bool
  | [], [] => true
  | (key, v) :: es, (key', w) :: es' => key = key' && v.same w && haveSame es es'
  | _, _ => false

end

mutual

theorem Value.same_iff (v w : Value) : v.same w = true ↔ v = w := by
  cases v with
  | array ofTables items =>
    cases w with
    | array ofTables' items' => simp [Value.same, areSame_iff items items']
    | _ => simp [Value.same]
  | table origin entries =>
    cases w with
    | table origin' entries' => simp [Value.same, haveSame_iff entries entries']
    | _ => simp [Value.same]
  | _ => cases w <;> simp [Value.same]

theorem areSame_iff (vs ws : List Value) : areSame vs ws = true ↔ vs = ws := by
  cases vs with
  | nil => cases ws <;> simp [areSame]
  | cons v vs =>
    cases ws with
    | nil => simp [areSame]
    | cons w ws => simp [areSame, v.same_iff w, areSame_iff vs ws]

theorem haveSame_iff (es es' : List (Text × Value)) : haveSame es es' = true ↔ es = es' := by
  cases es with
  | nil => cases es' <;> simp [haveSame]
  | cons e es =>
    obtain ⟨key, v⟩ := e
    cases es' with
    | nil => simp [haveSame]
    | cons e' es' =>
      obtain ⟨key', w⟩ := e'
      simp [haveSame, v.same_iff w, haveSame_iff es es', and_assoc]

end

instance : DecidableEq Value := fun v w => decidable_of_iff _ (v.same_iff w)

/-- The entries of a table, in the order in which they were made. -/
abbrev Entries := List (Text × Value)

/-- Whether an integer is among the widest ones that can be handed on. -/
def isHeld (n : Int) : Bool := -Int.ofNat (Nat.pow 2 127) ≤ n && n < Int.ofNat (Nat.pow 2 128)

mutual

/-- Whether all numbers in a value can be handed on. -/
def Value.isHeld : Value → Bool
  | .integer n => Toml.isHeld n
  | .float overflows => !overflows
  | .array _ items => itemsAreHeld items
  | .table _ entries => areHeld entries
  | .text _ | .boolean _ | .datetime => true

/-- Whether all numbers in some values can be handed on. -/
def itemsAreHeld : List Value → Bool
  | [] => true
  | v :: vs => v.isHeld && itemsAreHeld vs

/-- Whether all numbers under some keys can be handed on. -/
def areHeld : List (Text × Value) → Bool
  | [] => true
  | (_, v) :: entries => v.isHeld && areHeld entries

end

/-- A table that is being built. -/
structure Table where
  origin : Origin
  entries : Entries := []

namespace Table

def get? (t : Table) (key : Text) : Option Value := t.entries.lookup key

/-- Gives a key a value, in place of the one that it has. -/
def set (t : Table) (key : Text) (v : Value) : Table :=
  if (t.get? key).isSome then
    { t with entries := t.entries.map fun e => if e.1 = key then (key, v) else e }
  else { t with entries := t.entries ++ [(key, v)] }

def toValue (t : Table) : Value := .table t.origin t.entries

/-- Changes the table at the end of a path. Missing tables are made on the way, the last table of an
array stands for the array, and a dotted path does not enter a table that has a header. -/
def modify (dotted : Bool) : List Text → (Table → Option Table) → Table → Option Table
  | [], change, t => change t
  | key :: path, change, t =>
    match t.get? key with
    | none =>
      (modify dotted path change ⟨if dotted then .dotted else .implied, []⟩).map fun inner =>
        t.set key inner.toValue
    | some (.array true items) =>
      match items.getLast? with
      | some (.table origin entries) =>
        (modify dotted path change ⟨origin, entries⟩).map fun inner =>
          t.set key (.array true (items.dropLast ++ [inner.toValue]))
      | _ => none
    | some (.table origin entries) =>
      if origin = .braces || (dotted && origin = .header) then none
      else (modify dotted path change ⟨origin, entries⟩).map fun inner => t.set key inner.toValue
    | some _ => none

/-- Adds the value of a key, whose leading parts name tables. Each key has one value, and a table is
filled either by dotted keys or under its own name. -/
def assign (t : Table) (path : List Text) (key : Text) (v : Value) : Option Table :=
  modify true path (fun inner =>
    if decide (inner.origin = .dotted) == path.isEmpty || (inner.get? key).isSome then none
    else some (inner.set key v)) t

/-- Opens the table of a header. A table has at most one header. -/
def openTable (t : Table) (path : List Text) (key : Text) : Option Table :=
  modify false path (fun inner =>
    match inner.get? key with
    | none => some (inner.set key (.table .header []))
    | some (.table .implied entries) => some (inner.set key (.table .header entries))
    | some _ => none) t

/-- Opens a further table of an array of tables. -/
def openElement (t : Table) (path : List Text) (key : Text) : Option Table :=
  modify false path (fun inner =>
    match inner.get? key with
    | none => some (inner.set key (.array true [.table .header []]))
    | some (.array true items) =>
      some (inner.set key (.array true (items ++ [.table .header []])))
    | some _ => none) t

end Table

end LiveLine.Toml
