/-!
# TOML documents

`Toml.Value` is what a document holds.  `Toml.Table` is a table while its document is being read: of
each table inside it, it is known how the table came about, since that decides which later lines may
add to it.

* A table is *implicit* as long as it was only named on the way to another one.
* A table is *dotted* if it came about through a key with dots, and then only such keys may add to
  it.
* Headers in double brackets add tables to a list, and later lines add to the last of them.
-/

set_option autoImplicit false

namespace Mailshot
namespace Toml

/-- A value.  The text of a number with a point, and of a date or time, is kept as it stands. -/
inductive Value where
  /-- A text. -/
  | string (s : String)
  /-- A whole number. -/
  | integer (n : Int)
  /-- A number with a point or a power of ten. -/
  | float (text : String)
  /-- A truth value. -/
  | boolean (b : Bool)
  /-- A date, a time, or both. -/
  | datetime (text : String)
  /-- A list. -/
  | array (items : List Value)
  /-- Named values. -/
  | table (entries : List (String × Value))

instance : Inhabited Value := ⟨.boolean false⟩

mutual

/-- What a key stands for while a document is being read. -/
inductive Item where
  /-- A value that is complete. -/
  | value (v : Value)
  /-- A table, and how it came about. -/
  | table (implicit dotted : Bool) (t : Table)
  /-- A list of tables, the last one first. -/
  | tables (ts : List Table)

/-- The items of a table. -/
inductive Table where
  /-- The items with their keys. -/
  | mk (items : List (String × Item))

end

/-- The table without items. -/
def Table.empty : Table := .mk []

instance : Inhabited Table := ⟨.empty⟩

/-- The items of a table. -/
def Table.items : Table → List (String × Item)
  | .mk items => items

/-- The item of a key. -/
def Table.find? (t : Table) (key : String) : Option Item :=
  (t.items.find? (·.1 = key)).map (·.2)

/-- Puts an item under a key, in the place of any other. -/
def Table.put (t : Table) (key : String) (item : Item) : Table :=
  .mk (if t.items.any (·.1 = key) then t.items.map fun e => if e.1 = key then (key, item) else e
    else t.items ++ [(key, item)])

mutual

/-- The value of a complete item. -/
def Item.toValue : Item → Value
  | .value v => v
  | .table _ _ t => .table t.toEntries
  | .tables ts => .array (tablesToValues ts).reverse

/-- The named values of a complete table. -/
def Table.toEntries : Table → List (String × Value)
  | .mk items => itemsToEntries items

/-- The named values of items. -/
def itemsToEntries : List (String × Item) → List (String × Value)
  | [] => []
  | (k, item) :: rest => (k, item.toValue) :: itemsToEntries rest

/-- Tables as values. -/
def tablesToValues : List Table → List Value
  | [] => []
  | t :: ts => .table t.toEntries :: tablesToValues ts

end

/-! ## Adding to a table -/

/-- Changes the table that a path leads to; tables that are missing on the way come about.
`dotted` says whether the path is the front of a key with dots, which leads through tables only that
came about on the way. -/
def Table.adjust (dotted : Bool) (change : Bool → Table → Option Table) (isDotted : Bool)
    (t : Table) : List String → Option Table
  | [] => change isDotted t
  | key :: path =>
    match t.find? key with
    | none =>
      (Table.adjust dotted change dotted .empty path).map fun inner =>
        t.put key (.table true dotted inner)
    | some (.value _) => none
    | some (.table implicit isDotted inner) =>
      if dotted && !implicit then none
      else
        (inner.adjust dotted change isDotted path).map fun inner =>
          t.put key (.table implicit isDotted inner)
    | some (.tables []) => none
    | some (.tables (last :: before)) =>
      (last.adjust dotted change false path).map fun last => t.put key (.tables (last :: before))

/-- Adds a value under a key with dots.  Only keys with dots add to tables that came about through
them, and only once each. -/
def Table.addValue (t : Table) (path : List String) (key : String) (v : Value) : Option Table :=
  t.adjust true (fun isDotted inner =>
    if isDotted = path.isEmpty ∨ (inner.find? key).isSome then none
    else some (inner.put key (.value v))) false path

/-- Opens the table of a header.  It must not have been opened before. -/
def Table.openTable (t : Table) (path : List String) (key : String) : Option Table :=
  t.adjust false (fun _ inner =>
    match inner.find? key with
    | none => some (inner.put key (.table false false .empty))
    | some (.table true false here) => some (inner.put key (.table false false here))
    | some _ => none) false path

/-- Adds a table to the list of a header in double brackets. -/
def Table.addTable (t : Table) (path : List String) (key : String) : Option Table :=
  t.adjust false (fun _ inner =>
    match inner.find? key with
    | none => some (inner.put key (.tables [.empty]))
    | some (.tables ts) => some (inner.put key (.tables (.empty :: ts)))
    | some _ => none) false path

/-- Adds a value to the table that the last header opened. -/
def Table.addBelow (t : Table) (header : List String) (path : List String) (key : String)
    (v : Value) : Option Table :=
  t.adjust false (fun _ inner => inner.addValue path key v) false header

end Toml
end Mailshot
