import Mailshot.Dictionary

/-!
# Rows with and without an identifier

A `Table ρ` holds rows of the kind `ρ`.  No two rows have the same identifier, and rows that have
none do not get into each other's way: there may be any number of them, nothing refers to them and
no look-up finds them, not even one for the empty text.  They are only met by reading the table from
front to back, where they come before all others, in the order in which they were added, and their
identifier reads as the empty text.
-/

set_option autoImplicit false

namespace Mailshot

/-- The rows of a table. -/
structure Table (ρ : Type) where
  /-- The rows without an identifier, the oldest first. -/
  nameless : List ρ
  /-- The rows with an identifier, under it. -/
  named : Dictionary ρ
deriving DecidableEq

namespace Table

variable {ρ : Type}

/-- The table without rows. -/
def empty : Table ρ := ⟨[], .empty⟩

instance : Inhabited (Table ρ) := ⟨empty⟩

/-- The row with an identifier. -/
def find? (t : Table ρ) (id : String) : Option ρ := t.named.find? id

/-- Whether a row has an identifier. -/
def contains (t : Table ρ) (id : String) : Bool := t.named.contains id

/-- Puts a row under an identifier; a row that stood there is replaced. -/
def insert (t : Table ρ) (id : String) (row : ρ) : Table ρ :=
  { t with named := t.named.insert id row }

/-- Puts a row under an identifier that it may not have. -/
def add (t : Table ρ) (id : Option String) (row : ρ) : Table ρ :=
  match id with
  | some id => t.insert id row
  | none => { t with nameless := t.nameless ++ [row] }

/-- All rows with their identifiers, as they are stored. -/
def rows (t : Table ρ) : List (Option String × ρ) :=
  t.nameless.map (none, ·) ++ t.named.entries.map fun e => (some e.1, e.2)

/-- All rows with their identifiers, as they are read. -/
def entries (t : Table ρ) : List (String × ρ) := t.nameless.map ("", ·) ++ t.named.entries

/-- The table of some rows. -/
def ofRows (l : List (Option String × ρ)) : Table ρ := l.foldl (fun t e => t.add e.1 e.2) empty

@[simp] theorem find?_empty (id : String) : (empty : Table ρ).find? id = none := rfl

/-- Insertion changes the look-up of its own identifier only. -/
theorem find?_insert (t : Table ρ) (id q : String) (row : ρ) :
    (t.insert id row).find? q = if id = q then some row else t.find? q :=
  t.named.find?_insert id q row

end Table

end Mailshot
