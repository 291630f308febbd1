import Mailshot.Audience.Contact

/-!
# Audiences

An `Audience` is a list of contacts without repeated identifiers, with an index that finds the place
of an identifier.  It is built by insertion only: of several contacts with one identifier the first
is kept, in the place where it came.
-/

set_option autoImplicit false

namespace Mailshot

/-- Contacts in the order of their insertion, each identifier once. -/
structure Audience where
  /-- The contacts. -/
  contacts : List Contact
  /-- The place of each identifier in the list of contacts. -/
  index : Dictionary Nat
deriving DecidableEq

namespace Audience

/-- The audience without contacts. -/
def empty : Audience := ⟨[], .empty⟩

instance : Inhabited Audience := ⟨empty⟩

/-- The number of contacts. -/
def size (a : Audience) : Nat := a.contacts.length

/-- Whether there is no contact. -/
def isEmpty (a : Audience) : Bool := a.contacts.isEmpty

/-- The identifiers in order. -/
def ids (a : Audience) : List String := a.contacts.map (·.id)

/-- Adds a contact unless its identifier is there already, and says whether it was added. -/
def insert (a : Audience) (c : Contact) : Bool × Audience :=
  if a.index.contains c.id then (false, a)
  else (true, ⟨a.contacts ++ [c], a.index.insert c.id a.contacts.length⟩)

/-- Adds contacts one after the other. -/
def insertAll (a : Audience) (contacts : List Contact) : Audience :=
  contacts.foldl (fun a c => (a.insert c).2) a

/-- The audience of a list of contacts. -/
def ofList (contacts : List Contact) : Audience := empty.insertAll contacts

/-- The contact with an identifier. -/
def find? (a : Audience) (id : String) : Option Contact :=
  (a.index.find? id).bind fun i => a.contacts[i]?

end Audience

end Mailshot
