import Mailshot.Files.DatabaseName
import Mailshot.Files.Fault
import Mailshot.Store.Tables

/-!
# Trees of files

A `Tree` is what the commands see of a disk: directories, and files that hold bytes or a store.
Entries are kept by place, which is the list of names that leads to them from the root; the root
itself is always there.  A path that does not start at the root is seen from the tree's own place.
-/

set_option autoImplicit false

namespace Mailshot

/-- What a name stands for. -/
inductive Content where
  /-- A directory. -/
  | directory
  /-- A file. -/
  | bytes (bytes : List UInt8)
  /-- The file of a store. -/
  | store (s : Store)

/-- Something in a tree, with its access rights. -/
structure Entry where
  /-- The access rights, and the marks that stand in front of them. -/
  mode : Nat
  /-- What it is. -/
  content : Content

/-- Whether an entry is a directory. -/
def Entry.isDirectory (e : Entry) : Bool := match e.content with
  | .directory => true
  | _ => false

/-- The access rights of the owner, the group and all others. -/
def Entry.rights (e : Entry) : Nat := e.mode &&& 0o777

/-- Whether the owner may read an entry. -/
def Entry.isReadable (e : Entry) : Bool := e.mode &&& 0o400 ≠ 0

/-- Whether the owner may change an entry. -/
def Entry.isWritable (e : Entry) : Bool := e.mode &&& 0o200 ≠ 0

/-- A new directory. -/
def Entry.newDirectory : Entry := ⟨0o755, .directory⟩

/-- A tree of files. -/
structure Tree where
  /-- The place from which paths are seen. -/
  here : List String
  /-- The entries below the root. -/
  entries : List (List String × Entry)

namespace Tree

/-- The entry at a place. -/
def find? (t : Tree) (place : List String) : Option Entry :=
  if place = [] then some .newDirectory
  else (t.entries.find? (·.1 = place)).map (·.2)

/-- Puts an entry at a place, instead of what was there. -/
def put (t : Tree) (place : List String) (e : Entry) : Tree :=
  { t with entries := (place, e) :: t.entries.filter (·.1 ≠ place) }

/-- The place from which a path is seen. -/
def start (t : Tree) (path : String) : List String := if Path.isAbsolute path then [] else t.here

/-- The directory at a place; there may be nothing there, or something else. -/
def requireDirectory (t : Tree) (place : List String) : Except FileFault Unit :=
  match t.find? place with
  | none => .error .missing
  | some e => if e.isDirectory then .ok () else .error .notDirectory

/-- The place to which segments lead from a place.  All but the last step start at a directory; what
is at the end is not looked at. -/
def walk (t : Tree) (place : List String) : List String → Except FileFault (List String)
  | [] => .ok place
  | segment :: rest =>
    match t.requireDirectory place with
    | .error fault => .error fault
    | .ok () =>
      if segment = "" ∨ segment = "." then t.walk place rest
      else if segment = ".." then t.walk place.dropLast rest
      else t.walk (place ++ [segment]) rest

/-- The place that a path names. -/
def locate (t : Tree) (path : String) : Except FileFault (List String) :=
  if path.isEmpty then .error .missing else t.walk (t.start path) (Path.segments path)

/-- The entry that a path names, with its place. -/
def lookup (t : Tree) (path : String) : Except FileFault (List String × Entry) := do
  let place ← t.locate path
  match t.find? place with
  | some e => .ok (place, e)
  | none => .error .missing

/-! ## Operations -/

/-- What there is at a path. -/
def inspect (t : Tree) (path : String) : Except FileFault Found := do
  let (_, e) ← t.lookup path
  let bytes := match e.content with
    | .directory => .error .isDirectory
    | .bytes bytes => .ok bytes
    | .store _ => .error .notText
  return ⟨some e.rights, if e.isReadable then bytes else .error .denied⟩

/-- Whether a path leads to a directory. -/
def hasDirectory (t : Tree) (path : String) : Bool :=
  match t.lookup path with
  | .ok (_, e) => e.isDirectory
  | .error _ => false

/-- Makes a directory at a path whose other segments lead to one. -/
def makeDirectory (t : Tree) (path : String) : Except FileFault Tree := do
  let names := ((Path.segments path).reverse.dropWhile (· = "")).reverse
  match names.getLast? with
  | none => throw .occupied
  | some name =>
    let place ← t.walk (t.start path) names.dropLast
    t.requireDirectory place
    if name = "." ∨ name = ".." ∨ (t.find? (place ++ [name])).isSome then throw .occupied
    else return t.put (place ++ [name]) .newDirectory

/-- Makes sure that there is a directory at the first of some paths, each of which stands in the
next one.  Those behind the first are only made if the first is missing; what was made stays,
whether or not all goes well. -/
def createAlong (t : Tree) : List String → Except FileFault Unit × Tree
  | [] => (.ok (), t)
  | path :: above =>
    let orThere (t : Tree) (fault : FileFault) : Except FileFault Unit × Tree :=
      (if t.hasDirectory path then .ok () else .error fault, t)
    match t.makeDirectory path with
    | .ok t => (.ok (), t)
    | .error .missing =>
      match t.createAlong above with
      | (.error fault, t) => (.error fault, t)
      | (.ok (), t) =>
        match t.makeDirectory path with
        | .ok t => (.ok (), t)
        | .error fault => orThere t fault
    | .error fault => orThere t fault

/-- Makes sure that there is a directory at a path and all along it. -/
def createDirectory (t : Tree) (path : String) : Except FileFault Unit × Tree :=
  if path.toList.contains '\x00' then (.error .invalidPath, t)
  else t.createAlong (Path.ancestors path)

/-- Writes a file. -/
def write (t : Tree) (path : String) (bytes : List UInt8) : Except FileFault Tree := do
  let place ← t.locate path
  t.requireDirectory place.dropLast
  match t.find? place with
  | none => .ok (t.put place ⟨0o644, .bytes bytes⟩)
  | some e =>
    if e.isDirectory then .error .isDirectory
    else if e.isWritable then .ok (t.put place ⟨e.mode, .bytes bytes⟩)
    else .error .denied

/-- Sets the access rights of what is at a path. -/
def setMode (t : Tree) (path : String) (mode : Nat) : Except FileFault Tree := do
  let (place, e) ← t.lookup path
  return t.put place { e with mode }

/-- The store of a database.  A missing file is made, an empty one is a new store, and any other is
none; a database without a file is a new store. -/
def openStore (t : Tree) (name : String) : Option (Store × Tree) :=
  match DatabaseName.read? name with
  | none => none
  | some .transient => some (.empty, t)
  | some (.file path mayCreate) =>
    let place := Path.place t.here path
    match t.requireDirectory place.dropLast, t.find? place with
    | .ok (), none =>
      if mayCreate then some (.empty, t.put place ⟨0o644, .store .empty⟩) else none
    | .ok (), some e =>
      if e.isReadable && e.isWritable then
        match e.content with
        | .store s => some (s, t)
        | .bytes [] => some (.empty, t.put place ⟨e.mode, .store .empty⟩)
        | _ => none
      else none
    | .error _, _ => none

/-- Keeps a store in the file of a database, if it has one. -/
def saveStore (t : Tree) (name : String) (s : Store) : Tree :=
  match DatabaseName.read? name with
  | some (.file path _) =>
    let place := Path.place t.here path
    match t.find? place with
    | some e => t.put place { e with content := .store s }
    | none => t
  | _ => t

end Tree

end Mailshot
