import Mailshot.Files.Path
import Mailshot.Url.Address

/-!
# Names of databases

A database is asked for by name.  Most names are paths.  The empty name and `:memory:` ask for a
database that nobody else sees and that is gone when it is closed; and a name that starts with
`file:` is a URI, whose path is the path of the database and whose query says how to open it.
-/

set_option autoImplicit false

namespace Mailshot

/-- What the name of a database asks for. -/
inductive DatabaseName where
  /-- A database without a file. -/
  | transient
  /-- The database in a file, which may be made if it is missing. -/
  | file (path : String) (mayCreate : Bool)
deriving DecidableEq, Inhabited

namespace DatabaseName

/-- What a name that is no URI asks for. -/
def ofPath (path : String) (mayCreate : Bool) : DatabaseName :=
  if path = "" ∨ path = ":memory:" then .transient else .file path mayCreate

/-- A part of a URI, with percent signs resolved.  What stands behind a byte of zero does not
count. -/
def plainText (cs : List Char) : String :=
  String.ofList (Charset.utf8.decode ((Url.decodeBytes cs).takeWhile (· ≠ 0)))

/-- What a parameter of a URI, a key with its value, makes of a database.  Parameters that are not
known do not count; a value that is not known is an error. -/
def applyParameter? (name : DatabaseName) (parameter : List Char) : Option DatabaseName :=
  let key := plainText (parameter.takeWhile (· ≠ '='))
  let value := plainText ((parameter.dropWhile (· ≠ '=')).drop 1)
  if key = "vfs" then (if value = "unix" then some name else none)
  else if key = "cache" then (if value ∈ ["shared", "private"] then some name else none)
  else if key ≠ "mode" then some name
  else if value = "memory" then some .transient
  else if value ∉ ["ro", "rw", "rwc"] then none
  else
    match name with
    | .transient => some .transient
    | .file path _ => some (.file path (value = "rwc"))

/-- What a URI asks for, from what stands behind its scheme.  It may name this machine as its host,
and no other. -/
def ofUri? (cs : List Char) : Option DatabaseName := do
  let cs ← match cs with
    | '/' :: '/' :: rest =>
      if String.ofList (rest.takeWhile (· ≠ '/')) ∈ ["", "localhost"] then
        some (rest.dropWhile (· ≠ '/'))
      else none
    | cs => some cs
  let front := cs.takeWhile (· ≠ '#')
  let path := plainText (front.takeWhile (· ≠ '?'))
  let query := (front.dropWhile (· ≠ '?')).drop 1
  (Url.splitAt '&' query).foldlM applyParameter? (ofPath path true)

/-- What a name asks for; nothing if it cannot be one. -/
def read? (name : String) : Option DatabaseName :=
  if name.toList.contains '\x00' then none
  else
    match name.toList with
    | 'f' :: 'i' :: 'l' :: 'e' :: ':' :: rest => ofUri? rest
    | _ => some (ofPath name true)

end DatabaseName

end Mailshot
