import Mailshot.Command.Machine

/-!
# Opening a database

The directory of a database is made if it is missing, and so is the database.
-/

set_option autoImplicit false

namespace Mailshot

/-- Why a database could not be opened. -/
inductive DatabaseError where
  /-- There is no directory for it, and none could be made. -/
  | noDirectory (path : String)
  /-- The file is no database. -/
  | notOpened (path : String)
deriving DecidableEq

/-- The error in words. -/
def DatabaseError.message : DatabaseError → String
  | .noDirectory path => "failed to create database directory " ++ path
  | .notOpened path => "failed to open database at " ++ path

/-- The store in the file at a path. -/
def Machine.openDatabase {m : Type → Type} [Monad m] (machine : Machine m) (path : String) :
    m (Except DatabaseError Store) := do
  let parent := (Path.parent? path).filter (· ≠ "")
  let made ← match parent with
    | none => pure (.ok ())
    | some directory => machine.createDirectory directory
  match made with
  | .error _ => return .error (.noDirectory (parent.getD ""))
  | .ok () =>
    match ← machine.openStore path with
    | some s => return .ok s
    | none => return .error (.notOpened path)

end Mailshot
