import Mailshot.Files.Tree
import Mailshot.Http.Exchange
import Mailshot.Settings.Config
import Mailshot.Store.Connection

/-!
# Machines

A `Machine` is what the commands need of the machine that they run on.  They are written for any of
them; `Machine.ofTree` is one whose disk is a tree of files.
-/

set_option autoImplicit false

namespace Mailshot

/-- What commands need, in a monad in which it is done. -/
structure Machine (m : Type → Type) where
  /-- The variables of the process. -/
  environment : Environment
  /-- What there is at a path. -/
  inspect : String → m (Except FileFault Found)
  /-- Makes sure that there is a directory at a path and all along it. -/
  createDirectory : String → m (Except FileFault Unit)
  /-- Writes a file. -/
  write : String → String → m (Except FileFault Unit)
  /-- Takes all rights on a file from everybody but its owner. -/
  protect : String → m (Except FileFault Unit)
  /-- The store in a file, which is made if it is missing. -/
  openStore : String → m (Option Store)
  /-- Keeps a store in its file. -/
  saveStore : String → Store → m Unit
  /-- Whom relays are reached through. -/
  network : Http.Network Connection
  /-- What time it is. -/
  now : m Instant

/-- The access rights of a file that is nobody's but its owner's. -/
def privateMode : Nat := 0o600

namespace Tree

/-- Does something with a tree, which stays as it is if that fails. -/
def attempt (f : Tree → Except FileFault Tree) : StateM Tree (Except FileFault Unit) := fun t =>
  match f t with
  | .ok t => (.ok (), t)
  | .error fault => (.error fault, t)

end Tree

/-- A machine with a tree of files, on which time stands still. -/
def Machine.ofTree (environment : Environment) (network : Http.Network Connection) (now : Instant) :
    Machine (StateM Tree) where
  environment := environment
  inspect path := fun t => (t.inspect path, t)
  createDirectory path := fun t => t.createDirectory path
  write path text := Tree.attempt (·.write path text.toUTF8.toList)
  protect path := Tree.attempt (·.setMode path privateMode)
  openStore path := fun t => match t.openStore path with
    | some (s, t) => (some s, t)
    | none => (none, t)
  saveStore path s := fun t => ((), t.saveStore path s)
  network := network
  now := pure now

end Mailshot
