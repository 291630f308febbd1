import Mailshot.Command.Perform
import Mailshot.Store.Document
import Std.Time.DateTime.Timestamp

/-!
# The program

Carries out commands on the machine that it is started on.  Databases are kept as documents.  It has
no network of its own: a message for a relay fails as one whose relay could not be reached.
-/

set_option autoImplicit false

namespace Mailshot

/-- What an error of the system means for a path. -/
def faultOfError : IO.Error → FileFault
  | .noFileOrDirectory _ _ _ => .missing
  | .permissionDenied _ _ _ => .denied
  | .alreadyExists _ _ _ => .occupied
  | .inappropriateType _ code _ => if code = 21 then .isDirectory else .notDirectory
  | _ => .denied

/-- Does something that can fail on the way to a path. -/
def orFault {α : Type} (action : IO α) : IO (Except FileFault α) := do
  try return .ok (← action)
  catch e => return .error (faultOfError e)

/-- What there is at a path on this machine, which does not tell access rights. -/
def inspectDisk (path : String) : IO (Except FileFault Found) := do
  match ← orFault (IO.FS.readBinFile path) with
  | .ok bytes => return .ok ⟨none, .ok bytes.toList⟩
  | .error .missing => return .error .missing
  | .error .notDirectory => return .error .notDirectory
  | .error fault => return .ok ⟨none, .error fault⟩

/-- The path of a database's file from the root. -/
def databaseFile (path : String) : IO String := do
  let here := (Path.segments (← IO.currentDir).toString).filter (· ≠ "")
  return "/" ++ "/".intercalate (Path.place here path)

/-- The store of a database; its file is made if it is missing. -/
def openStoreFile (name : String) : IO (Option Store) := do
  match DatabaseName.read? name with
  | none => return none
  | some .transient => return some .empty
  | some (.file path mayCreate) =>
    let file ← databaseFile path
    match ← inspectDisk file with
    | .error .missing =>
      if !mayCreate then return none
      match ← orFault (IO.FS.writeFile file "") with
      | .ok () => return some .empty
      | .error _ => return none
    | .error _ => return none
    | .ok found => return found.text.toOption.bind Store.ofText?

/-- Keeps a store in the file of its database, if it has one. -/
def saveStoreFile (name : String) (s : Store) : IO Unit := do
  match DatabaseName.read? name with
  | some (.file path _) => IO.FS.writeFile (← databaseFile path) s.toJson.print
  | _ => return ()

/-- The variables that the process was started with. -/
def processEnvironment : IO Environment := do
  let bytes ← match ← orFault (IO.FS.readBinFile "/proc/self/environ") with
    | .ok bytes => pure bytes.toList
    | .error _ => pure []
  let text := (Charset.utf8Text? bytes).getD ""
  let entries := (text.splitOn "\x00").map fun entry =>
    let cs := entry.toList
    (String.ofList (cs.takeWhile (· ≠ '=')), String.ofList ((cs.dropWhile (· ≠ '=')).drop 1))
  return fun name => (entries.find? (·.1 = name)).map (·.2)

/-- What time it is. -/
def currentInstant : IO Instant := do
  let now ← Std.Time.Timestamp.now
  let nanos := now.toNanosecondsSinceUnixEpoch.toInt
  let seconds := nanos.fdiv 1000000000
  let day := firstDayOfYear 1970 + seconds.fdiv 86400
  return (Instant.ofParts? day (seconds.fmod 86400).toNat (nanos.fmod 1000000000).toNat).getD
    Instant.start2024

/-- The machine that the program is started on. -/
def thisMachine (environment : Environment) : Machine IO where
  environment := environment
  inspect := inspectDisk
  createDirectory path := orFault (IO.FS.createDirAll path)
  write path text := orFault (IO.FS.writeFile path text)
  protect path := orFault
    (IO.setAccessRights path { user := { read := true, write := true } })
  openStore := openStoreFile
  saveStore := saveStoreFile
  network _ := pure none
  now := currentInstant

end Mailshot

/-- Does what the arguments ask for. -/
def main (arguments : List String) : IO UInt32 := do
  let machine := Mailshot.thisMachine (← Mailshot.processEnvironment)
  let ending ← machine.run arguments
  IO.print ending.output
  match ending, ending.error? with
  | _, some e => IO.eprintln ("Error: " ++ e.message)
  | .misused, none => IO.eprint Mailshot.helpText
  | _, none => pure ()
  return ending.code.toUInt32
