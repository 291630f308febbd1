import Mailshot.Files.Fault
import Mailshot.Files.Path
import Mailshot.Number.Decimal
import Mailshot.Toml.Reader

/-!
# The configuration

Everything has a default, so that an empty document, or none, is a configuration with which messages
are only logged.  A record may be written as a table, or as a list of its fields in their order;
what it holds beyond its fields does not count.  Some settings of the environment go before those of
the document.
-/

set_option autoImplicit false

namespace Mailshot

/-- The variables that a process was started with. -/
abbrev Environment := String → Option String

/-- A relay, as it is configured. -/
structure ChannelConfig where
  /-- The name of the channel. -/
  name : String
  /-- Where documents are sent. -/
  endpoint : String
  /-- The variable that holds the key. -/
  keyVariable : Option String
  /-- How long an answer is waited for, in seconds. -/
  timeout : Nat
deriving DecidableEq

/-- The configuration. -/
structure Config where
  /-- The path of the database. -/
  databasePath : Option String
  /-- The address that messages come from. -/
  senderAddress : String
  /-- The name that messages come from if neither the campaign nor its tenant has one. -/
  defaultName : String
  /-- Relays in the order in which they are tried. -/
  channels : List ChannelConfig
  /-- How many messages are on their way at once. -/
  concurrency : Nat
deriving DecidableEq

/-- Why there is no configuration. -/
inductive ConfigError where
  /-- The document could not be read. -/
  | unreadable (path : String) (fault : FileFault)
  /-- It is no configuration. -/
  | invalid (path : String)
deriving DecidableEq

/-- The error in words. -/
def ConfigError.message : ConfigError → String
  | .unreadable path fault => "failed to read config at " ++ path ++ ": " ++ fault.message
  | .invalid path => "invalid config at " ++ path

/-! ## Fields of a document -/

namespace Toml.Value

/-- The values of the fields of a record.  A date is a record without any. -/
def fields? (keys : List String) : Value → Option (String → Option Value)
  | .table entries => some fun k => (entries.find? (·.1 = k)).map (·.2)
  | .array items => some fun k => ((keys.zip items).find? (·.1 = k)).map (·.2)
  | .datetime _ => some fun _ => none
  | _ => none

/-- A text. -/
def text? : Value → Option String
  | .string s => some s
  | _ => none

/-- A number that counts something. -/
def count? : Value → Option Nat
  | .integer n => if 0 ≤ n then some n.toNat else none
  | _ => none

/-- The items of a list. -/
def items? : Value → Option (List Value)
  | .array items => some items
  | _ => none

end Toml.Value

/-- The value of a field that has a default. -/
def fieldOr {α : Type} (v : Option Toml.Value) (read : Toml.Value → Option α) (default : α) :
    Option α :=
  match v with
  | none => some default
  | some v => read v

/-- A relay; it must have a name and an endpoint. -/
def ChannelConfig.ofToml? (v : Toml.Value) : Option ChannelConfig := do
  let field ← v.fields? ["name", "endpoint", "api_key_env", "timeout_secs"]
  return {
    name := ← (← field "name").text?
    endpoint := ← (← field "endpoint").text?
    keyVariable := ← fieldOr (field "api_key_env") (·.text?.map some) none
    timeout := ← fieldOr (field "timeout_secs") (·.count?) 30 }

namespace Config

/-- The configuration of an empty document. -/
def default : Config where
  databasePath := none
  senderAddress := "no-reply@localhost"
  defaultName := "Mailcast"
  channels := []
  concurrency := 4

instance : Inhabited Config := ⟨default⟩

/-- The configuration of a document that was read. -/
def ofToml? (entries : List (String × Toml.Value)) : Option Config := do
  let field ← (Toml.Value.table entries).fields? []
  let record (key : String) (keys : List String) : Option (String → Option Toml.Value) :=
    fieldOr (field key) (·.fields? keys) fun _ => none
  let database ← record "database" ["path"]
  let sender ← record "sender" ["address", "default_name"]
  let transport ← record "transport" ["channels"]
  let dispatch ← record "dispatch" ["concurrency"]
  return {
    databasePath := ← fieldOr (database "path") (·.text?.map some) default.databasePath
    senderAddress := ← fieldOr (sender "address") (·.text?) default.senderAddress
    defaultName := ← fieldOr (sender "default_name") (·.text?) default.defaultName
    channels := ← fieldOr (transport "channels")
      (fun v => v.items?.bind (·.mapM ChannelConfig.ofToml?)) default.channels
    concurrency := ← fieldOr (dispatch "concurrency") (·.count?) default.concurrency }

/-- The configuration of a document. -/
def ofText? (text : String) : Option Config := (Toml.ofText? text).bind ofToml?

/-! ## The environment -/

/-- A number that counts something and fits 64 bits, in digits; a plus may stand in front. -/
def countOfText? (s : String) : Option Nat :=
  let digits := match s.toList with
    | '+' :: cs => cs
    | cs => cs
  if digits ≠ [] ∧ digits.all Char.isDigit ∧ Decimal.ofDigits digits < Nat.pow 2 64 then
    some (Decimal.ofDigits digits)
  else none

/-- The configuration with what the environment puts in its place.  A variable that should be a
number and is none does not count. -/
def override (c : Config) (environment : Environment) : Config :=
  { c with
    databasePath := (environment "MAILCAST_DATABASE_PATH").or c.databasePath
    senderAddress := (environment "MAILCAST_SENDER_ADDRESS").getD c.senderAddress
    concurrency := ((environment "MAILCAST_CONCURRENCY").bind countOfText?).getD c.concurrency }

/-- The path of the database; one that does not start at the root is seen from a directory. -/
def resolvedDatabasePath (c : Config) (base : String) : String :=
  Path.join base (c.databasePath.getD "mailcast.db")

/-- The configuration that belongs to what was found at a path; if there is nothing, all defaults
hold. -/
def load (path : String) (found : Except FileFault Found) (environment : Environment) :
    Except ConfigError Config :=
  match found.bind (·.text) with
  | .error .missing => .ok (default.override environment)
  | .error fault => .error (.unreadable path fault)
  | .ok text =>
    match ofText? text with
    | some c => .ok (c.override environment)
    | none => .error (.invalid path)

end Config

end Mailshot
