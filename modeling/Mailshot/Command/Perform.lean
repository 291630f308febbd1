import Mailshot.Command.Arguments
import Mailshot.Command.Database
import Mailshot.Dispatch.Stored
import Mailshot.Settings.Paths
import Mailshot.Settings.Transport

/-!
# Carrying out commands

`Command.perform` does what a command asks for, and `Machine.run` what the arguments of the program
ask for.  Both come to an `Ending`: what is printed, and whether all went well.
-/

set_option autoImplicit false

namespace Mailshot

/-! ## Errors and endings -/

/-- Why a command was not carried out. -/
inductive CommandError where
  /-- It is not known where the installation is. -/
  | noHome
  /-- A directory could not be made. -/
  | noDirectory (path : String)
  /-- A file could not be written. -/
  | notWritten (path : String)
  /-- Others keep rights on a file. -/
  | notProtected (path : String)
  /-- There is no directory for logs. -/
  | noLogs (path : String) (fault : FileFault)
  /-- There is no configuration. -/
  | config (e : ConfigError)
  /-- There is no database. -/
  | database (e : DatabaseError)
  /-- A file of rules could not be read. -/
  | unreadableRules (path : String)
  /-- It holds no rules. -/
  | invalidRules (path : String)
  /-- The file of keys could not be read. -/
  | credentials (path : String) (e : CredentialsError)
  /-- A relay is not in order. -/
  | channel (e : ChannelError)
  /-- A campaign could not be read or changed. -/
  | campaign (e : CampaignError)
  /-- A campaign could not be sent. -/
  | dispatch (campaign : String) (e : Dispatch.Error)
  /-- A campaign was sent and could not be completed. -/
  | notCompleted (campaign : String) (e : CampaignError)
  /-- A campaign could not be stopped. -/
  | cancel (campaign : String) (e : CampaignError)

/-- The error in words. -/
def CommandError.message : CommandError → String
  | .noHome => "cannot determine home directory"
  | .noDirectory path => "failed to create " ++ path
  | .notWritten path => "failed to write " ++ path
  | .notProtected path => "failed to set permissions on " ++ path
  | .noLogs path fault => "failed to create logs directory " ++ path ++ ": " ++ fault.message
  | .config e => e.message
  | .database e => e.message
  | .unreadableRules path => "failed to read rules at " ++ path
  | .invalidRules path => "invalid rule group in " ++ path
  | .credentials path _ => "failed to load " ++ path
  | .channel e => e.message
  | .campaign e => e.message
  | .dispatch id _ => "dispatch of " ++ id ++ " failed"
  | .notCompleted id e => "campaign " ++ id ++ " was not marked completed: " ++ e.message
  | .cancel id _ => "failed to cancel " ++ id

/-- How a run of the program ends. -/
inductive Ending where
  /-- All went well. -/
  | done (output : String)
  /-- Something failed; a part of the output may be there. -/
  | failed (output : String) (e : CommandError)
  /-- The arguments ask for nothing that the program understands. -/
  | misused
  /-- It broke down. -/
  | crashed

namespace Ending

/-- The exit code. -/
def code : Ending → Nat
  | .done _ => 0
  | .failed _ _ => 1
  | .misused => 2
  | .crashed => 101

/-- What is printed. -/
def output : Ending → String
  | .done output => output
  | .failed output _ => output
  | .misused => ""
  | .crashed => ""

/-- Why it did not go well. -/
def error? : Ending → Option CommandError
  | .failed _ e => some e
  | _ => none

end Ending

/-! ## Commands -/

/-- The configuration that a new installation starts with. -/
def defaultConfigText : String := "# Mailcast configuration.

[database]
# path = \"mailcast.db\"

[sender]
address = \"no-reply@localhost\"
default_name = \"Mailcast\"

[dispatch]
concurrency = 4

# Relay channels in failover order. With none configured, messages are only logged.
# [[transport.channels]]
# name = \"primary\"
# endpoint = \"https://relay.example.com/v1/send\"
# api_key_env = \"MAILCAST_PRIMARY_KEY\"
# timeout_secs = 30
"

/-- The file of keys that a new installation starts with. -/
def defaultCredentialsText : String := "# Relay API keys, one KEY=value per line.\n"

namespace Command

variable {m : Type → Type} [Monad m]

/-- A step of a command, and what its failure means. -/
def orFail {ε α : Type} (step : m (Except ε α)) (meaning : ε → CommandError) :
    ExceptT CommandError m α :=
  ExceptT.mk do
    match ← step with
    | .ok a => return .ok a
    | .error e => return .error (meaning e)

/-- The configuration, the path of the database and what it holds. -/
def openRuntime (machine : Machine m) (paths : Paths) :
    ExceptT CommandError m (Config × String × Store) := do
  let found ← machine.inspect paths.config
  let config ← orFail (pure (Config.load paths.config found machine.environment)) .config
  let path := config.resolvedDatabasePath paths.root
  let store ← orFail (machine.openDatabase path) .database
  return (config, path, store)

/-- Writes a file unless there is something in its place; says whether it did. -/
def writeNew (machine : Machine m) (path text : String) : ExceptT CommandError m Bool := do
  match ← machine.inspect path with
  | .ok _ => return false
  | .error _ =>
    orFail (machine.write path text) fun _ => .notWritten path
    return true

/-- Prepares an installation; files that are there stay as they are. -/
def initialise (machine : Machine m) (paths : Paths) : ExceptT CommandError m Ending := do
  orFail (machine.createDirectory paths.root) fun _ => .noDirectory paths.root
  orFail (machine.createDirectory paths.logs) fun _ => .noDirectory paths.logs
  let _ ← writeNew machine paths.config defaultConfigText
  if ← writeNew machine paths.credentials defaultCredentialsText then
    orFail (machine.protect paths.credentials) fun _ => .notProtected paths.credentials
  let (_, path, _) ← openRuntime machine paths
  return .done ("initialised " ++ paths.root ++ "\ndatabase: " ++ path ++ "\n")

/-- Counts the contacts of a tenant that the rules in a file mean, and says which conditions can
mean nobody. -/
def previewRules (machine : Machine m) (paths : Paths) (tenant rules : String) :
    ExceptT CommandError m Ending := do
  let found ← machine.inspect rules
  let text ← orFail (pure (found.bind (·.text))) fun _ => .unreadableRules rules
  match RuleGroup.ofText? text with
  | none => throw (.invalidRules rules)
  | some group =>
    let (_, _, store) ← openRuntime machine paths
    let (count, _) := Connection.contactSource.preview group tenant (.ofStore store)
    let problems := group.diagnose.map fun p => "  never matches: " ++ p.message ++ "\n"
    return .done ("matching contacts: " ++ toString count ++ "\n" ++ String.join problems)

/-- What a dispatch prints. -/
def endingOfDispatch (campaign : String) : Dispatch.Ending → Ending
  | .crashed => .crashed
  | .answered (.ok report) => .done (report.toJson.pretty ++ "\n")
  | .answered (.error (.finalize report e)) =>
    .failed (report.toJson.pretty ++ "\n") (.notCompleted campaign e)
  | .answered (.error e) => .failed "" (.dispatch campaign e)

/-- Sends a campaign to its segments. -/
def sendCampaign (machine : Machine m) (paths : Paths) (campaign : String) :
    ExceptT CommandError m Ending := do
  orFail (machine.createDirectory paths.logs) (.noLogs paths.logs)
  let (config, path, store) ← openRuntime machine paths
  let found ← machine.inspect paths.credentials
  let credentials ← orFail
    (pure (Credentials.loadOptional paths.credentials found machine.environment))
    (.credentials paths.credentials)
  let failover ← orFail (pure (config.failover machine.network credentials machine.environment))
    .channel
  let now ← machine.now
  let engine := Dispatch.Engine.ofStore (fun _ => now.stamp) failover (pure now) config.concurrency
    (some config.defaultName)
  let (ending, connection) := engine.execute campaign .segments (.ofStore store)
  machine.saveStore path connection.store
  return endingOfDispatch campaign ending

/-- Stops a campaign. -/
def cancelCampaign (machine : Machine m) (paths : Paths) (campaign : String) :
    ExceptT CommandError m Ending := do
  let (_, path, store) ← openRuntime machine paths
  let now ← machine.now
  let (answer, connection) := Connection.requestCancel campaign now.stamp (.ofStore store)
  machine.saveStore path connection.store
  orFail (pure answer) (.cancel campaign)
  return .done ("cancellation requested for " ++ campaign ++ "\n")

/-- A line on a campaign. -/
def campaignLine (c : Campaign) : String :=
  let status := c.status.name
  let padding := String.ofList (List.replicate (10 - status.length) ' ')
  "  " ++ c.id ++ "  " ++ status ++ padding ++ " " ++ c.name ++ "\n"

/-- Shows what was sent for a tenant, and its campaigns. -/
def showStats (machine : Machine m) (paths : Paths) (tenant : String) :
    ExceptT CommandError m Ending := do
  let (_, _, store) ← openRuntime machine paths
  let stats := store.stats tenant
  let campaigns ← orFail (pure (store.campaignsOf tenant)) .campaign
  return .done ("tenant " ++ tenant ++ ": sent " ++ toString stats.sent ++ " failed " ++
    toString stats.failed ++ "\n" ++ String.join (campaigns.map campaignLine))

/-- Carries out a command. -/
def perform (machine : Machine m) (paths : Paths) (c : Command) : m Ending := do
  let steps := match c with
    | .init => initialise machine paths
    | .preview tenant rules => previewRules machine paths tenant rules
    | .dispatch campaign => sendCampaign machine paths campaign
    | .cancel campaign => cancelCampaign machine paths campaign
    | .stats tenant => showStats machine paths tenant
  match ← steps.run with
  | .ok ending => return ending
  | .error e => return .failed "" e

end Command

/-! ## The program -/

/-- How the program explains itself. -/
def helpText : String := "Rule-based audience targeting and bulk email campaign dispatch

Usage: mailcast <COMMAND>

Commands:
  init      Create the runtime directory, a default config and the database
  preview   Count a tenant's contacts matching a rule group and explain dead conditions
  dispatch  Dispatch a draft or scheduled campaign to its linked segments
  cancel    Ask an in-progress dispatch to stop starting new recipients
  stats     Show sent and failed totals for a tenant
  help      Print this message or the help of the given subcommand(s)

Options:
  -h, --help     Print help
  -V, --version  Print version
"

/-- The version of the program. -/
def versionText : String := "mailcast 0.1.0\n"

/-- Does what arguments ask for. -/
def Machine.run {m : Type → Type} [Monad m] (machine : Machine m) (arguments : List String) :
    m Ending :=
  match Request.ofArguments arguments with
  | .help => pure (.done helpText)
  | .version => pure (.done versionText)
  | .misuse => pure .misused
  | .perform command =>
    match Paths.ofEnvironment? machine.environment with
    | none => pure (.failed "" .noHome)
    | some paths => command.perform machine paths

end Mailshot
