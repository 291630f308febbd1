import Mailshot.Settings.Config

/-!
# Where things are

All files of an installation stand in one directory, unless the configuration says otherwise.
-/

set_option autoImplicit false

namespace Mailshot

/-- Where the files of an installation are. -/
structure Paths where
  /-- The directory that holds them. -/
  root : String
  /-- The configuration. -/
  config : String
  /-- The keys of relays. -/
  credentials : String
  /-- The directory of the logs. -/
  logs : String
deriving DecidableEq

namespace Paths

/-- The paths in a directory. -/
def under (root : String) : Paths where
  root := root
  config := Path.join root "config.toml"
  credentials := Path.join root ".env"
  logs := Path.join root "logs"

/-- The directory of an installation: what the environment names, or one in the home directory. -/
def root? (environment : Environment) : Option String :=
  match environment "MAILCAST_HOME" with
  | some root => some root
  | none => ((environment "HOME").filter (· ≠ "")).map (Path.join · ".mailcast")

/-- The paths of an installation. -/
def ofEnvironment? (environment : Environment) : Option Paths := (root? environment).map under

end Paths

end Mailshot
