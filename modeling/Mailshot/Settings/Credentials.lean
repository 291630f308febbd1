import Mailshot.Settings.EnvFile
import Mailshot.Text.Quoted

/-!
# Keys of relays

Keys stand in a file of variables that nobody but its owner may read.  Their values are never shown.
-/

set_option autoImplicit false

namespace Mailshot

/-- The variables that hold keys. -/
structure Credentials where
  /-- The variables. -/
  values : Dictionary String
deriving DecidableEq, Inhabited

/-- Why there are no keys. -/
inductive CredentialsError where
  /-- There is no file. -/
  | missing (path : String)
  /-- Others have rights on the file. -/
  | exposed (path : String) (mode : Nat)
  /-- The file could not be opened. -/
  | unreadable (path : String)
  /-- It holds something else than variables. -/
  | invalid (path : String)
  /-- There is no such variable. -/
  | unknown (name : String)
deriving DecidableEq

/-- The error in words. -/
def CredentialsError.message : CredentialsError → String
  | .missing path => "credentials file does not exist: " ++ path
  | .exposed path mode =>
    "credentials file " ++ path ++ " must be 0600, found " ++ String.ofList (Nat.toDigits 8 mode)
  | .unreadable path => "failed to read credentials at " ++ path
  | .invalid path => "failed to parse key-value entry in credentials file " ++ path
  | .unknown name => "missing required credential: " ++ name

namespace Credentials

/-- The value of a variable. -/
def find? (c : Credentials) (name : String) : Option String := c.values.find? name

/-- The value of a variable that there must be. -/
def require (c : Credentials) (name : String) : Except CredentialsError String :=
  match c.find? name with
  | some value => .ok value
  | none => .error (.unknown name)

/-- How many variables there are. -/
def size (c : Credentials) : Nat := c.values.size

/-- The variables as they are shown in logs, without their values. -/
def debugText (c : Credentials) : String :=
  "Credentials \x7b keys: " ++ quotedList c.values.keys ++ ", values: \"[REDACTED]\" \x7d"

/-- Whether nobody but the owner has any right. -/
def isPrivate (mode : Nat) : Bool := mode &&& 0o077 = 0

/-- The keys in what was found at a path. -/
def load (path : String) (found : Except FileFault Found) (environment : Environment) :
    Except CredentialsError Credentials :=
  match found with
  | .error _ => .error (.missing path)
  | .ok found =>
    if !found.mode.all isPrivate then .error (.exposed path (found.mode.getD 0))
    else
      match found.text with
      | .error .denied => .error (.unreadable path)
      | .error _ => .error (.invalid path)
      | .ok text =>
        match EnvFile.ofText? environment text with
        | some values => .ok ⟨values⟩
        | none => .error (.invalid path)

/-- The same, where a missing file means that there are no keys. -/
def loadOptional (path : String) (found : Except FileFault Found) (environment : Environment) :
    Except CredentialsError Credentials :=
  match found with
  | .error _ => .ok ⟨.empty⟩
  | .ok _ => load path found environment

end Credentials

end Mailshot
