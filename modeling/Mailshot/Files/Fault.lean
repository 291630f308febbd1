import Mailshot.Text.Charset

/-!
# What can be wrong with a file

`FileFault` are the reasons why something cannot be done with a path.  `Found` is what there is at a
path: its access rights, where the system tells them, and the bytes that can be read there.
-/

set_option autoImplicit false

namespace Mailshot

/-- Why something cannot be done with a path. -/
inductive FileFault where
  /-- There is nothing here. -/
  | missing
  /-- Access is denied. -/
  | denied
  /-- There is something here that is no directory. -/
  | occupied
  /-- Something on the way is no directory. -/
  | notDirectory
  /-- There is a directory here. -/
  | isDirectory
  /-- What is here is no text. -/
  | notText
  /-- The path holds a character that ends texts. -/
  | invalidPath
deriving DecidableEq

/-- A fault in words. -/
def FileFault.message : FileFault → String
  | .missing => "No such file or directory (os error 2)"
  | .denied => "Permission denied (os error 13)"
  | .occupied => "File exists (os error 17)"
  | .notDirectory => "Not a directory (os error 20)"
  | .isDirectory => "Is a directory (os error 21)"
  | .notText => "stream did not contain valid UTF-8"
  | .invalidPath => "file name contained an unexpected NUL byte"

/-- What there is at a path. -/
structure Found where
  /-- The access rights of the owner, the group and all others; nothing if the system does not tell
  them. -/
  mode : Option Nat
  /-- The bytes. -/
  bytes : Except FileFault (List UInt8)

/-- The text of what was found. -/
def Found.text (f : Found) : Except FileFault String := do
  match Charset.utf8Text? (← f.bytes) with
  | some text => .ok text
  | none => .error .notText

end Mailshot
