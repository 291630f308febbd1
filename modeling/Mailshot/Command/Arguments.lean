/-!
# Arguments

What the program is asked for.  Each command has options, which take a value, and a place for at
most one argument without a name.  Arguments are read from left to right, and the first that does
not fit ends the reading, as does a question for help.
-/

set_option autoImplicit false

namespace Mailshot

/-- A command. -/
inductive Command where
  /-- Prepares an installation. -/
  | init
  /-- Counts the contacts of a tenant that the rules in a file mean. -/
  | preview (tenant rules : String)
  /-- Sends a campaign. -/
  | dispatch (campaign : String)
  /-- Stops a campaign. -/
  | cancel (campaign : String)
  /-- Shows what was sent for a tenant. -/
  | stats (tenant : String)
deriving DecidableEq

/-- What the program is asked for. -/
inductive Request where
  /-- To carry out a command. -/
  | perform (c : Command)
  /-- To explain itself. -/
  | help
  /-- To tell its version. -/
  | version
  /-- Nothing that it understands. -/
  | misuse
deriving DecidableEq

/-- The arguments that a command takes. -/
structure Signature where
  /-- The options, and whether their value may be empty. -/
  options : List (String × Bool)
  /-- Whether there is an argument without a name. -/
  hasOperand : Bool

/-- The arguments of a command that were read. -/
structure Arguments where
  /-- The values of the options. -/
  options : List (String × String)
  /-- The argument without a name. -/
  operand : Option String

namespace Arguments

/-- Whether an argument cannot be the value of an option. -/
def isHyphened (a : String) : Bool := a.toList.head? = some '-' && a ≠ "-"

/-- The name and the value of an option, whose hyphens are gone. -/
def splitOption (cs : List Char) : String × Option String :=
  (String.ofList (cs.takeWhile (· ≠ '=')),
    match cs.dropWhile (· ≠ '=') with
    | [] => none
    | _ :: value => some (String.ofList value))

/-- Adds the value of an option, which there may be only one of. -/
def addOption (s : Signature) (given : Arguments) (name value : String) : Option Arguments :=
  match s.options.find? (·.1 = name) with
  | none => none
  | some (_, mayBeEmpty) =>
    if given.options.any (·.1 = name) || (value = "" && !mayBeEmpty) then none
    else some { given with options := (name, value) :: given.options }

/-- Adds an argument without a name. -/
def addOperand (s : Signature) (given : Arguments) (a : String) : Option Arguments :=
  if s.hasOperand && given.operand.isNone then some { given with operand := some a } else none

/-- Reads arguments.  Behind two hyphens, none of them is an option. -/
def read (s : Signature) (noOptions : Bool) (given : Arguments) :
    List String → Except Request Arguments
  | [] => .ok given
  | a :: rest =>
    if noOptions || !isHyphened a then
      match addOperand s given a with
      | some given => read s noOptions given rest
      | none => .error .misuse
    else
      match a.toList, rest with
      | ['-', '-'], rest => read s true given rest
      | '-' :: '-' :: cs, rest =>
        match splitOption cs, rest with
        | ("help", none), _ => .error .help
        | (name, some value), rest =>
          match addOption s given name value with
          | some given => read s noOptions given rest
          | none => .error .misuse
        | (name, none), value :: rest =>
          if isHyphened value then .error .misuse
          else
            match addOption s given name value with
            | some given => read s noOptions given rest
            | none => .error .misuse
        | (_, none), [] => .error .misuse
      | _ :: 'h' :: _, _ => .error .help
      | _, _ => .error .misuse

/-- The value of an option. -/
def option? (given : Arguments) (name : String) : Option String :=
  (given.options.find? (·.1 = name)).map (·.2)

end Arguments

namespace Command

/-- The names of the commands. -/
def names : List String := ["init", "preview", "dispatch", "cancel", "stats"]

/-- What a command takes, and the command that arguments make. -/
def signature? : String → Option (Signature × (Arguments → Option Command))
  | "init" => some (⟨[], false⟩, fun _ => some .init)
  | "preview" => some (⟨[("tenant", true), ("rules", false)], false⟩, fun given => do
    return .preview (← given.option? "tenant") (← given.option? "rules"))
  | "dispatch" => some (⟨[], true⟩, fun given => given.operand.map .dispatch)
  | "cancel" => some (⟨[], true⟩, fun given => given.operand.map .cancel)
  | "stats" => some (⟨[("tenant", true)], false⟩, fun given => (given.option? "tenant").map .stats)
  | _ => none

end Command

/-- What arguments ask for. -/
def Request.ofArguments : List String → Request
  | [] => .misuse
  | "--help" :: _ => .help
  | "--version" :: _ => .version
  | ["help"] => .help
  | ["help", name] => if name ∈ "help" :: Command.names then .help else .misuse
  | name :: rest =>
    match Command.signature? name with
    | some (s, make) =>
      match Arguments.read s false ⟨[], none⟩ rest with
      | .error request => request
      | .ok given => (make given).elim .misuse .perform
    | none =>
      match name.toList with
      | '-' :: 'h' :: _ => .help
      | '-' :: 'V' :: _ => .version
      | _ => .misuse

end Mailshot
