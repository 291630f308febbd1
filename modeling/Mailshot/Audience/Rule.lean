import Mailshot.Json.Printer
import Mailshot.Json.Record

/-!
# Rule groups

A `RuleGroup` says which contacts are meant: a list of conditions, of which all or at least one must
hold.  Groups are written by hand, so a document that is a group at all is read without trust in its
conditions: every entry of the list becomes a condition, and an entry that is not one becomes
`Condition.malformed`, which has a blank field and no known operator.
-/

set_option autoImplicit false

namespace Mailshot

/-- How the conditions of a group are combined. -/
inductive Logic where
  /-- All of them must hold. -/
  | all
  /-- At least one must hold. -/
  | any
deriving DecidableEq, Inhabited

/-- What a condition asks of its field. -/
inductive Operator where
  /-- To be equal to the value. -/
  | equals
  /-- To hold the value as a tag, or somewhere in a text. -/
  | contains
  /-- To be greater. -/
  | greater
  /-- To be less. -/
  | less
  /-- To be greater or equal. -/
  | greaterOrEqual
  /-- To be less or equal. -/
  | lessOrEqual
  /-- To be equal to one of several values. -/
  | inSet
  /-- To hold the value as a tag. -/
  | arrayContains
  /-- Nothing that is known here. -/
  | unknown
deriving DecidableEq, Inhabited

/-- One test of one field. -/
structure Condition where
  /-- The name of the field, as it was written. -/
  field : String
  /-- What is asked of the field. -/
  operator : Operator
  /-- The value that the field is compared with. -/
  value : Json
deriving Inhabited

/-- A description of contacts.  A group without conditions describes nobody. -/
structure RuleGroup where
  /-- How the conditions are combined. -/
  logic : Logic
  /-- The conditions in order. -/
  conditions : List Condition
deriving Inhabited

/-! ## Names -/

/-- How a logic is written. -/
def Logic.name : Logic → String
  | .all => "AND"
  | .any => "OR"

/-- The logic of a name. -/
def Logic.ofName? (name : String) : Option Logic :=
  if name = "AND" ∨ name = "and" then some .all
  else if name = "OR" ∨ name = "or" then some .any
  else none

/-- How an operator is written. -/
def Operator.name : Operator → String
  | .equals => "equals"
  | .contains => "contains"
  | .greater => "gt"
  | .less => "lt"
  | .greaterOrEqual => "gte"
  | .lessOrEqual => "lte"
  | .inSet => "in"
  | .arrayContains => "array_contains"
  | .unknown => "unknown"

/-- The operator of a name. -/
def Operator.ofName (name : String) : Operator :=
  if name = "equals" then .equals
  else if name = "contains" then .contains
  else if name = "gt" ∨ name = "greater_than" then .greater
  else if name = "lt" ∨ name = "less_than" then .less
  else if name = "gte" ∨ name = "greater_or_equal" then .greaterOrEqual
  else if name = "lte" ∨ name = "less_or_equal" then .lessOrEqual
  else if name = "in" ∨ name = "in_set" then .inSet
  else if name = "array_contains" then .arrayContains
  else .unknown

/-- An operator is read back from its name. -/
theorem Operator.ofName_name (op : Operator) : ofName op.name = op := by
  cases op <;> rfl

/-- A logic is read back from its name. -/
theorem Logic.ofName?_name (l : Logic) : ofName? l.name = some l := by
  cases l <;> rfl

/-! ## Reading -/

/-- Reads a logic. -/
def Logic.decode : Json.Decoder Logic := fun room s =>
  (Json.decodeName room s).bind Logic.ofName?

/-- Reads an operator; any name is one. -/
def Operator.decode : Json.Decoder Operator := fun room s =>
  (Json.decodeName room s).map Operator.ofName

namespace Condition

/-- What stands in for an entry that is not a condition. -/
def malformed : Condition := ⟨"", .unknown, .null⟩

/-- The field name that a value gives: only a text is one. -/
def fieldOf : Option Json → String
  | some (.string s) => s
  | _ => ""

/-- The operator that a value gives. -/
def operatorOf (v : Option Json) : Operator := (v.bind (Json.decode? Operator.decode)).getD .unknown

/-- The condition that an entry stands for.  Parts that are missing or of the wrong kind are
replaced one by one; an entry of the wrong shape is replaced as a whole. -/
def ofJson (entry : Json) : Condition :=
  match entry with
  | .object members =>
    { field := fieldOf (Dictionary.valueOf? "field" members)
      operator := operatorOf (Dictionary.valueOf? "operator" members)
      value := (Dictionary.valueOf? "value" members).getD .null }
  | .array items =>
    if items.length ≤ 3 then
      { field := fieldOf items[0]?
        operator := operatorOf items[1]?
        value := items[2]?.getD .null }
    else malformed
  | _ => malformed

/-- A condition as JSON. -/
def toJson (c : Condition) : Json :=
  .object [("field", .string c.field), ("operator", .string c.operator.name), ("value", c.value)]

end Condition

namespace RuleGroup

/-- The group that describes nobody. -/
def empty : RuleGroup := ⟨.all, []⟩

/-- A group as JSON. -/
def toJson (g : RuleGroup) : Json :=
  .object [("logic", .string g.logic.name), ("conditions", .array (g.conditions.map (·.toJson)))]

/-- A group as a text, which `ofText?` reads. -/
def text (g : RuleGroup) : String := g.toJson.print

/-- Reads a group. -/
def decode : Json.Decoder RuleGroup := fun room s => do
  let r ← s.record? ["logic", "conditions"] room
  let logic ← r.orDefault? "logic" .all Logic.decode
  let entries ← r.orDefault? "conditions" [] (Json.decodeList Json.decodeValue)
  return ⟨logic, entries.map Condition.ofJson⟩

/-- Reads a group from a text. -/
def ofText? (s : String) : Option RuleGroup := Json.decodeDocument? decode s

/-- Reads a group from a text; a text that is not a group describes nobody. -/
def ofTextOrEmpty (s : String) : RuleGroup := (ofText? s).getD empty

end RuleGroup

end Mailshot
