import Mailshot.Audience.Contact
import Mailshot.Audience.Rule
import Mailshot.Text.Lowercase
import Mailshot.Text.Search

/-!
# Predicates over contacts

`RuleGroup.compile` turns a group into a `Predicate`, which decides for any contact whether it is
meant.  Compiling never fails: a condition that has a problem becomes a test that nothing passes,
and `RuleGroup.diagnose` lists the problems.  `Condition.compile?` is the one place where it is
decided what a problem is, so the two always agree.

A value is compared in two forms: as a text without blanks around it, and as a number if it is one
or its text reads as one (`Scalar`).
-/

set_option autoImplicit false

namespace Mailshot

/-! ## Values of rules -/

/-- A value of a rule in the forms that are compared. -/
structure Scalar where
  /-- The text, without blanks around it. -/
  text : String
  /-- The number, if the value has one. -/
  number : Option Finite64
deriving DecidableEq

/-- The number that a text reads as, blanks around it aside. -/
def numberOfText? (s : String) : Option Finite64 := Finite64.ofText? (trim s)

/-- The forms of a value; lists, objects and null have none. -/
def Scalar.ofJson? : Json → Option Scalar
  | .string s => some ⟨trim s, numberOfText? (trim s)⟩
  | .number n => some ⟨n.text, some n.toFinite64⟩
  | .bool true => some ⟨"true", none⟩
  | .bool false => some ⟨"false", none⟩
  | _ => none

/-- The forms of the members of a list that have any, and of a value that is not a list. -/
def Scalar.members : Json → List Scalar
  | .array items => items.filterMap Scalar.ofJson?
  | v => (Scalar.ofJson? v).toList

/-! ## Tests -/

/-- The four orders. -/
inductive Comparison where
  /-- Greater. -/
  | greater
  /-- Less. -/
  | less
  /-- Greater or equal. -/
  | greaterOrEqual
  /-- Less or equal. -/
  | lessOrEqual
deriving DecidableEq

/-- Whether two numbers stand in an order. -/
def Comparison.holds (c : Comparison) (a b : Binary64) : Bool :=
  match c with
  | .greater => decide (b < a)
  | .less => decide (a < b)
  | .greaterOrEqual => decide (b ≤ a)
  | .lessOrEqual => decide (a ≤ b)

/-- A test of the value of a field. -/
inductive FieldTest where
  /-- Nothing passes. -/
  | never
  /-- The field is equal to a value. -/
  | equals (expected : Scalar)
  /-- A text holds another, letter case aside, or a tag is equal to it. -/
  | contains (needle : String)
  /-- A tag is equal to a text. -/
  | hasTag (tag : String)
  /-- A number stands in an order to another. -/
  | compare (comparison : Comparison) (bound : Finite64)
  /-- The field is equal to one of several values. -/
  | inSet (members : List Scalar)
deriving DecidableEq

/-- Whether some tag, without the blanks around it, is a text. -/
def someTag (tags : List String) (text : String) : Bool := tags.any fun t => trim t = text

/-- Whether a number is equal to another one, if there is another one. -/
def sameNumber (expected : Option Finite64) (x : Binary64) : Bool :=
  expected.any fun y => (Binary64.finite y).same x

/-- Whether the value of a field is equal to a value of a rule. -/
def Contact.FieldView.isEqual (v : Contact.FieldView) (expected : Scalar) : Bool :=
  match v with
  | .text s => trim s = expected.text
  | .number x => sameNumber expected.number x
  | .tags labels => someTag labels expected.text
  | .missing => false

/-- The number that the value of a field stands for. -/
def Contact.FieldView.number? : Contact.FieldView → Option Binary64
  | .number x => some x
  | .text s => (numberOfText? s).map .finite
  | _ => none

/-- Whether the value of a field passes a test. -/
def FieldTest.passes (test : FieldTest) (v : Contact.FieldView) : Bool :=
  match test with
  | .never => false
  | .equals expected => v.isEqual expected
  | .contains needle =>
    match v with
    | .text s => containsText (lowercase s) (lowercase needle)
    | .tags labels => someTag labels needle
    | _ => false
  | .hasTag tag =>
    match v with
    | .tags labels => someTag labels tag
    | _ => false
  | .compare comparison bound => v.number?.any fun x => comparison.holds x (.finite bound)
  | .inSet members => members.any v.isEqual

/-! ## Problems -/

/-- Why a value cannot be used with an operator. -/
inductive ValueProblem where
  /-- It has no text form. -/
  | notScalar
  /-- It has no text form, or one without any character but blanks. -/
  | noText
  /-- It has no number. -/
  | notNumber
  /-- It has no usable member. -/
  | noMember
deriving DecidableEq

/-- What the operator would have needed. -/
def ValueProblem.message : ValueProblem → String
  | .notScalar => "expected a single text or number"
  | .noText => "expected non-empty text"
  | .notNumber => "expected a number"
  | .noMember => "expected at least one value"

/-- Why a condition can never hold. -/
inductive ConditionProblem where
  /-- It names no field. -/
  | blankField
  /-- It asks for nothing that is known. -/
  | unknownOperator
  /-- Its value does not fit its operator. -/
  | unusableValue (operator : Operator) (problem : ValueProblem)
deriving DecidableEq

/-- Why a group, or a condition of it, describes nobody. -/
inductive Problem where
  /-- The group has no conditions. -/
  | emptyGroup
  /-- The condition at this index can never hold. -/
  | condition (index : Nat) (problem : ConditionProblem)
deriving DecidableEq

/-- A problem in words. -/
def Problem.message : Problem → String
  | .emptyGroup => "rule group has no conditions and matches nobody"
  | .condition i .blankField => "condition " ++ toString i ++ ": field name is blank"
  | .condition i .unknownOperator => "condition " ++ toString i ++ ": unsupported operator"
  | .condition i (.unusableValue op p) =>
    "condition " ++ toString i ++ ": value unusable with '" ++ op.name ++ "': " ++ p.message

/-! ## Compiling -/

/-- The text form of a value, unless it is empty. -/
def Scalar.needle? (v : Json) : Option String :=
  ((Scalar.ofJson? v).map (·.text)).filter fun t => !t.isEmpty

/-- The number of a value. -/
def Scalar.number? (v : Json) : Option Finite64 := (Scalar.ofJson? v).bind (·.number)

/-- The test that an operator and a value make up, or what is wrong with the value. -/
def FieldTest.ofValue (op : Operator) (v : Json) : Except ConditionProblem FieldTest :=
  let usable (p : ValueProblem) (t : Option FieldTest) : Except ConditionProblem FieldTest :=
    match t with
    | some t => .ok t
    | none => .error (.unusableValue op p)
  let ordered (c : Comparison) := usable .notNumber ((Scalar.number? v).map (.compare c))
  match op with
  | .equals => usable .notScalar ((Scalar.ofJson? v).map .equals)
  | .contains => usable .noText ((Scalar.needle? v).map .contains)
  | .arrayContains => usable .noText ((Scalar.needle? v).map .hasTag)
  | .greater => ordered .greater
  | .less => ordered .less
  | .greaterOrEqual => ordered .greaterOrEqual
  | .lessOrEqual => ordered .lessOrEqual
  | .inSet =>
    let members := Scalar.members v
    usable .noMember (if members.isEmpty then none else some (.inSet members))
  | .unknown => .error .unknownOperator

/-- The test of a condition, or its problem.  A blank field name comes before any other problem. -/
def Condition.compile? (c : Condition) : Except ConditionProblem FieldTest :=
  if blank c.field then .error .blankField else FieldTest.ofValue c.operator c.value

/-- A test of one field of a contact. -/
structure Check where
  /-- The name of the field. -/
  field : String
  /-- The test of its value. -/
  test : FieldTest
deriving DecidableEq

/-- Whether a contact passes a check. -/
def Check.passes (c : Check) (contact : Contact) : Bool := c.test.passes (contact.field c.field)

/-- The check of a condition; nothing passes that of a condition with a problem. -/
def Condition.check (c : Condition) : Check :=
  { field := trim c.field
    test := match c.compile? with
      | .ok test => test
      | .error _ => .never }

/-- A decision about contacts. -/
inductive Predicate where
  /-- No contact is meant. -/
  | never
  /-- Contacts are meant that pass all checks. -/
  | all (checks : List Check)
  /-- Contacts are meant that pass at least one check. -/
  | any (checks : List Check)
deriving DecidableEq

namespace Predicate

/-- Whether the checks alone show that no contact is meant. -/
def isNever : Predicate → Bool
  | never => true
  | all checks => checks.any (·.test = .never)
  | any checks => checks.all (·.test = .never)

/-- Whether a contact is meant. -/
def holds (p : Predicate) (contact : Contact) : Bool :=
  match p with
  | never => false
  | all checks => checks.all (·.passes contact)
  | any checks => checks.any (·.passes contact)

end Predicate

namespace RuleGroup

/-- The predicate of a group. -/
def compile (g : RuleGroup) : Predicate :=
  if g.conditions.isEmpty then .never
  else
    match g.logic with
    | .all => .all (g.conditions.map (·.check))
    | .any => .any (g.conditions.map (·.check))

/-- The problems of conditions, the first of which has this index. -/
def problemsFrom (index : Nat) : List Condition → List Problem
  | [] => []
  | c :: cs =>
    match c.compile? with
    | .ok _ => problemsFrom (index + 1) cs
    | .error p => .condition index p :: problemsFrom (index + 1) cs

/-- All problems of a group, in the order of its conditions. -/
def diagnose (g : RuleGroup) : List Problem :=
  if g.conditions.isEmpty then [.emptyGroup] else problemsFrom 0 g.conditions

end RuleGroup

end Mailshot
