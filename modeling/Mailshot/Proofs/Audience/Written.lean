import Mailshot.Audience.Predicate
import Mailshot.Proofs.Json.RoundTrip

/-!
# Rule groups as texts

A rule group is stored as a text.  What comes back is the group with the members of all objects
inside its values in key order (`RuleGroup.ordered`), provided that the text does not nest too deep
and its numbers read back.  Rules compare texts and numbers only, so the order of members makes no
difference to them: the group that comes back means the same contacts
(`RuleGroup.compile_ofTextOrEmpty_text`).
-/

set_option autoImplicit false

namespace Mailshot

/-! ## The order of members -/

/-- A value has the same forms whatever order its members are in. -/
theorem Scalar.ofJson?_ordered (v : Json) : Scalar.ofJson? v.ordered = Scalar.ofJson? v := by
  cases v <;> rfl

theorem Scalar.members_ordered (v : Json) : Scalar.members v.ordered = Scalar.members v := by
  cases v with
  | array items =>
    show (Json.orderedItems items).filterMap Scalar.ofJson? = items.filterMap Scalar.ofJson?
    rw [Json.orderedItems_eq_map, List.filterMap_map]
    exact congrArg (List.filterMap · items) (funext Scalar.ofJson?_ordered)
  | _ => rfl

theorem FieldTest.ofValue_ordered (op : Operator) (v : Json) :
    FieldTest.ofValue op v.ordered = FieldTest.ofValue op v := by
  simp only [FieldTest.ofValue, Scalar.needle?, Scalar.number?, Scalar.ofJson?_ordered,
    Scalar.members_ordered]

namespace Condition

/-- A condition whose value is in order. -/
def ordered (c : Condition) : Condition := { c with value := c.value.ordered }

theorem check_ordered (c : Condition) : c.ordered.check = c.check := by
  rw [check, check, compile?, compile?, ordered, FieldTest.ofValue_ordered]

/-- A condition is read back from its value in order. -/
theorem ofJson_ordered_toJson (c : Condition) : ofJson c.toJson.ordered = c.ordered := by
  have hop : operatorOf (some (.string c.operator.name)) = c.operator := by
    show (some (Operator.ofName c.operator.name)).getD .unknown = c.operator
    rw [Operator.ofName_name]
    rfl
  have hmembers : c.toJson.ordered = .object [("field", .string c.field),
      ("operator", .string c.operator.name), ("value", c.value.ordered)] := by
    have hvalue : Json.addMember "value" c.value.ordered [] = [("value", c.value.ordered)] := rfl
    have hvalueLt : "operator" < "value" := by decide
    have hfieldLt : "field" < "operator" ∧ "field" < "value" := by decide
    have hoperator (v w : Json) :
        Json.addMember "operator" v [("value", w)] = [("operator", v), ("value", w)] :=
      Json.addMember_of_forall_lt v (List.forall_mem_singleton.2 hvalueLt)
    have hfield (u v w : Json) : Json.addMember "field" u [("operator", v), ("value", w)] =
        [("field", u), ("operator", v), ("value", w)] :=
      Json.addMember_of_forall_lt u
        (List.forall_mem_cons.2 ⟨hfieldLt.1, List.forall_mem_singleton.2 hfieldLt.2⟩)
    rw [toJson, Json.ordered, Json.orderedMembers, Json.orderedMembers, Json.orderedMembers,
      Json.orderedMembers, hvalue, hoperator, hfield]
    rfl
  rw [hmembers, ofJson, ordered]
  simp [Dictionary.valueOf?, fieldOf, hop]

end Condition

namespace RuleGroup

/-- A group whose values are in order. -/
def ordered (g : RuleGroup) : RuleGroup := { g with conditions := g.conditions.map (·.ordered) }

/-- The order of members makes no difference to what is compiled. -/
theorem compile_ordered (g : RuleGroup) : g.ordered.compile = g.compile := by
  have hchecks : (g.conditions.map (·.ordered)).map (·.check) = g.conditions.map (·.check) := by
    simp only [List.map_map, Function.comp_def, Condition.check_ordered]
  rw [compile, compile, ordered, List.isEmpty_map, hchecks]

/-! ## Back from the text -/

/-- Conditions are read as a list of any values. -/
theorem mapM_itemsToSyntax (vs : List Json) {room : Nat} (h : Json.itemsDepth vs ≤ room) :
    (Json.itemsToSyntax vs).mapM (Json.decodeValue room) = some (vs.map Json.ordered) := by
  induction vs with
  | nil => rfl
  | cons v vs ih =>
    rw [Json.itemsDepth] at h
    have hv : Json.decodeValue room v.toSyntax = some v.ordered :=
      Json.Syntax.toValue?_toSyntax v (by omega)
    rw [Json.itemsToSyntax, List.mapM_cons, hv, ih (by omega)]
    rfl

/-- **A group comes back from its text**, with its values in order. -/
theorem ofText?_text {g : RuleGroup} (hdepth : g.toJson.depth ≤ Json.depthLimit)
    (hback : ∀ n ∈ g.toJson.numbers, n.ReadsBack) : ofText? g.text = some g.ordered := by
  -- the group and the list of its conditions are two containers around each condition
  have hroom : Json.itemsDepth (g.conditions.map (·.toJson)) ≤ 125 := by
    simp only [toJson, Json.depth, Json.membersDepth, Json.depthLimit] at hdepth
    omega
  rw [ofText?, text, Json.decodeDocument?, Json.Syntax.ofText?_print hback, Option.bind_some]
  have hconditions : Json.decodeList Json.decodeValue 126
      (.array (Json.itemsToSyntax (g.conditions.map (·.toJson)))) =
        some ((g.conditions.map (·.toJson)).map Json.ordered) := mapM_itemsToSyntax _ hroom
  have hlogic : Logic.decode 126 (.string (some g.logic.name)) = some g.logic :=
    Logic.ofName?_name g.logic
  have hrecord : g.toJson.toSyntax.record? ["logic", "conditions"] Json.depthLimit =
      some ⟨126, Json.Field.ofMembers [(some "logic", .string (some g.logic.name)),
        (some "conditions", .array (Json.itemsToSyntax (g.conditions.map (·.toJson))))]⟩ := rfl
  simp [decode, hrecord, Json.Record.orDefault?, Json.Field.ofMembers, Json.Syntax.under, hlogic,
    hconditions, Condition.ofJson_ordered_toJson, ordered]

/-- A group comes back from its text as it is: it does not nest too deep, its values are in order,
and its numbers read back. -/
structure ReadsBack (g : RuleGroup) : Prop where
  /-- Containers are not open inside each other more often than is read. -/
  depth : g.toJson.depth < 128
  /-- The members of all objects inside its values are in order. -/
  canonical : ∀ c ∈ g.conditions, c.value.Canonical
  /-- Its numbers are read from their texts. -/
  numbers : ∀ x, .real x ∈ g.toJson.numbers → (JsonNumber.real x).ReadsBack

/-- **A group whose values are in order comes back from its text as it was.** -/
theorem ReadsBack.ofText?_text {g : RuleGroup} (h : g.ReadsBack) : ofText? g.text = some g := by
  have hconditions : g.conditions.map (·.ordered) = g.conditions := by
    conv => rhs; rw [← List.map_id g.conditions]
    refine List.map_congr_left fun c hc => ?_
    rw [Condition.ordered, (h.canonical c hc).ordered_eq]
    rfl
  have hdepth : g.toJson.depth ≤ Json.depthLimit := Nat.le_of_lt_succ h.depth
  rw [RuleGroup.ofText?_text hdepth (JsonNumber.readsBack_of_real h.numbers), ordered, hconditions]

theorem ReadsBack.ofTextOrEmpty_text {g : RuleGroup} (h : g.ReadsBack) :
    ofTextOrEmpty g.text = g := by
  rw [ofTextOrEmpty, h.ofText?_text, Option.getD_some]

/-- **A group that is read from its own text means the same contacts.** -/
theorem compile_ofTextOrEmpty_text {g : RuleGroup} (hdepth : g.toJson.depth ≤ Json.depthLimit)
    (hback : ∀ n ∈ g.toJson.numbers, n.ReadsBack) :
    (ofTextOrEmpty g.text).compile = g.compile := by
  rw [ofTextOrEmpty, ofText?_text hdepth hback, Option.getD_some, compile_ordered]

end RuleGroup

end Mailshot
