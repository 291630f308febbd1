import Mailshot.Audience.Predicate
import Mailshot.Proofs.Json.Number

/-!
# What a rule group means

`RuleGroup.compile` takes a group apart once, throws out the conditions that have a problem, and
leaves tests that look at a contact later.  Here the rules are read directly: what a value says
(`Json.HasText`, `Json.HasNumber`), when a value of a field is equal to it, holds it or stands in an
order to it, when a condition holds of a contact, and when a group means a contact
(`RuleGroup.Means`).  Nothing in these definitions is compiled, discarded or tested; they say for
each operator which kinds of field and of value fit together.

The last theorem is that the compiled predicate means what the group says.  The one place where a
reader of rules may be surprised stands beside it: a blank value is not found among tags, not even
where a tag is blank too.
-/

set_option autoImplicit false

namespace Mailshot

open Contact (FieldView)

/-! ## Values -/

namespace Json

/-- The text of a value: a string is one, and a number and a truth value are written as one. -/
inductive HasText : Json → String → Prop
  | string (s : String) : HasText (.string s) s
  | number (n : JsonNumber) : HasText (.number n) n.text
  | bool (b : Bool) : HasText (.bool b) (toString b)

/-- The number of a value: a number is one, and a string may read as one. -/
inductive HasNumber : Json → Finite64 → Prop
  | number (n : JsonNumber) : HasNumber (.number n) n.toFinite64
  | string {s : String} {x : Finite64} (reads : Finite64.ofText? (trim s) = some x) :
      HasNumber (.string s) x

end Json

/-! ## Fields -/

namespace Contact.FieldView

/-- The value of a field is equal to a value of a rule: the texts are the same, blanks around them
aside, or some tag is the text, or the numbers are the same. -/
inductive Equals (v : Json) : FieldView → Prop
  | text {s t : String} (form : v.HasText t) (same : trim s = trim t) : Equals v (.text s)
  | number {x : Binary64} {y : Finite64} (form : v.HasNumber y)
      (same : (Binary64.finite y).same x = true) : Equals v (.number x)
  | tag {tags : List String} {tag t : String} (form : v.HasText t) (mem : tag ∈ tags)
      (same : trim tag = trim t) : Equals v (.tags tags)

/-- Some tag in the field is the text of the value, which is not blank. -/
inductive HasTag (v : Json) : FieldView → Prop
  | tag {tags : List String} {tag t : String} (form : v.HasText t) (notBlank : trim t ≠ "")
      (mem : tag ∈ tags) (same : trim tag = trim t) : HasTag v (.tags tags)

/-- The field holds the value: as a tag, or as a part of a text, letter case aside. -/
inductive Contains (v : Json) : FieldView → Prop
  | text {s t : String} (form : v.HasText t) (notBlank : trim t ≠ "")
      (part : (lowercase (trim t)).toList <:+: (lowercase s).toList) : Contains v (.text s)
  | tag {view : FieldView} (h : HasTag v view) : Contains v view

/-- The number of a field: a number is one, and a text may read as one. -/
inductive HasNumber : FieldView → Binary64 → Prop
  | number (x : Binary64) : HasNumber (.number x) x
  | text {s : String} {x : Finite64} (reads : Finite64.ofText? (trim s) = some x) :
      HasNumber (.text s) (.finite x)

/-- The number of the field stands in a relation to the number of the value. -/
def Compares (related : Binary64 → Binary64 → Prop) (v : Json) (view : FieldView) : Prop :=
  ∃ x y, view.HasNumber x ∧ v.HasNumber y ∧ related x (.finite y)

/-- The field is equal to some member of a list, or to a value that is no list. -/
def IsAmong (v : Json) (view : FieldView) : Prop :=
  match v with
  | .array items => ∃ item ∈ items, view.Equals item
  | v => view.Equals v

end Contact.FieldView

/-! ## Conditions and groups -/

/-- What an operator asks of a field. -/
def Operator.Asks (op : Operator) (v : Json) (view : FieldView) : Prop :=
  match op with
  | .equals => view.Equals v
  | .contains => view.Contains v
  | .greater => view.Compares (fun x y => y < x) v
  | .less => view.Compares (fun x y => x < y) v
  | .greaterOrEqual => view.Compares (fun x y => y ≤ x) v
  | .lessOrEqual => view.Compares (fun x y => x ≤ y) v
  | .inSet => view.IsAmong v
  | .arrayContains => view.HasTag v
  | .unknown => False

/-- A condition holds of a contact: it names a field, and the field is as it asks. -/
def Condition.HoldsOf (c : Condition) (contact : Contact) : Prop :=
  trim c.field ≠ "" ∧ c.operator.Asks c.value (contact.field (trim c.field))

/-- A group means a contact: it has conditions, and all of them or at least one holds. -/
def RuleGroup.Means (g : RuleGroup) (contact : Contact) : Prop :=
  g.conditions ≠ [] ∧
    match g.logic with
    | .all => ∀ c ∈ g.conditions, c.HoldsOf contact
    | .any => ∃ c ∈ g.conditions, c.HoldsOf contact

/-! ## Values in the forms that are compared

`Scalar` holds the two forms of a value side by side; each says what the direct reading says. -/

theorem exists_text_iff {v : Json} {t : String} :
    (∃ s, Scalar.ofJson? v = some s ∧ s.text = t) ↔ ∃ u, v.HasText u ∧ trim u = t := by
  constructor
  · rintro ⟨s, hs, rfl⟩
    cases v with
    | string u =>
      obtain rfl := Option.some.inj hs
      exact ⟨u, .string u, rfl⟩
    | number n =>
      obtain rfl := Option.some.inj hs
      exact ⟨_, .number n, n.trim_text⟩
    | bool b => cases b <;> obtain rfl := Option.some.inj hs <;> exact ⟨_, .bool _, by decide⟩
    | _ => cases hs
  · rintro ⟨u, hu, rfl⟩
    cases hu with
    | string => exact ⟨_, rfl, rfl⟩
    | number n => exact ⟨_, rfl, n.trim_text.symm⟩
    | bool b => cases b <;> exact ⟨_, rfl, by decide⟩

theorem exists_number_iff {v : Json} {x : Finite64} :
    (∃ s, Scalar.ofJson? v = some s ∧ s.number = some x) ↔ v.HasNumber x := by
  constructor
  · rintro ⟨s, hs, hx⟩
    cases v with
    | string u =>
      obtain rfl := Option.some.inj hs
      simp only [numberOfText?, trim_trim] at hx
      exact .string hx
    | number n =>
      obtain rfl := Option.some.inj hs
      obtain rfl := Option.some.inj hx
      exact .number n
    | bool b => cases b <;> obtain rfl := Option.some.inj hs <;> cases hx
    | _ => cases hs
  · intro h
    cases h with
    | number n => exact ⟨_, rfl, rfl⟩
    | string reads => exact ⟨_, rfl, by simp only [numberOfText?, trim_trim, reads]⟩

theorem needle?_iff {v : Json} {t : String} :
    Scalar.needle? v = some t ↔ t ≠ "" ∧ ∃ u, v.HasText u ∧ trim u = t := by
  rw [← exists_text_iff, Scalar.needle?, Option.filter_eq_some_iff, Option.map_eq_some_iff,
    and_comm]
  simp

theorem number?_iff {v : Json} {x : Finite64} : Scalar.number? v = some x ↔ v.HasNumber x := by
  rw [← exists_number_iff, Scalar.number?, Option.bind_eq_some_iff]

/-! ## Tests of a field

Each kind of test passes just if the direct reading holds, where the test is made of the forms of
the value if it has any. -/

namespace Contact.FieldView

variable {v : Json} {view : FieldView}

theorem someTag_iff {tags : List String} {t : String} :
    someTag tags t = true ↔ ∃ tag ∈ tags, trim tag = t := by
  simp [someTag]

theorem sameNumber_iff {expected : Option Finite64} {x : Binary64} :
    sameNumber expected x = true ↔ ∃ y, expected = some y ∧ (Binary64.finite y).same x = true := by
  rw [sameNumber, Option.any_eq_true]

theorem isEqual_iff :
    (∃ s, Scalar.ofJson? v = some s ∧ view.isEqual s = true) ↔ view.Equals v := by
  constructor
  · rintro ⟨s, hs, he⟩
    cases view with
    | text u =>
      obtain ⟨t, ht, hst⟩ := exists_text_iff.1 ⟨s, hs, rfl⟩
      exact .text ht ((of_decide_eq_true he).trans hst.symm)
    | number x =>
      obtain ⟨y, hy, hsame⟩ := sameNumber_iff.1 he
      exact .number (exists_number_iff.1 ⟨s, hs, hy⟩) hsame
    | tags labels =>
      obtain ⟨t, ht, hst⟩ := exists_text_iff.1 ⟨s, hs, rfl⟩
      obtain ⟨tag, hm, heq⟩ := someTag_iff.1 he
      exact .tag ht hm (heq.trans hst.symm)
    | missing => cases he
  · intro h
    cases h with
    | text form same =>
      obtain ⟨s, hs, ht⟩ := exists_text_iff.2 ⟨_, form, rfl⟩
      exact ⟨s, hs, decide_eq_true (same.trans ht.symm)⟩
    | number form same =>
      obtain ⟨s, hs, hy⟩ := exists_number_iff.2 form
      exact ⟨s, hs, sameNumber_iff.2 ⟨_, hy, same⟩⟩
    | tag form mem same =>
      obtain ⟨s, hs, ht⟩ := exists_text_iff.2 ⟨_, form, rfl⟩
      exact ⟨s, hs, someTag_iff.2 ⟨_, mem, same.trans ht.symm⟩⟩

theorem hasTag_iff :
    (∃ t, Scalar.needle? v = some t ∧ (FieldTest.hasTag t).passes view = true) ↔ view.HasTag v := by
  constructor
  · rintro ⟨t, ht, hp⟩
    obtain ⟨hne, u, hu, rfl⟩ := needle?_iff.1 ht
    cases view with
    | tags labels =>
      obtain ⟨tag, hm, heq⟩ := someTag_iff.1 hp
      exact .tag hu hne hm heq
    | _ => cases hp
  · rintro ⟨form, notBlank, mem, same⟩
    exact ⟨_, needle?_iff.2 ⟨notBlank, _, form, rfl⟩, someTag_iff.2 ⟨_, mem, same⟩⟩

theorem contains_iff :
    (∃ t, Scalar.needle? v = some t ∧ (FieldTest.contains t).passes view = true) ↔
      view.Contains v := by
  constructor
  · rintro ⟨t, ht, hp⟩
    obtain ⟨hne, u, hu, rfl⟩ := needle?_iff.1 ht
    cases view with
    | text s => exact .text hu hne ((occursIn_iff _ _).1 hp)
    | tags labels => exact .tag (hasTag_iff.1 ⟨_, ht, hp⟩)
    | _ => cases hp
  · intro h
    cases h with
    | text form notBlank part =>
      exact ⟨_, needle?_iff.2 ⟨notBlank, _, form, rfl⟩, (occursIn_iff _ _).2 part⟩
    | tag h =>
      obtain ⟨form, notBlank, mem, same⟩ := h
      exact ⟨_, needle?_iff.2 ⟨notBlank, _, form, rfl⟩, someTag_iff.2 ⟨_, mem, same⟩⟩

theorem number?_iff {x : Binary64} : view.number? = some x ↔ view.HasNumber x := by
  constructor
  · intro h
    cases view with
    | text s =>
      rw [number?, Option.map_eq_some_iff] at h
      obtain ⟨y, hy, rfl⟩ := h
      exact .text hy
    | number y =>
      obtain rfl := Option.some.inj h
      exact .number y
    | _ => cases h
  · intro h
    cases h with
    | number => rfl
    | text reads => rw [number?, numberOfText?, reads, Option.map_some]

theorem compares_iff {c : Comparison} {related : Binary64 → Binary64 → Prop}
    (hc : ∀ x y, c.holds x y = true ↔ related x y) :
    (∃ b, Scalar.number? v = some b ∧ (FieldTest.compare c b).passes view = true) ↔
      view.Compares related v := by
  simp only [FieldTest.passes, Option.any_eq_true, number?_iff, Mailshot.number?_iff, hc, Compares]
  exact ⟨fun ⟨b, hb, x, hx, h⟩ => ⟨x, b, hx, hb, h⟩, fun ⟨x, b, hx, hb, h⟩ => ⟨b, hb, x, hx, h⟩⟩

theorem isAmong_iff :
    (FieldTest.inSet (Scalar.members v)).passes view = true ↔ view.IsAmong v := by
  have one (w : Json) : (Scalar.ofJson? w).toList.any view.isEqual = true ↔ view.Equals w := by
    rw [← isEqual_iff]
    cases Scalar.ofJson? w <;> simp
  cases v with
  | array items =>
    show (items.filterMap Scalar.ofJson?).any view.isEqual = true ↔ ∃ i ∈ items, view.Equals i
    simp only [List.any_eq_true, List.mem_filterMap, ← isEqual_iff]
    exact ⟨fun ⟨s, ⟨i, hi, hs⟩, he⟩ => ⟨i, hi, s, hs, he⟩,
      fun ⟨i, hi, s, hs, he⟩ => ⟨s, ⟨i, hi, hs⟩, he⟩⟩
  | null => exact one .null
  | bool b => exact one (.bool b)
  | number n => exact one (.number n)
  | string s => exact one (.string s)
  | object members => exact one (.object members)

end Contact.FieldView

/-! ## Operators, conditions and groups -/

open Contact.FieldView in
/-- **A test made of an operator and a value passes just if the field is as the operator asks**; no
field is as an operator asks with a value that no test can be made of. -/
theorem FieldTest.passes_ofValue_iff {op : Operator} {v : Json} {view : FieldView} :
    (∃ test, FieldTest.ofValue op v = .ok test ∧ test.passes view = true) ↔ op.Asks v view := by
  -- the form of the value that the operator needs is there, and a test is made of it, or it is not
  cases op with
  | equals =>
    refine Iff.trans ?_ isEqual_iff
    rw [FieldTest.ofValue]
    cases Scalar.ofJson? v <;> simp [FieldTest.passes]
  | contains =>
    refine Iff.trans ?_ contains_iff
    rw [FieldTest.ofValue]
    cases Scalar.needle? v <;> simp
  | arrayContains =>
    refine Iff.trans ?_ hasTag_iff
    rw [FieldTest.ofValue]
    cases Scalar.needle? v <;> simp
  | greater =>
    refine Iff.trans ?_ (compares_iff (c := .greater) fun _ _ => decide_eq_true_iff)
    rw [FieldTest.ofValue]
    cases Scalar.number? v <;> simp
  | less =>
    refine Iff.trans ?_ (compares_iff (c := .less) fun _ _ => decide_eq_true_iff)
    rw [FieldTest.ofValue]
    cases Scalar.number? v <;> simp
  | greaterOrEqual =>
    refine Iff.trans ?_ (compares_iff (c := .greaterOrEqual) fun _ _ => decide_eq_true_iff)
    rw [FieldTest.ofValue]
    cases Scalar.number? v <;> simp
  | lessOrEqual =>
    refine Iff.trans ?_ (compares_iff (c := .lessOrEqual) fun _ _ => decide_eq_true_iff)
    rw [FieldTest.ofValue]
    cases Scalar.number? v <;> simp
  | inSet =>
    refine Iff.trans ?_ isAmong_iff
    rw [FieldTest.ofValue]
    cases hm : Scalar.members v <;> simp [FieldTest.passes]
  | unknown => simp [FieldTest.ofValue, Operator.Asks]

theorem Condition.passes_check_iff {c : Condition} {contact : Contact} :
    c.check.passes contact = true ↔ c.HoldsOf contact := by
  have htest : c.check.passes contact = true ↔
      ∃ test, c.compile? = .ok test ∧ test.passes (contact.field (trim c.field)) = true := by
    rw [Check.passes, Condition.check]
    cases c.compile? <;> simp [FieldTest.passes]
  rw [htest, Condition.compile?, Condition.HoldsOf, ← FieldTest.passes_ofValue_iff]
  by_cases hb : trim c.field = ""
  · simp [blank, hb]
  · simp [blank, hb]

/-- **The compiled predicate means what the group says.**  A contact passes the predicate of a group
just if the group has conditions and all of them, or at least one, hold of the contact. -/
theorem RuleGroup.holds_compile_iff (g : RuleGroup) (contact : Contact) :
    g.compile.holds contact = true ↔ g.Means contact := by
  rw [RuleGroup.compile, RuleGroup.Means]
  by_cases hg : g.conditions = []
  · simp [hg, Predicate.holds]
  · rw [if_neg (by simpa using hg)]
    cases g.logic <;> simp [Predicate.holds, hg, Condition.passes_check_iff]

/-- A tag that is equal to a blank value does not make a contact one that has the value as a tag. -/
theorem RuleGroup.blank_value_is_no_tag :
    let contact := { Contact.ofIdentity "a" "t" with tags := Contact.tagSet [" "] }
    let value := Json.string " "
    contact.field (trim "tags") = .tags [" "] ∧ trim "tags" ≠ "" ∧
      (∃ tag text, value.HasText text ∧ tag ∈ [" "] ∧ trim tag = trim text) ∧
      (RuleGroup.mk .all [⟨"tags", .arrayContains, value⟩]).compile.holds contact = false :=
  ⟨by decide, by decide, ⟨" ", " ", .string " ", by decide, rfl⟩, by decide⟩

end Mailshot
