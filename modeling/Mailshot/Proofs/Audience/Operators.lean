import Mailshot.Proofs.Audience.Meaning
import Mailshot.Proofs.Audience.Problems

/-!
# How the operators hang together

Rules can be written in more than one way, and those who write them expect the ways to come to the
same: a list of values asks for one of them, and on the tags of a contact it makes no difference by
which operator a tag is asked for.  Each operator is compiled and tested by itself, so neither is
true by construction; a list may hold members that cannot be used, which are left out of it, while
`equals` becomes a test that nothing passes with such a value.

The comparison is made on the direct reading of the rules, in which an operator asks something of a
field (`Operator.Asks`), and carried over to what is compiled by `Condition.passes_check_iff`.
-/

set_option autoImplicit false

namespace Mailshot

/-- A value has one text at most. -/
theorem Json.HasText.unique {v : Json} {s t : String} (hs : v.HasText s) (ht : v.HasText t) :
    s = t := by
  cases hs <;> cases ht <;> rfl

namespace Contact.FieldView

variable {v : Json} {view : FieldView} {labels : List String}

/-- A value that is no list is the only one that is asked for. -/
theorem isAmong_iff_equals (h : ∀ items, v ≠ .array items) : view.IsAmong v ↔ view.Equals v := by
  cases v with
  | array items => exact absurd rfl (h items)
  | _ => exact Iff.rfl

/-- A value with a text that is not blank is a tag just if it is equal to the field of tags. -/
theorem hasTag_tags_iff {t : String} (form : v.HasText t) (notBlank : trim t ≠ "") :
    HasTag v (.tags labels) ↔ Equals v (.tags labels) := by
  constructor
  · rintro ⟨form', _, mem, same⟩
    exact .tag form' mem same
  · rintro (_ | _ | ⟨form', mem, same⟩)
    rw [form'.unique form] at same
    exact .tag form notBlank mem same

/-- Tags hold nothing but tags. -/
theorem contains_tags_iff : Contains v (.tags labels) ↔ HasTag v (.tags labels) := by
  refine ⟨fun h => ?_, .tag⟩
  cases h with
  | tag h => exact h

end Contact.FieldView

theorem Contact.field_tags (contact : Contact) :
    contact.field "tags" = .tags contact.tags.keys := by
  simp [Contact.field]

namespace Condition

/-- A group of one condition means whom the condition holds of. -/
theorem holds_compile_alone_iff {c : Condition} {logic : Logic} {contact : Contact} :
    (c.alone logic).compile.holds contact = true ↔ c.HoldsOf contact := by
  rw [← passes_check_iff]
  cases logic <;> simp [alone, RuleGroup.compile, Predicate.holds]

/-- Conditions on one field that ask the same of it mean the same contacts. -/
theorem holds_compile_alone_congr {field : String} {logic : Logic} {contact : Contact}
    {op op' : Operator} {v v' : Json}
    (h : op.Asks v (contact.field (trim field)) ↔ op'.Asks v' (contact.field (trim field))) :
    (alone ⟨field, op, v⟩ logic).compile.holds contact =
      (alone ⟨field, op', v'⟩ logic).compile.holds contact := by
  rw [Bool.eq_iff_iff, holds_compile_alone_iff, holds_compile_alone_iff]
  exact and_congr_right fun _ => h

open Contact.FieldView in
/-- **The operators agree with one another.**  To be in a list is to be equal to one of its members,
whatever else is in it, and to be in a value that is no list is to be equal to it.  Whether a value
with a text is a tag can be asked by any of the operators that look at tags. -/
theorem operators_agree (contact : Contact) (field : String) (logic : Logic) :
    (∀ items, (alone ⟨field, .inSet, .array items⟩ logic).compile.holds contact =
      items.any fun item => (alone ⟨field, .equals, item⟩ logic).compile.holds contact) ∧
    (∀ v, (∀ items, v ≠ .array items) →
      (alone ⟨field, .inSet, v⟩ logic).compile.holds contact =
        (alone ⟨field, .equals, v⟩ logic).compile.holds contact) ∧
    (trim field = "tags" → ∀ v t, v.HasText t → trim t ≠ "" →
      ∀ op ∈ [Operator.contains, .arrayContains, .inSet],
        (alone ⟨field, op, v⟩ logic).compile.holds contact =
          (alone ⟨field, .equals, v⟩ logic).compile.holds contact) := by
  refine ⟨fun items => ?_, fun v hlist => ?_, fun hfield v t form notBlank op hop => ?_⟩
  · rw [Bool.eq_iff_iff, holds_compile_alone_iff, List.any_eq_true]
    simp only [holds_compile_alone_iff]
    constructor
    · rintro ⟨hnamed, item, hitem, hequal⟩
      exact ⟨item, hitem, hnamed, hequal⟩
    · rintro ⟨item, hitem, hnamed, hequal⟩
      exact ⟨hnamed, item, hitem, hequal⟩
  · exact holds_compile_alone_congr (isAmong_iff_equals hlist)
  · refine holds_compile_alone_congr ?_
    rw [hfield, Contact.field_tags]
    have htag : HasTag v (.tags contact.tags.keys) ↔ Equals v (.tags contact.tags.keys) :=
      hasTag_tags_iff form notBlank
    simp only [List.mem_cons, List.not_mem_nil, or_false] at hop
    rcases hop with rfl | rfl | rfl
    · exact contains_tags_iff.trans htag
    · exact htag
    · exact isAmong_iff_equals (by rintro items rfl; cases form)

end Condition
end Mailshot
