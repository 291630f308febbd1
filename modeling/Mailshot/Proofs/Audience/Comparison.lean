import Mailshot.Proofs.Audience.Operators
import Mailshot.Proofs.Number.Value

/-!
# How numbers are compared

Four operators compare numbers.  Both sides come in more than one form: the value of a rule is a
number or a text, and so is the field of a contact, where a number may also be infinite or none at
all.  What is compared is the one number that each side stands for (`asks_iff_of_hasNumber`).

Of finite numbers the operators agree with one another and with the order of the exact values, the
two zeros being the same; a field that stands for no number passes none of them, and `HasNoNumber`
lists what these fields are (`Condition.comparisons_divide`).  All of this needs a name: a blank one
is refused before anything is looked up, so that a number kept under it is on neither side.
-/

set_option autoImplicit false

namespace Mailshot

/-- A value has one number at most. -/
theorem Json.HasNumber.unique {v : Json} {x y : Finite64} (hx : v.HasNumber x)
    (hy : v.HasNumber y) : x = y := by
  cases hx with
  | number n =>
    cases hy
    rfl
  | string reads =>
    cases hy with
    | string reads' => exact Option.some.inj (reads.symm.trans reads')

/-! ## Numbers of any kind -/

namespace Binary64

/-- Greater or equal is greater, or the same; this holds of infinities too, and of what is no
number. -/
theorem finite_le_iff (y : Finite64) (x : Binary64) :
    finite y ≤ x ↔ finite y < x ∨ (finite y).same x = true := by
  cases x with
  | finite x =>
    show y.scaled ≤ x.scaled ↔ y.scaled < x.scaled ∨ decide (y.scaled = x.scaled) = true
    rw [decide_eq_true_iff]
    omega
  | infinite negative =>
    show negative = false ↔ negative = false ∨ false = true
    simp
  | nan =>
    show False ↔ False ∨ false = true
    simp

end Binary64

namespace Contact.FieldView

variable {v : Json} {view : FieldView}

/-- A field has one number at most. -/
theorem HasNumber.unique {x y : Binary64} (hx : view.HasNumber x) (hy : view.HasNumber y) :
    x = y :=
  Option.some.inj ((number?_iff.2 hx).symm.trans (number?_iff.2 hy))

/-- The value of a field stands for no number. -/
inductive HasNoNumber : FieldView → Prop
  /-- There is no value. -/
  | missing : HasNoNumber .missing
  /-- Labels are no number, even a single one that reads as one. -/
  | tags (labels : List String) : HasNoNumber (.tags labels)
  /-- The text is no numeral. -/
  | word {s : String} (h : Decimal.ofChars? (trim s).toList = none) : HasNoNumber (.text s)
  /-- The text is a numeral that no number is nearest to. -/
  | tooLarge {s : String} {d : Decimal} (h : Decimal.ofChars? (trim s).toList = some d)
      (hsize : (Finite64.limit : ℚ) ≤ d.size) : HasNoNumber (.text s)

/-- A text with a character that no numeral has. -/
theorem HasNoNumber.of_mem {s : String} {c : Char} (hmem : c ∈ (trim s).toList)
    (hc : Json.Reader.isNumeral c = false) : HasNoNumber (.text s) := by
  cases h : Decimal.ofChars? (trim s).toList with
  | none => exact .word h
  | some d => exact absurd (Decimal.numeric_of_ofChars? h c hmem) (Bool.eq_false_iff.1 hc)

/-- A text has a number or none. -/
theorem hasNoNumber_text_iff {s : String} :
    HasNoNumber (.text s) ↔ Finite64.ofText? (trim s) = none := by
  rw [Finite64.ofText?_eq_none_iff]
  constructor
  · intro h d hd
    cases h with
    | word h => cases h.symm.trans hd
    | tooLarge h hsize =>
      cases h.symm.trans hd
      exact hsize
  · intro hall
    cases h : Decimal.ofChars? (trim s).toList with
    | none => exact .word h
    | some d => exact .tooLarge h (hall d h)

/-- A field stands for no number just if it has none. -/
theorem hasNoNumber_iff : view.HasNoNumber ↔ ∀ x, ¬ view.HasNumber x := by
  constructor
  · intro h x hx
    cases hx with
    | number => cases h
    | text reads => cases (hasNoNumber_text_iff.1 h).symm.trans reads
  · intro hall
    cases view with
    | missing => exact .missing
    | tags labels => exact .tags labels
    | number x => exact absurd (.number x) (hall x)
    | text s =>
      rw [hasNoNumber_text_iff, Option.eq_none_iff_forall_ne_some]
      exact fun x reads => hall _ (.text reads)

/-- What is compared is the number of the field with the number of the value. -/
theorem compares_iff_of_hasNumber {x : Binary64} {y : Finite64}
    (hx : view.HasNumber x) (hy : v.HasNumber y) (related : Binary64 → Binary64 → Prop) :
    view.Compares related v ↔ related x (.finite y) := by
  constructor
  · rintro ⟨x', y', hx', hy', h⟩
    rwa [hx'.unique hx, hy'.unique hy] at h
  · exact fun h => ⟨x, y, hx, hy, h⟩

/-- What the operators ask of two numbers. -/
theorem asks_iff_of_hasNumber {x : Binary64} {y : Finite64} (hx : view.HasNumber x)
    (hy : v.HasNumber y) :
    (Operator.greater.Asks v view ↔ .finite y < x) ∧
      (Operator.less.Asks v view ↔ x < .finite y) ∧
      (Operator.greaterOrEqual.Asks v view ↔ .finite y ≤ x) ∧
      (Operator.lessOrEqual.Asks v view ↔ x ≤ .finite y) :=
  ⟨compares_iff_of_hasNumber hx hy fun x y => y < x,
    compares_iff_of_hasNumber hx hy fun x y => x < y,
    compares_iff_of_hasNumber hx hy fun x y => y ≤ x,
    compares_iff_of_hasNumber hx hy fun x y => x ≤ y⟩

/-- A number of any kind is equal to a value just if it is the same as its number. -/
theorem equals_number_iff {x : Binary64} {y : Finite64} (hy : v.HasNumber y) :
    Equals v (.number x) ↔ (Binary64.finite y).same x = true := by
  constructor
  · intro h
    cases h with
    | number hy' same =>
      rw [hy.unique hy']
      exact same
  · exact fun same => .number hy same

end Contact.FieldView

/-! ## Conditions that compare -/

/-- The operators that compare numbers. -/
def Operator.comparing : List Operator := [.greater, .less, .greaterOrEqual, .lessOrEqual]

namespace Condition

open Contact (FieldView)
open Contact.FieldView

/-- Whether a contact is meant by a condition alone. -/
def means (c : Condition) (logic : Logic) (contact : Contact) : Bool :=
  (c.alone logic).compile.holds contact

variable {field : String} {op : Operator} {v : Json} {logic : Logic} {contact : Contact}

/-- Under a name, the operator decides. -/
theorem means_iff (hfield : trim field ≠ "") :
    means ⟨field, op, v⟩ logic contact = true ↔ op.Asks v (contact.field (trim field)) :=
  holds_compile_alone_iff.trans (and_iff_right hfield)

/-- Without a name, nobody is meant. -/
theorem means_of_blank (hfield : trim field = "") : means ⟨field, op, v⟩ logic contact = false :=
  Bool.eq_false_iff.2 fun h => (holds_compile_alone_iff.1 h).1 hfield

/-- A comparison with what has no number fails. -/
theorem means_of_hasNoNumber (hop : op ∈ Operator.comparing)
    (hview : (contact.field (trim field)).HasNoNumber) :
    means ⟨field, op, v⟩ logic contact = false := by
  refine Bool.eq_false_iff.2 fun h => ?_
  obtain ⟨-, hasks⟩ := holds_compile_alone_iff.1 h
  simp only [Operator.comparing, List.mem_cons, List.not_mem_nil, or_false] at hop
  rcases hop with rfl | rfl | rfl | rfl <;>
    · obtain ⟨x, -, hx, -⟩ := hasks
      exact Contact.FieldView.hasNoNumber_iff.1 hview x hx

/-- Under a name, the comparisons with a finite number go by the exact values. -/
theorem means_iff_value {x y : Finite64} (logic : Logic) (hfield : trim field ≠ "")
    (hx : (contact.field (trim field)).HasNumber (.finite x)) (hy : v.HasNumber y) :
    (means ⟨field, .greater, v⟩ logic contact = true ↔ y.value < x.value) ∧
      (means ⟨field, .less, v⟩ logic contact = true ↔ x.value < y.value) ∧
      (means ⟨field, .greaterOrEqual, v⟩ logic contact = true ↔ y.value ≤ x.value) ∧
      (means ⟨field, .lessOrEqual, v⟩ logic contact = true ↔ x.value ≤ y.value) := by
  obtain ⟨greater, less, greaterOrEqual, lessOrEqual⟩ := asks_iff_of_hasNumber hx hy
  exact ⟨((means_iff hfield).trans greater).trans (Finite64.lt_iff y x),
    ((means_iff hfield).trans less).trans (Finite64.lt_iff x y),
    ((means_iff hfield).trans greaterOrEqual).trans (Finite64.le_iff y x),
    ((means_iff hfield).trans lessOrEqual).trans (Finite64.le_iff x y)⟩

/-- Greater or equal is greater, or equal, of a number of any kind and under any name. -/
theorem means_greaterOrEqual_of_number {x : Binary64} {y : Finite64}
    (hx : contact.field (trim field) = .number x) (hy : v.HasNumber y) :
    means ⟨field, .greaterOrEqual, v⟩ logic contact =
      (means ⟨field, .greater, v⟩ logic contact || means ⟨field, .equals, v⟩ logic contact) := by
  by_cases hfield : trim field = ""
  · rw [means_of_blank hfield, means_of_blank hfield, means_of_blank hfield]
    rfl
  · have hnumber : (contact.field (trim field)).HasNumber x := by
      rw [hx]
      exact .number x
    obtain ⟨greater, -, greaterOrEqual, -⟩ := asks_iff_of_hasNumber hnumber hy
    have hequals : Operator.equals.Asks v (contact.field (trim field)) ↔
        (Binary64.finite y).same x = true := by
      rw [hx]
      exact equals_number_iff hy
    rw [Bool.eq_iff_iff, Bool.or_eq_true, means_iff hfield, means_iff hfield, means_iff hfield,
      greater, greaterOrEqual, hequals]
    exact Binary64.finite_le_iff y x

/-- **The comparisons divide the numbers.**  Of a number in the field under a name and the number of
a rule, `greater` and `lessOrEqual` say opposite things, so do `less` and `greaterOrEqual`, and all
four go by the exact values.  A field without a number is on neither side, and a blank name is that
of no field.  Of numbers of any kind `greaterOrEqual` is `greater` or `equals`. -/
theorem comparisons_divide {y : Finite64} (hy : v.HasNumber y) (field : String) (logic : Logic)
    (contact : Contact) :
    let meets (op : Operator) : Bool := means ⟨field, op, v⟩ logic contact
    (trim field ≠ "" → ∀ x : Finite64, (contact.field (trim field)).HasNumber (.finite x) →
      (meets .greater = true ↔ y.value < x.value) ∧ (meets .less = true ↔ x.value < y.value) ∧
      (meets .greaterOrEqual = true ↔ y.value ≤ x.value) ∧
      (meets .lessOrEqual = true ↔ x.value ≤ y.value) ∧
      meets .lessOrEqual = !meets .greater ∧ meets .greaterOrEqual = !meets .less ∧
      (meets .greater && meets .less) = false) ∧
    ((contact.field (trim field)).HasNoNumber → ∀ op ∈ Operator.comparing, meets op = false) ∧
    (∀ x : Binary64, contact.field (trim field) = .number x →
      meets .greaterOrEqual = (meets .greater || meets .equals)) ∧
    (trim field = "" → ∀ op, meets op = false) := by
  intro meets
  refine ⟨fun hfield x hx => ?_, fun hview op hop => means_of_hasNoNumber hop hview,
    fun x hx => means_greaterOrEqual_of_number hx hy, fun hfield op => means_of_blank hfield⟩
  obtain ⟨hgreater, hless, hgreaterOrEqual, hlessOrEqual⟩ := means_iff_value logic hfield hx hy
  refine ⟨hgreater, hless, hgreaterOrEqual, hlessOrEqual, ?_, ?_, ?_⟩
  · rw [Bool.eq_iff_iff, Bool.not_eq_true', Bool.eq_false_iff, Ne, hgreater, hlessOrEqual, not_lt]
  · rw [Bool.eq_iff_iff, Bool.not_eq_true', Bool.eq_false_iff, Ne, hless, hgreaterOrEqual, not_lt]
  · rw [Bool.eq_false_iff, Ne, Bool.and_eq_true, hgreater, hless]
    exact fun ⟨h, h'⟩ => lt_asymm h h'

namespace Sample

/-- A contact with a score that is written as minus zero, and a rank that is no number. -/
def scored : Contact :=
  { Contact.ofIdentity "a" "t" with
    attributes := .ofList [("score", " -0 "), ("rank", "inf")] }

/-- A contact with a number under a blank name. -/
def nameless : Contact :=
  { Contact.ofIdentity "a" "t" with
    metrics := Dictionary.empty.insert "" (.finite ⟨false, 1025 * 2 ^ 52 + 2 ^ 50, by decide⟩) }

end Sample

/-- Minus zero is not less than zero and not greater, and infinity is no number. -/
theorem comparisons_divide_at_zero :
    (Json.string "0").HasNumber .zero ∧
      (Sample.scored.field (trim " score")).HasNumber (.finite Finite64.zero.neg) ∧
      means ⟨" score", .greater, .string "0"⟩ .all Sample.scored = false ∧
      means ⟨" score", .lessOrEqual, .string "0"⟩ .all Sample.scored = true ∧
      means ⟨" score", .less, .string "0"⟩ .all Sample.scored = false ∧
      means ⟨" score", .greaterOrEqual, .string "0"⟩ .all Sample.scored = true ∧
      ∀ op ∈ Operator.comparing, means ⟨"rank", op, .string "0"⟩ .any Sample.scored = false := by
  have hzero : (Json.string "0").HasNumber .zero := .string (by decide)
  have hscore : (Sample.scored.field (trim " score")).HasNumber (.finite Finite64.zero.neg) :=
    .text (s := " -0 ") (by decide)
  have hrank : (Sample.scored.field (trim "rank")).HasNoNumber :=
    FieldView.HasNoNumber.of_mem (s := "inf") (c := 'n') (by decide) rfl
  have hname : trim " score" ≠ "" := by decide
  have hscaled : Finite64.zero.neg.scaled = Finite64.zero.scaled := by decide
  have hsame : Finite64.zero.neg.value = Finite64.zero.value := by
    rw [Finite64.value_eq, Finite64.value_eq, hscaled]
  obtain ⟨hdivide, -⟩ := comparisons_divide hzero " score" .all Sample.scored
  obtain ⟨-, -, hge, hle, hnotGreater, hnotLess, -⟩ := hdivide hname _ hscore
  obtain ⟨-, hnone, -⟩ := comparisons_divide hzero "rank" .any Sample.scored
  have hlessOrEqual := hle.2 hsame.le
  have hgreaterOrEqual := hge.2 hsame.ge
  refine ⟨hzero, hscore, ?_, hlessOrEqual, ?_, hgreaterOrEqual, hnone hrank⟩
  · exact (Bool.not_eq_true' _).mp (hnotGreater.symm.trans hlessOrEqual)
  · exact (Bool.not_eq_true' _).mp (hnotLess.symm.trans hgreaterOrEqual)

/-- A field whose name is blank is not compared, not even where a number is kept under it. -/
theorem blank_name_on_neither_side :
    Sample.nameless.field "" =
        .number (.finite ⟨false, 1025 * 2 ^ 52 + 2 ^ 50, by decide⟩) ∧
      (∃ y, (Json.number (.natural 1 (by decide))).HasNumber y) ∧
      means ⟨"", .greater, .number (.natural 1 (by decide))⟩ .all Sample.nameless = false ∧
      means ⟨"", .lessOrEqual, .number (.natural 1 (by decide))⟩ .all Sample.nameless = false :=
  ⟨by decide, ⟨_, .number _⟩, means_of_blank (by decide), means_of_blank (by decide)⟩

end Condition

end Mailshot
