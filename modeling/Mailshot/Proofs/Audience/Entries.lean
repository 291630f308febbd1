import Mailshot.Proofs.Audience.Meaning
import Mailshot.Proofs.Json.RoundTrip

/-!
# Entries that are not conditions

A group is written by hand, so the entries in its list of conditions may be anything.  Here it is
said what a condition has to look like (`Json.IsNoCondition`), without a look at how entries are
read, and which part of a document the list is (`Json.Syntax.conditions?`).

A document that is read as a group gives one condition for each entry, and the condition is made of
its entry alone (`Condition.ofEntry`).  An entry that is not a condition becomes one that no contact
passes; put in the place of another it takes contacts away and adds none, whether all conditions
have to hold or only one.

One form slips through: the name of an operator in braces, with nothing under it, is an operator,
although only a text should be one (`RuleGroup.braced_operator_is_read`).
-/

set_option autoImplicit false

namespace Mailshot

/-! ## What is not a condition -/

/-- The names of the operators, the long ones too. -/
def Operator.names : List String :=
  ["equals", "contains", "gt", "greater_than", "lt", "less_than", "gte", "greater_or_equal", "lte",
    "less_or_equal", "in", "in_set", "array_contains"]

namespace Json

/-- What an entry gives as a part of a condition: what stands under the name of the part in an
object, or at its place in an array. -/
def part? (entry : Json) (name : String) (place : Nat) : Option Json :=
  match entry with
  | .object members => Dictionary.valueOf? name members
  | .array items => items[place]?
  | _ => none

/-- An entry has the shape of a condition: it is an object, or an array of at most three parts. -/
inductive HasShape : Json → Prop
  | object (members : List (String × Json)) : HasShape (.object members)
  | array {items : List Json} (short : items.length ≤ 3) : HasShape (.array items)

/-- An entry is not a condition. -/
inductive IsNoCondition (entry : Json) : Prop
  /-- It has another shape. -/
  | shape (h : ¬ entry.HasShape)
  /-- Its field is missing, or not a text, or blank. -/
  | field (h : ∀ s, entry.part? "field" 0 = some (.string s) → trim s = "")
  /-- Its operator is missing, or not a text, or not the name of one. -/
  | operator (h : ∀ s, entry.part? "operator" 1 = some (.string s) → s ∉ Operator.names)

/-- The operator of an entry is a name in braces with nothing under it. -/
def HasBracedOperator (entry : Json) : Prop :=
  ∃ name ∈ Operator.names, entry.part? "operator" 1 = some (.object [(name, .null)])

namespace Syntax

/-- The number of containers that an entry may open: two are open around it. -/
def entryRoom : Nat := depthLimit - 2

/-- What an entry of a document stands for, if it stands for a value, is not a condition. -/
def IsNoCondition (entry : Syntax) : Prop :=
  ∀ v, entry.toValue? entryRoom = some v → v.IsNoCondition

/-- The operator of an entry of a document is a name in braces with nothing under it. -/
def HasBracedOperator (entry : Syntax) : Prop :=
  ∃ v, entry.toValue? entryRoom = some v ∧ v.HasBracedOperator

/-- The list that a document gives as the conditions of a group. -/
def conditions? : Syntax → Option (List Syntax)
  | .object members =>
    match under members "conditions" with
    | [.array entries] => some entries
    | _ => none
  | .array [_, .array entries] => some entries
  | _ => none

/-- The document with another list of conditions. -/
def withConditions (entries : List Syntax) : Syntax → Syntax
  | .object members =>
    .object (members.map fun m => if m.1 = some "conditions" then (m.1, .array entries) else m)
  | .array [logic, _] => .array [logic, .array entries]
  | s => s

end Syntax
end Json

/-- The condition that an entry of a document becomes. -/
def Condition.ofEntry (entry : Json.Syntax) : Condition :=
  ((entry.toValue? Json.Syntax.entryRoom).map ofJson).getD malformed

/-! ## They become conditions that nothing passes -/

theorem Operator.ofName_eq_unknown {name : String} (h : name ∉ names) : ofName name = .unknown := by
  simp only [names, List.mem_cons, List.not_mem_nil, or_false, not_or] at h
  simp [ofName, h]

namespace Condition

/-- Only a name of an operator, as a text or in braces, is read as an operator. -/
theorem operatorOf_eq_unknown {v : Option Json}
    (text : ∀ s, v = some (.string s) → s ∉ Operator.names)
    (braces : ∀ name ∈ Operator.names, v ≠ some (.object [(name, .null)])) :
    operatorOf v = .unknown := by
  match v with
  | some (.string s) => exact Operator.ofName_eq_unknown (text s rfl)
  | some (.object [(k, .null)]) =>
    exact Operator.ofName_eq_unknown fun hk => braces k hk rfl
  | none | some .null | some (.bool _) | some (.number _) | some (.array _) | some (.object []) =>
    rfl
  | some (.object [(_, .bool _)]) | some (.object [(_, .number _)]) => rfl
  | some (.object [(_, .string _)]) | some (.object [(_, .array _)]) => rfl
  | some (.object [(_, .object _)]) => rfl
  | some (.object ((_, v) :: (_, _) :: _)) => cases v <;> rfl

/-- Only a text is read as a field. -/
theorem trim_fieldOf_eq {v : Option Json} (h : ∀ s, v = some (.string s) → trim s = "") :
    trim (fieldOf v) = "" := by
  have hblank : trim "" = "" := by decide
  match v with
  | some (.string s) => exact h s rfl
  | none | some .null | some (.bool _) | some (.number _) | some (.array _) | some (.object _) =>
    exact hblank

/-- No contact passes a condition with a blank field or without an operator. -/
theorem passes_check_eq_false {c : Condition} (h : trim c.field = "" ∨ c.operator = .unknown)
    (contact : Contact) : c.check.passes contact = false := by
  rw [Bool.eq_false_iff, Ne, passes_check_iff]
  rintro ⟨hfield, hasks⟩
  rcases h with h | h
  · exact hfield h
  · rw [h] at hasks
    exact hasks

/-- An entry of another shape is read as the malformed condition. -/
theorem ofJson_of_not_hasShape {v : Json} (h : ¬ v.HasShape) : ofJson v = malformed := by
  cases v with
  | object members => exact absurd (.object members) h
  | array items =>
    rw [ofJson, if_neg fun hshort => h (.array hshort)]
  | null | bool | number | string => rfl

/-- An entry of the shape of a condition is read part by part. -/
theorem ofJson_of_hasShape {v : Json} (h : v.HasShape) :
    (ofJson v).field = fieldOf (v.part? "field" 0) ∧
      (ofJson v).operator = operatorOf (v.part? "operator" 1) := by
  cases h with
  | object members => exact ⟨rfl, rfl⟩
  | array short =>
    rw [ofJson, if_pos short]
    exact ⟨rfl, rfl⟩

/-- **An entry that is not a condition becomes one that no contact passes**. -/
theorem passes_check_ofJson_eq_false {v : Json} (h : v.IsNoCondition)
    (hbraces : ¬ v.HasBracedOperator) (contact : Contact) :
    (ofJson v).check.passes contact = false := by
  apply passes_check_eq_false
  by_cases hshape : v.HasShape
  · obtain ⟨hfield, hoperator⟩ := ofJson_of_hasShape hshape
    rw [hfield, hoperator]
    cases h with
    | shape h => exact absurd hshape h
    | field h => exact .inl (trim_fieldOf_eq h)
    | operator h =>
      exact .inr (operatorOf_eq_unknown h fun name hname heq => hbraces ⟨name, hname, heq⟩)
  · rw [ofJson_of_not_hasShape hshape]
    exact .inr rfl

theorem passes_check_ofEntry_eq_false {entry : Json.Syntax} (h : entry.IsNoCondition)
    (hbraces : ¬ entry.HasBracedOperator) (contact : Contact) :
    (ofEntry entry).check.passes contact = false := by
  rw [ofEntry]
  cases hv : entry.toValue? Json.Syntax.entryRoom with
  | none => exact passes_check_eq_false (.inr rfl) contact
  | some v =>
    exact passes_check_ofJson_eq_false (h v hv) (fun hv' => hbraces ⟨v, hv, hv'⟩) contact

/-- The entries are read one by one. -/
theorem map_ofJson_of_mapM {entries : List Json.Syntax} {vs : List Json}
    (h : entries.mapM (Json.decodeValue Json.Syntax.entryRoom) = some vs) :
    vs.map ofJson = entries.map ofEntry := by
  induction entries generalizing vs with
  | nil =>
    obtain rfl := Option.some.inj h
    rfl
  | cons entry entries ih =>
    rw [List.mapM_cons] at h
    obtain ⟨v, hv, h⟩ := Option.bind_eq_some_iff.1 h
    obtain ⟨rest, hrest, h⟩ := Option.bind_eq_some_iff.1 h
    obtain rfl := Option.some.inj h
    have hentry : ofEntry entry = ofJson v := by
      rw [Json.decodeValue] at hv
      rw [ofEntry, hv]
      rfl
    rw [List.map_cons, List.map_cons, ih hrest, hentry]

end Condition

/-! ## The list of conditions in a document -/

namespace Json.Syntax

variable {doc : Syntax} {entries : List Syntax}

theorem under_map_conditions (members : List (Option String × Syntax)) (list : Syntax) :
    under (members.map fun m => if m.1 = some "conditions" then (m.1, list) else m) "conditions" =
      (under members "conditions").map fun _ => list := by
  simp only [under, List.filterMap_map, List.map_filterMap]
  congr 1
  funext m
  by_cases h : m.1 = some "conditions" <;> simp [h]

theorem under_map_of_ne {name : String} (hne : name ≠ "conditions")
    (members : List (Option String × Syntax)) (list : Syntax) :
    under (members.map fun m => if m.1 = some "conditions" then (m.1, list) else m) name =
      under members name := by
  simp only [under, List.filterMap_map]
  congr 1
  funext m
  by_cases h : m.1 = some "conditions"
  · simp [h, hne.symm]
  · simp [h]

/-- The list that stands there may be put there. -/
theorem withConditions_self (h : doc.conditions? = some entries) :
    doc.withConditions entries = doc := by
  match doc, h with
  | .array [_, .array _], h =>
    obtain rfl := Option.some.inj h
    rfl
  | .object members, h =>
    rw [conditions?] at h
    split at h
    · next hunder =>
      obtain rfl := Option.some.inj h
      rw [withConditions]
      congr 1
      refine (List.map_congr_left fun m hm => ?_).trans (List.map_id _)
      split
      · next hkey =>
        have hmem : m.2 ∈ under members "conditions" :=
          List.mem_filterMap.2 ⟨m, hm, if_pos hkey⟩
        rw [hunder, List.mem_singleton] at hmem
        rw [← hmem]
        rfl
      · rfl
    · cases h

/-- A record keeps its other fields when it is given another list of conditions. -/
theorem record?_withConditions {r : Record} (h : doc.conditions? = some entries)
    (hr : doc.record? ["logic", "conditions"] depthLimit = some r) (entries' : List Syntax) :
    ∃ r', (doc.withConditions entries').record? ["logic", "conditions"] depthLimit = some r' ∧
      r'.room = entryRoom + 1 ∧ r.room = entryRoom + 1 ∧
      r'.field "conditions" = .given (.array entries') ∧ r'.field "logic" = r.field "logic" := by
  match doc, h with
  | .array [logic, .array _], _ =>
    obtain rfl := Option.some.inj hr
    exact ⟨⟨126, Field.ofItems _ [logic, .array entries']⟩, rfl, rfl, rfl, rfl, rfl⟩
  | .object members, h =>
    obtain ⟨list, hunder⟩ : ∃ list, under members "conditions" = [list] := by
      rw [conditions?] at h
      split at h
      · next list hunder => exact ⟨_, hunder⟩
      · cases h
    rw [record?] at hr
    split at hr
    case isFalse => cases hr
    case isTrue hguard =>
    obtain rfl := Option.some.inj hr
    obtain ⟨-, hkeys, hnames⟩ := hguard
    have hname : "logic" ≠ "conditions" := by decide
    have hlogic := under_map_of_ne hname members (.array entries')
    have hconditions := under_map_conditions members (.array entries')
    rw [hunder] at hconditions
    have hkeys' : (members.map fun m =>
        if m.1 = some "conditions" then (m.1, array entries') else m).all (·.1.isSome) = true := by
      rw [List.all_map, ← hkeys]
      congr 1
      funext m
      by_cases hm : m.1 = some "conditions" <;> simp [hm]
    have hnames' : ["logic", "conditions"].all (fun name => (under (members.map fun m =>
        if m.1 = some "conditions" then (m.1, array entries') else m) name).length ≤ 1) = true := by
      simp only [List.all_cons, List.all_nil, hlogic, hconditions, Bool.and_eq_true,
        decide_eq_true_eq] at hnames ⊢
      exact ⟨hnames.1, le_rfl, trivial⟩
    refine ⟨⟨entryRoom + 1, Field.ofMembers _⟩, if_pos ⟨by decide, hkeys', hnames'⟩, rfl, rfl,
      ?_, ?_⟩
    · show Field.ofMembers _ _ = _
      rw [Field.ofMembers, hconditions]
      rfl
    · show Field.ofMembers _ _ = Field.ofMembers _ _
      rw [Field.ofMembers, Field.ofMembers, hlogic]

end Json.Syntax

namespace RuleGroup

variable {doc : Json.Syntax} {entries : List Json.Syntax} {g : RuleGroup}

open Json.Syntax (entryRoom)

/-- A record with a list of conditions is read as a group part by part. -/
theorem decode_of_record {r : Json.Record}
    (hr : doc.record? ["logic", "conditions"] Json.depthLimit = some r)
    (hroom : r.room = entryRoom + 1) (hlist : r.field "conditions" = .given (.array entries)) :
    decode Json.depthLimit doc = (r.orDefault? "logic" .all Logic.decode).bind fun l =>
      (entries.mapM (Json.decodeValue entryRoom)).map fun vs => ⟨l, vs.map Condition.ofJson⟩ := by
  have hentries : r.orDefault? "conditions" [] (Json.decodeList Json.decodeValue) =
      entries.mapM (Json.decodeValue entryRoom) := by
    rw [Json.Record.orDefault?, hlist, hroom]
    rfl
  rw [decode, hr]
  show (r.orDefault? "logic" .all Logic.decode).bind _ = _
  simp only [hentries, Option.map_eq_bind]
  rfl

/-- An item of a list that is read may be replaced by any other that is read. -/
theorem mapM_set {α β : Type} {f : α → Option β} {xs : List α} {ys : List β} {x : α} {y : β}
    (h : xs.mapM f = some ys) (hx : f x = some y) (i : Nat) :
    (xs.set i x).mapM f = some (ys.set i y) := by
  induction xs generalizing ys i with
  | nil =>
    obtain rfl := Option.some.inj h
    rfl
  | cons x' xs ih =>
    rw [List.mapM_cons] at h
    obtain ⟨y', hy', h⟩ := Option.bind_eq_some_iff.1 h
    obtain ⟨rest, hrest, h⟩ := Option.bind_eq_some_iff.1 h
    obtain rfl := Option.some.inj h
    cases i with
    | zero => rw [List.set_cons_zero, List.mapM_cons, hx, hrest]; rfl
    | succ i => rw [List.set_cons_succ, List.mapM_cons, hy', ih hrest i]; rfl

/-- What a document gives as its conditions makes no difference to the rest of the group. -/
theorem decode_withConditions (h : doc.conditions? = some entries)
    (hg : decode Json.depthLimit doc = some g) (entries' : List Json.Syntax) :
    decode Json.depthLimit (doc.withConditions entries') =
      (entries'.mapM (Json.decodeValue entryRoom)).map
        fun vs => ⟨g.logic, vs.map Condition.ofJson⟩ := by
  obtain ⟨r, hr, hread⟩ := Option.bind_eq_some_iff.1 hg
  obtain ⟨l, hl, hread⟩ := Option.bind_eq_some_iff.1 hread
  obtain ⟨vs, -, hread⟩ := Option.bind_eq_some_iff.1 hread
  obtain rfl := Option.some.inj hread
  obtain ⟨r', hr', hroom', hroom, hlist, hlogic⟩ :=
    Json.Syntax.record?_withConditions h hr entries'
  have hl' : r'.orDefault? "logic" .all Logic.decode = some l := by
    rw [← hl, Json.Record.orDefault?, Json.Record.orDefault?, hlogic, hroom', hroom]
  rw [decode_of_record hr' hroom' hlist, hl']
  rfl

/-- A group that is read has one condition for each entry. -/
theorem conditions_of_decode (h : doc.conditions? = some entries)
    (hg : decode Json.depthLimit doc = some g) : g.conditions = entries.map Condition.ofEntry := by
  have hself := decode_withConditions h hg entries
  rw [Json.Syntax.withConditions_self h, hg] at hself
  obtain ⟨vs, hvs, hgroup⟩ := Option.map_eq_some_iff.1 hself.symm
  rw [← hgroup]
  exact Condition.map_ofJson_of_mapM hvs

/-- If the document is still read with another entry, only the condition of this entry is another
one. -/
theorem decode_set {i : Nat} {entry : Json.Syntax} {g' : RuleGroup}
    (h : doc.conditions? = some entries) (hg : decode Json.depthLimit doc = some g)
    (hg' : decode Json.depthLimit (doc.withConditions (entries.set i entry)) = some g') :
    g' = { g with conditions := g.conditions.set i (Condition.ofEntry entry) } := by
  rw [decode_withConditions h hg] at hg'
  obtain ⟨vs, hvs, rfl⟩ := Option.map_eq_some_iff.1 hg'
  rw [conditions_of_decode h hg, Condition.map_ofJson_of_mapM hvs, List.map_set]

/-- The document is still read with another entry if the entry stands for a value. -/
theorem isSome_decode_set {i : Nat} {entry : Json.Syntax} {v : Json}
    (h : doc.conditions? = some entries) (hg : decode Json.depthLimit doc = some g)
    (hv : entry.toValue? entryRoom = some v) :
    (decode Json.depthLimit (doc.withConditions (entries.set i entry))).isSome = true := by
  have hself := decode_withConditions h hg entries
  rw [Json.Syntax.withConditions_self h, hg] at hself
  obtain ⟨vs, hvs, -⟩ := Option.map_eq_some_iff.1 hself.symm
  rw [decode_withConditions h hg, mapM_set hvs hv i]
  rfl

/-! ## Nobody is added -/

/-- A condition that no contact passes takes contacts away from a group and adds none. -/
theorem holds_of_holds_set {c : Condition} (hc : ∀ contact, c.check.passes contact = false)
    (i : Nat)
    {contact : Contact}
    (h : ({ g with conditions := g.conditions.set i c } : RuleGroup).compile.holds contact = true) :
    g.compile.holds contact = true := by
  by_cases hi : i < g.conditions.length
  case neg => rwa [List.set_eq_of_length_le (by omega)] at h
  have hne : g.conditions ≠ [] := List.ne_nil_of_length_pos (by omega)
  rw [compile, if_neg (by simpa using hne)] at h ⊢
  cases hlogic : g.logic with
  | all =>
    simp only [hlogic, Predicate.holds, List.all_map, List.all_eq_true] at h
    have hpass := h c (List.mem_set hi c)
    simp [hc contact] at hpass
  | any =>
    simp only [hlogic, Predicate.holds, List.any_map, List.any_eq_true] at h ⊢
    obtain ⟨d, hd, hpass⟩ := h
    rcases List.mem_or_eq_of_mem_set hd with hd | rfl
    · exact ⟨d, hd, hpass⟩
    · simp [hc contact] at hpass

/-- The group that stands in for a text that is not one means nobody. -/
theorem holds_compile_empty (contact : Contact) : empty.compile.holds contact = false := rfl

/-- **Malformed rules fail closed, and only for themselves**: let a text be read as a group.

* The group has one condition for each entry of the list, in order, and each is made of its entry
  alone.
* An entry that is not a condition becomes one that no contact passes.
* A text with another entry in one place is read as the same group but for this condition, if the
  entry stands for a value at all.
* If that other entry is not a condition, the text means no contact that the group does not mean.
* Any text whatever is read as the group that it is, or means nobody.

The operator in braces, which should not be one, is left out. -/
theorem malformed_fails_closed {t : String} (hdoc : Json.Syntax.ofText? t = some doc)
    (hentries : doc.conditions? = some entries) (hg : ofText? t = some g) :
    g.conditions = entries.map Condition.ofEntry ∧
      (∀ entry : Json.Syntax, entry.IsNoCondition → ¬ entry.HasBracedOperator →
        ∀ contact, (Condition.ofEntry entry).check.passes contact = false) ∧
      (∀ t' i entry, Json.Syntax.ofText? t' = some (doc.withConditions (entries.set i entry)) →
        ((entry.toValue? entryRoom).isSome = true →
          ofText? t' =
            some { g with conditions := g.conditions.set i (Condition.ofEntry entry) }) ∧
        (entry.IsNoCondition → ¬ entry.HasBracedOperator → ∀ contact,
          (ofTextOrEmpty t').compile.holds contact = true →
            (ofTextOrEmpty t).compile.holds contact = true)) ∧
      ∀ u, ofText? u = some (ofTextOrEmpty u) ∨
        ofText? u = none ∧ ∀ contact, (ofTextOrEmpty u).compile.holds contact = false := by
  have hread : decode Json.depthLimit doc = some g := by
    rw [ofText?, Json.decodeDocument?, hdoc] at hg
    exact hg
  refine ⟨conditions_of_decode hentries hread,
    fun _ hno hbraces => Condition.passes_check_ofEntry_eq_false hno hbraces,
    fun t' i entry ht' => ?_, fun u => ?_⟩
  · have hread' : ofText? t' =
        decode Json.depthLimit (doc.withConditions (entries.set i entry)) := by
      rw [ofText?, Json.decodeDocument?, ht', Option.bind_some]
    constructor
    · intro hvalue
      obtain ⟨v, hv⟩ := Option.isSome_iff_exists.1 hvalue
      obtain ⟨g', hg'⟩ := Option.isSome_iff_exists.1 (isSome_decode_set hentries hread hv)
      rw [hread', hg', decode_set hentries hread hg']
    · intro hno hbraces contact hholds
      rw [ofTextOrEmpty, hg, Option.getD_some]
      rw [ofTextOrEmpty, hread'] at hholds
      cases hg' : decode Json.depthLimit (doc.withConditions (entries.set i entry)) with
      | none =>
        rw [hg', Option.getD_none, holds_compile_empty] at hholds
        cases hholds
      | some g' =>
        rw [hg', Option.getD_some, decode_set hentries hread hg'] at hholds
        exact holds_of_holds_set (Condition.passes_check_ofEntry_eq_false hno hbraces) i hholds
  · rw [ofTextOrEmpty]
    cases ofText? u with
    | none => exact .inr ⟨rfl, holds_compile_empty⟩
    | some g => exact .inl rfl

end RuleGroup

namespace Sample

/-- A group that means those with one address and those with one number. -/
def either : Json :=
  .array [.string "OR", .array [.array [.string "email", .string "equals", .string "a"],
    .array [.string "phone", .string "equals", .string "1"]]]

/-- The same with nothing in the place of the address. -/
def phoneOnly : Json :=
  .array [.string "OR", .array [.null, .array [.string "phone", .string "equals", .string "1"]]]

/-- An entry whose operator is in braces. -/
def braced : Json := .array [.string "email", .object [("equals", .null)], .string "a"]

end Sample

namespace RuleGroup

open Sample (either phoneOnly braced)

/-- Who is meant by two entries is not meant by more of them when one is taken away. -/
theorem malformed_fails_closed_of_two :
    ofText? either.print =
        some ⟨.any, [⟨"email", .equals, .string "a"⟩, ⟨"phone", .equals, .string "1"⟩]⟩ ∧
      ofText? phoneOnly.print = some ⟨.any, [.malformed, ⟨"phone", .equals, .string "1"⟩]⟩ ∧
      ∀ contact, (ofTextOrEmpty phoneOnly.print).compile.holds contact = true →
        (ofTextOrEmpty either.print).compile.holds contact = true := by
  have hdoc : Json.Syntax.ofText? either.print = some either.toSyntax :=
    Json.Syntax.ofText?_print (by simp [either, Json.numbers, Json.itemsNumbers])
  have hdoc' : Json.Syntax.ofText? phoneOnly.print = some phoneOnly.toSyntax :=
    Json.Syntax.ofText?_print (by simp [phoneOnly, Json.numbers, Json.itemsNumbers])
  have hg : ofText? either.print =
      some ⟨.any, [⟨"email", .equals, .string "a"⟩, ⟨"phone", .equals, .string "1"⟩]⟩ := by
    rw [ofText?, Json.decodeDocument?, hdoc]
    rfl
  have hplain : Json.Syntax.null.IsNoCondition ∧ ¬ Json.Syntax.null.HasBracedOperator := by
    refine ⟨fun v hv => ?_, fun ⟨v, hv, _, _, hoperator⟩ => ?_⟩ <;>
      obtain rfl := Option.some.inj hv
    · exact .shape fun hshape => by cases hshape
    · cases hoperator
  have hentries : either.toSyntax.conditions? = some [_, _] := rfl
  obtain ⟨-, -, hset, -⟩ := malformed_fails_closed hdoc hentries hg
  obtain ⟨hread, hnobody⟩ := hset phoneOnly.print 0 .null hdoc'
  exact ⟨hg, hread rfl, hnobody hplain.1 hplain.2⟩

/-- An operator in braces is not a text, and yet a contact passes the condition. -/
theorem braced_operator_is_read :
    braced.IsNoCondition ∧
      ofText? (Json.array [.string "AND", .array [braced]]).print =
        some ⟨.all, [Condition.ofJson braced]⟩ ∧
      ∃ contact, (Condition.ofJson braced).check.passes contact = true ∧
        (ofTextOrEmpty (Json.array [.string "AND", .array [braced]]).print).compile.holds contact =
          true := by
  have hno : braced.IsNoCondition := .operator fun s hs => by cases hs
  have hread : ofText? (Json.array [.string "AND", .array [braced]]).print =
      some ⟨.all, [Condition.ofJson braced]⟩ := by
    rw [ofText?, Json.decodeDocument?,
      Json.Syntax.ofText?_print (by simp [braced, Json.numbers, Json.itemsNumbers,
        Json.membersNumbers])]
    rfl
  refine ⟨hno, hread, { Contact.ofIdentity "c" "t" with email := some "a" }, by decide, ?_⟩
  rw [ofTextOrEmpty, hread]
  decide

end RuleGroup
end Mailshot
