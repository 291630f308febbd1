import Mathlib.Data.List.Basic
import Mailshot.Audience.Predicate

/-!
# Problems of a rule group

Three functions decide by themselves which conditions can hold: `RuleGroup.compile` puts a test that
nothing passes in the place of a condition with a problem, `Predicate.isNever` looks for such tests,
and `RuleGroup.diagnose` lists the problems for those who write the rules.  Searches are left out
where `isNever` says so, and rules are mended where `diagnose` says so, so the three have to agree.

They do because the test that nothing passes has no other origin: no operator and value make it up
(`FieldTest.ofValue_ne_never`), so it stands exactly where a condition has a problem
(`Condition.test_check_eq_never_iff`).  Everything else is about lists.
-/

set_option autoImplicit false

namespace Mailshot

/-! ## One condition -/

/-- No operator and value make up the test that nothing passes. -/
theorem FieldTest.ofValue_ne_never (op : Operator) (v : Json) :
    FieldTest.ofValue op v ≠ .ok .never := by
  cases op with
  | equals => rw [ofValue]; cases Scalar.ofJson? v <;> simp
  | contains => rw [ofValue]; cases Scalar.needle? v <;> simp
  | arrayContains => rw [ofValue]; cases Scalar.needle? v <;> simp
  | greater => rw [ofValue]; cases Scalar.number? v <;> simp
  | less => rw [ofValue]; cases Scalar.number? v <;> simp
  | greaterOrEqual => rw [ofValue]; cases Scalar.number? v <;> simp
  | lessOrEqual => rw [ofValue]; cases Scalar.number? v <;> simp
  | inSet => rw [ofValue]; cases (Scalar.members v).isEmpty <;> simp
  | unknown => simp [ofValue]

namespace Condition

/-- What is wrong with a condition, if anything is. -/
def problem? (c : Condition) : Option ConditionProblem :=
  match c.compile? with
  | .ok _ => none
  | .error p => some p

/-- The group of one condition. -/
def alone (c : Condition) (logic : Logic) : RuleGroup := ⟨logic, [c]⟩

/-- Nothing passes the test of a condition just if the condition has a problem. -/
theorem test_check_eq_never_iff (c : Condition) :
    c.check.test = .never ↔ c.problem?.isSome = true := by
  rw [check, problem?]
  cases h : c.compile? with
  | error p => simp
  | ok test =>
    have hne : test ≠ .never := by
      rintro rfl
      rw [compile?] at h
      split at h
      · cases h
      · exact FieldTest.ofValue_ne_never _ _ h
    simpa using hne

end Condition

/-! ## Predicates -/

theorem Check.passes_of_never {check : Check} (h : check.test = .never) (contact : Contact) :
    check.passes contact = false := by
  rw [passes, h]
  rfl

/-- A condition with a problem holds of nobody. -/
theorem Condition.passes_check_of_problem {c : Condition} (h : c.problem?.isSome = true)
    (contact : Contact) : c.check.passes contact = false :=
  Check.passes_of_never (c.test_check_eq_never_iff.2 h) contact

/-- Nobody passes a predicate whose checks alone show that nobody is meant. -/
theorem Predicate.holds_eq_false_of_isNever {p : Predicate} (h : p.isNever = true) (c : Contact) :
    p.holds c = false := by
  cases p with
  | never => rfl
  | all checks =>
    obtain ⟨check, hmem, htest⟩ := List.any_eq_true.1 h
    have hfails := Check.passes_of_never (of_decide_eq_true htest) c
    exact List.all_eq_false.2 ⟨check, hmem, by simp [hfails]⟩
  | any checks =>
    refine List.any_eq_false.2 fun check hmem => ?_
    have htest := List.all_eq_true.1 h check hmem
    simp [Check.passes_of_never (of_decide_eq_true htest) c]

namespace RuleGroup

theorem compile_of_all {g : RuleGroup} (h : g.conditions ≠ []) (hlogic : g.logic = .all) :
    g.compile = .all (g.conditions.map (·.check)) := by
  rw [compile, if_neg (by simpa using h), hlogic]

theorem compile_of_any {g : RuleGroup} (h : g.conditions ≠ []) (hlogic : g.logic = .any) :
    g.compile = .any (g.conditions.map (·.check)) := by
  rw [compile, if_neg (by simpa using h), hlogic]

/-- The conditions of a group of which at least one has to hold are asked one by one, and an empty
group makes no exception. -/
theorem holds_compile_of_any {g : RuleGroup} (hlogic : g.logic = .any) (contact : Contact) :
    g.compile.holds contact = g.conditions.any (·.check.passes contact) := by
  by_cases h : g.conditions = []
  · simp [compile, h, Predicate.holds]
  · rw [compile_of_any h hlogic]
    simp only [Predicate.holds, List.any_map, Function.comp_def]

/-- A group of conditions that all have to hold can mean nobody if one of them has a problem, any
other group only if all have. -/
theorem isNever_compile_iff {g : RuleGroup} (h : g.conditions ≠ []) :
    g.compile.isNever = true ↔
      match g.logic with
      | .all => ∃ c ∈ g.conditions, c.problem?.isSome = true
      | .any => ∀ c ∈ g.conditions, c.problem?.isSome = true := by
  cases hlogic : g.logic with
  | all =>
    rw [compile_of_all h hlogic]
    simp [Predicate.isNever, Condition.test_check_eq_never_iff]
  | any =>
    rw [compile_of_any h hlogic]
    simp [Predicate.isNever, Condition.test_check_eq_never_iff]

theorem isNever_compile_alone (c : Condition) (logic : Logic) :
    (c.alone logic).compile.isNever = true ↔ c.problem?.isSome = true := by
  rw [isNever_compile_iff (List.cons_ne_nil c [])]
  cases logic <;> simp [Condition.alone]

end RuleGroup

/-! ## The list of problems -/

/-- The index of the condition that a problem is about. -/
def Problem.index? : Problem → Option Nat
  | .emptyGroup => none
  | .condition i _ => some i

namespace RuleGroup

/-- The indices of the conditions that are reported to have a problem. -/
def reported (g : RuleGroup) : List Nat := g.diagnose.filterMap Problem.index?

/-- The group without the conditions that are reported. -/
def withoutReported (g : RuleGroup) : RuleGroup :=
  ⟨g.logic, (g.conditions.zipIdx.filter fun p => p.2 ∉ g.reported).map (·.1)⟩

theorem problemsFrom_eq_filterMap (index : Nat) (cs : List Condition) :
    problemsFrom index cs =
      (cs.zipIdx index).filterMap fun p => p.1.problem?.map (Problem.condition p.2) := by
  induction cs generalizing index with
  | nil => rfl
  | cons c cs ih =>
    rw [problemsFrom, List.zipIdx_cons, List.filterMap_cons, ← ih, Condition.problem?]
    cases c.compile? <;> rfl

/-- Every problem of a group with conditions is about one of them. -/
theorem map_index?_diagnose {g : RuleGroup} (h : g.conditions ≠ []) :
    g.diagnose.map Problem.index? = g.reported.map some := by
  have hall : ∀ p ∈ g.diagnose, p.index? ≠ none := by
    intro p hp
    rw [diagnose, if_neg (by simpa using h), problemsFrom_eq_filterMap, List.mem_filterMap] at hp
    obtain ⟨q, -, hq⟩ := hp
    obtain ⟨problem, -, rfl⟩ := Option.map_eq_some_iff.1 hq
    simp [Problem.index?]
  rw [reported]
  generalize g.diagnose = problems at hall
  induction problems with
  | nil => rfl
  | cons p ps ih =>
    obtain ⟨i, hi⟩ := Option.ne_none_iff_exists'.1 (hall p List.mem_cons_self)
    rw [List.map_cons, List.filterMap_cons_some hi, List.map_cons, hi,
      ih fun q hq => hall q (List.mem_cons_of_mem p hq)]

/-- The reported indices are those at which a condition with a problem stands, as they come. -/
theorem reported_eq_map_filter (g : RuleGroup) :
    g.reported = (g.conditions.zipIdx.filter fun p => p.1.problem?.isSome).map (·.2) := by
  rw [reported, diagnose]
  split
  · next h => rw [List.isEmpty_iff.1 h]; rfl
  · rw [problemsFrom_eq_filterMap, List.filterMap_filterMap]
    generalize g.conditions.zipIdx = ps
    induction ps with
    | nil => rfl
    | cons p ps ih =>
      rw [List.filterMap_cons, ih, List.filter_cons]
      cases p.1.problem? <;> rfl

theorem pairwise_lt_reported (g : RuleGroup) : g.reported.Pairwise (· < ·) := by
  have hall : (g.conditions.zipIdx.map (·.2)).Pairwise (· < ·) := by
    rw [List.zipIdx_map_snd]
    exact List.pairwise_lt_range'
  rw [reported_eq_map_filter]
  exact hall.sublist (List.filter_sublist.map _)

theorem mem_reported_iff {g : RuleGroup} {i : Nat} :
    i ∈ g.reported ↔ ∃ c, g.conditions[i]? = some c ∧ c.problem?.isSome = true := by
  rw [reported_eq_map_filter]
  simp [List.mem_zipIdx_iff_getElem?]

/-- What is left are the conditions without a problem. -/
theorem conditions_withoutReported (g : RuleGroup) :
    g.withoutReported.conditions = g.conditions.filter (·.problem?.isNone) := by
  have hmem : ∀ p ∈ g.conditions.zipIdx, decide (p.2 ∉ g.reported) = p.1.problem?.isNone := by
    intro p hp
    have hget : g.conditions[p.2]? = some p.1 := List.mem_zipIdx_iff_getElem?.1 hp
    have hiff : p.2 ∈ g.reported ↔ p.1.problem?.isSome = true := by
      rw [mem_reported_iff, hget]
      simp
    rw [Bool.eq_iff_iff, decide_eq_true_iff, hiff]
    simp
  rw [withoutReported, List.filter_congr hmem]
  conv_rhs => rw [← List.zipIdx_map_fst 0 g.conditions, List.filter_map, Function.comp_def]

theorem diagnose_ne_nil_iff {g : RuleGroup} (h : g.conditions ≠ []) :
    g.diagnose ≠ [] ↔ ∃ c ∈ g.conditions, c.problem?.isSome = true := by
  have hlength := congrArg List.length (map_index?_diagnose h)
  rw [List.length_map, List.length_map] at hlength
  have hindex : (∃ i, i ∈ g.reported) ↔ ∃ c ∈ g.conditions, c.problem?.isSome = true := by
    simp only [mem_reported_iff]
    constructor
    · rintro ⟨i, c, hi, hc⟩
      exact ⟨c, List.mem_of_getElem? hi, hc⟩
    · rintro ⟨c, hmem, hc⟩
      obtain ⟨i, hi⟩ := List.mem_iff_getElem?.1 hmem
      exact ⟨i, c, hi, hc⟩
  rw [← hindex, ← List.length_pos_iff_exists_mem, ← hlength, List.length_pos_iff]

theorem forall_mem_reported_iff {g : RuleGroup} :
    (∀ i < g.conditions.length, i ∈ g.reported) ↔
      ∀ c ∈ g.conditions, c.problem?.isSome = true := by
  simp only [mem_reported_iff, List.forall_mem_iff_getElem]
  refine forall₂_congr fun i hi => ?_
  simp [List.getElem?_eq_getElem hi]

/-- Conditions that hold of nobody are not missed where one condition is enough. -/
theorem holds_compile_withoutReported {g : RuleGroup} (h : g.logic = .any) (contact : Contact) :
    g.withoutReported.compile.holds contact = g.compile.holds contact := by
  rw [holds_compile_of_any h, holds_compile_of_any (g := g.withoutReported) h,
    conditions_withoutReported, List.any_filter]
  refine List.any_congr rfl fun c => ?_
  cases hc : c.problem? with
  | none => simp
  | some p => simp [Condition.passes_check_of_problem (c := c) (by rw [hc]; rfl)]

/-- **Compiling, the test for predicates that mean nobody, and the list of problems agree.**  The
problems of a group are listed by ascending index, and a condition is listed just if the group of it
alone can mean nobody.  A group of conditions that all have to hold can mean nobody just if anything
is listed, a group of which at least one has to hold just if everything is; and then it does mean
nobody.  Where one condition is enough, those that are listed may as well be taken out. -/
theorem diagnose_exact (g : RuleGroup) :
    (g.conditions = [] → g.diagnose = [.emptyGroup]) ∧
    (g.conditions ≠ [] →
      g.diagnose.map Problem.index? = g.reported.map some ∧
      (g.compile.isNever = true ↔
        match g.logic with
        | .all => g.diagnose ≠ []
        | .any => ∀ i < g.conditions.length, i ∈ g.reported)) ∧
    g.reported.Pairwise (· < ·) ∧
    (∀ i logic, i ∈ g.reported ↔
      ∃ c, g.conditions[i]? = some c ∧ (c.alone logic).compile.isNever = true) ∧
    (g.compile.isNever = true → ∀ contact, g.compile.holds contact = false) ∧
    (g.logic = .any →
      ∀ contact, g.withoutReported.compile.holds contact = g.compile.holds contact) := by
  refine ⟨fun h => by rw [diagnose, h]; rfl, fun h => ⟨map_index?_diagnose h, ?_⟩,
    g.pairwise_lt_reported, fun i logic => ?_, fun h => Predicate.holds_eq_false_of_isNever h,
    holds_compile_withoutReported⟩
  · rw [isNever_compile_iff h]
    cases g.logic with
    | all => exact (diagnose_ne_nil_iff h).symm
    | any => exact forall_mem_reported_iff.symm
  · simp only [mem_reported_iff, isNever_compile_alone]

end RuleGroup
end Mailshot
