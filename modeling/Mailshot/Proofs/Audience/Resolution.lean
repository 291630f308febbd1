import Mailshot.Proofs.Audience.Index

/-!
# Resolution is exact

A source of contacts may answer what it likes.  So that its questions and answers can be talked
about, `ContactSource.watched` writes them down and leaves everything else as it is.  `Consulted`
says which questions a resolution asks: for one predicate after the other, up to the first failure.
What it makes of the answers is said by `Contact.firsts`, which keeps the first contact of each
identifier: it is applied to all answers, one behind the other, after the contacts of other tenants
are gone, so none of these can stand in the way of a contact of the tenant.

* `Audience.contacts_ofList`, `Audience.find?_ofList`: an audience is the first contacts of the list
  that it is made of, and finds the first contact of an identifier.
* `ContactSource.consulted_addGroups`: the questions of a resolution and what becomes of the
  answers.
-/

set_option autoImplicit false

namespace Mailshot

/-! ## First contacts -/

namespace Contact

/-- The contacts of a list without those whose identifier came before. -/
def firsts : List Contact → List Contact
  | [] => []
  | c :: cs => c :: (firsts cs).filter fun d => d.id ≠ c.id

theorem mem_of_mem_firsts {cs : List Contact} {c : Contact} (h : c ∈ firsts cs) : c ∈ cs := by
  induction cs with
  | nil => exact h
  | cons d cs ih =>
    rcases List.mem_cons.1 h with rfl | h
    · exact List.mem_cons_self
    · exact List.mem_cons_of_mem _ (ih (List.mem_filter.1 h).1)

/-- Contacts that are told apart by their identifiers are all first. -/
theorem firsts_eq_self {cs : List Contact} (h : (cs.map (·.id)).Nodup) : firsts cs = cs := by
  induction cs with
  | nil => rfl
  | cons d cs ih =>
    rw [List.map_cons, List.nodup_cons] at h
    have hkept : cs.filter (fun c => c.id ≠ d.id) = cs :=
      List.filter_eq_self.2 fun c hc => decide_eq_true fun heq =>
        h.1 (heq ▸ List.mem_map_of_mem hc)
    rw [firsts, ih h.2, hkept]

/-- The first contacts have the first contact of each identifier. -/
theorem find?_firsts (id : String) (cs : List Contact) :
    (firsts cs).find? (fun c => c.id = id) = cs.find? fun c => c.id = id := by
  induction cs with
  | nil => rfl
  | cons d cs ih =>
    rw [firsts, List.find?_cons, List.find?_cons]
    by_cases hd : d.id = id
    · simp [hd]
    · -- what is filtered away has the identifier of the head, which is not asked for
      have hp : (fun c : Contact => decide (decide (c.id ≠ d.id) = true ∧ decide (c.id = id) = true)) =
          fun c => decide (c.id = id) := by
        funext c
        by_cases hc : c.id = id
        · simp [hc, Ne.symm hd]
        · simp [hc]
      simp only [hd, decide_false, List.find?_filter, hp, ih]

end Contact

namespace Audience

open Contact (firsts)

/-- An identifier is in the index just if a contact has it. -/
theorem Indexed.contains_iff {a : Audience} (h : a.Indexed) (id : String) :
    a.index.contains id = true ↔ id ∈ a.ids := by
  rw [Dictionary.contains, Option.isSome_iff_exists, List.mem_iff_getElem?]
  exact exists_congr fun i => h id i

theorem Indexed.contacts_insertAll {a : Audience} (h : a.Indexed) (cs : List Contact) :
    (a.insertAll cs).contacts = a.contacts ++ (firsts cs).filter fun c => c.id ∉ a.ids := by
  induction cs generalizing a with
  | nil => exact (List.append_nil _).symm
  | cons c cs ih =>
    show ((a.insert c).2.insertAll cs).contacts = _
    rw [ih (h.insert c), Audience.insert, firsts]
    by_cases hc : a.index.contains c.id = true
    · -- the identifier is there already, and with it all that the head filters away
      have hid : c.id ∈ a.ids := (h.contains_iff c.id).1 hc
      rw [if_pos hc, List.filter_cons_of_neg (by simpa using hid), List.filter_filter]
      refine congrArg _ (List.filter_congr fun d _ => ?_)
      by_cases hd : d.id = c.id
      · simp [hd, hid]
      · simp [hd]
    · have hid : c.id ∉ a.ids := fun hm => hc ((h.contains_iff c.id).2 hm)
      rw [if_neg hc, List.filter_cons_of_pos (by simpa using hid), List.filter_filter,
        List.append_assoc, List.singleton_append]
      refine congrArg (fun l => a.contacts ++ c :: l) (List.filter_congr fun d _ => ?_)
      have hids : d.id ∉ (a.contacts ++ [c]).map (·.id) ↔ d.id ∉ a.ids ∧ ¬ d.id = c.id := by
        rw [List.map_append, List.mem_append, not_or]
        simp [ids]
      rw [Bool.eq_iff_iff, Bool.and_eq_true, decide_eq_true_iff, decide_eq_true_iff,
        decide_eq_true_iff]
      exact hids

/-- **An audience has the first contact of each identifier, in order.** -/
theorem contacts_ofList (cs : List Contact) : (ofList cs).contacts = firsts cs := by
  have hempty : empty.ids = [] := rfl
  rw [ofList, indexed_empty.contacts_insertAll, hempty]
  simp [empty]

theorem Indexed.find?_eq {a : Audience} (h : a.Indexed) (id : String) :
    a.find? id = a.contacts.find? fun c => c.id = id := by
  rw [find?]
  cases hi : a.index.find? id with
  | none =>
    rw [Option.bind_none]
    have hid : id ∉ a.ids := fun hm => by
      have hc := (h.contains_iff id).2 hm
      rw [Dictionary.contains, hi] at hc
      cases hc
    refine (List.find?_eq_none.2 fun c hc heq => hid ?_).symm
    exact List.mem_map.2 ⟨c, hc, of_decide_eq_true heq⟩
  | some i =>
    rw [Option.bind_some]
    have hget : a.ids[i]? = some id := (h id i).1 hi
    obtain ⟨c, hc, hid⟩ : ∃ c, a.contacts[i]? = some c ∧ c.id = id := by
      simpa [ids] using hget
    obtain ⟨hlt, rfl⟩ := List.getElem?_eq_some_iff.1 hc
    rw [hc, eq_comm, List.find?_eq_some_iff_getElem]
    refine ⟨decide_eq_true hid, i, hlt, rfl, fun j hj => ?_⟩
    -- an earlier one with the identifier would have its place in the index
    have hne : a.contacts[j].id ≠ id := fun heq => by
      have hids : a.ids[j]? = some id := by simp [ids, heq, Nat.lt_trans hj hlt]
      have hj' : a.index.find? id = some j := (h id j).2 hids
      rw [hi] at hj'
      exact absurd (Option.some.inj hj') (Nat.ne_of_gt hj)
    simpa using hne

/-- **An audience finds the first contact of an identifier.** -/
theorem find?_ofList (cs : List Contact) (id : String) :
    (ofList cs).find? id = cs.find? fun c => c.id = id := by
  rw [(indexed_ofList cs).find?_eq, contacts_ofList, Contact.find?_firsts]

end Audience

/-! ## Questions and answers -/

/-- A question put to a source of contacts, and the answer. -/
inductive Inquiry (ε : Type) where
  /-- Which contacts of a tenant does a predicate mean? -/
  | matching (predicate : Predicate) (tenant : String) (answer : Except ε (List Contact))
  /-- How many are there? -/
  | count (predicate : Predicate) (tenant : String) (answer : Except ε Nat)

/-- These are the questions that are asked to find the contacts of a tenant that some predicates
mean: one after the other, up to the first failure.  The outcome is that failure, or all answers one
behind the other. -/
inductive Consulted {ε : Type} (tenant : String) :
    List Predicate → List (Inquiry ε) → Except ε (List Contact) → Prop
  | done : Consulted tenant [] [] (.ok [])
  | answered {p : Predicate} {ps : List Predicate} {contacts : List Contact}
      {log : List (Inquiry ε)} {outcome : Except ε (List Contact)}
      (rest : Consulted tenant ps log outcome) :
      Consulted tenant (p :: ps) (.matching p tenant (.ok contacts) :: log)
        (outcome.map (contacts ++ ·))
  | failed {p : Predicate} {ps : List Predicate} {err : ε} :
      Consulted tenant (p :: ps) [.matching p tenant (.error err)] (.error err)

namespace ContactSource

variable {σ ε : Type}

/-- The same source, which writes down what it is asked and what it answers. -/
def watched (source : ContactSource σ ε) : ContactSource (σ × List (Inquiry ε)) ε where
  matching predicate tenant := fun (s, log) =>
    let (answer, s) := source.matching predicate tenant s
    (answer, (s, log ++ [.matching predicate tenant answer]))
  count predicate tenant := fun (s, log) =>
    let (answer, s) := source.count predicate tenant s
    (answer, (s, log ++ [.count predicate tenant answer]))

/-- The predicates of groups that can mean somebody. -/
def asked (groups : List RuleGroup) : List Predicate :=
  (groups.map (·.compile)).filter fun p => !p.isNever

theorem asked_cons (g : RuleGroup) (gs : List RuleGroup) :
    asked (g :: gs) = if g.compile.isNever then asked gs else g.compile :: asked gs := by
  rw [asked, List.map_cons, List.filter_cons]
  cases g.compile.isNever <;> rfl

variable (source : ContactSource σ ε) (tenant : String)

/-- What becomes of one more group. -/
theorem addGroups_cons (a : Audience) (g : RuleGroup) (gs : List RuleGroup) (s : σ) :
    source.addGroups tenant a (g :: gs) s =
      if g.compile.isNever then source.addGroups tenant a gs s
      else match source.matching g.compile tenant s with
        | (.error err, s) => (.error err, s)
        | (.ok contacts, s) =>
          source.addGroups tenant (a.insertAll (contacts.filter (·.tenant = tenant))) gs s := by
  rw [addGroups]
  by_cases hnever : g.compile.isNever = true
  · rw [if_pos hnever, addGroup, if_pos hnever]
    rfl
  · rw [if_neg hnever, addGroup, if_neg hnever]
    cases h : source.matching g.compile tenant s with
    | mk answer s' =>
      cases answer with
      | error err =>
        simp only [bind, StateT.bind, h]
        rfl
      | ok contacts =>
        simp only [bind, StateT.bind, h]
        rfl

/-- Writing questions down changes nothing. -/
theorem watched_addGroups (a : Audience) (groups : List RuleGroup) (s : σ)
    (log : List (Inquiry ε)) :
    (source.watched.addGroups tenant a groups (s, log)).1 =
        (source.addGroups tenant a groups s).1 ∧
      (source.watched.addGroups tenant a groups (s, log)).2.1 =
        (source.addGroups tenant a groups s).2 := by
  induction groups generalizing a s log with
  | nil => exact ⟨rfl, rfl⟩
  | cons g gs ih =>
    rw [addGroups_cons, addGroups_cons]
    by_cases hnever : g.compile.isNever = true
    · rw [if_pos hnever, if_pos hnever]
      exact ih a s log
    · rw [if_neg hnever, if_neg hnever]
      simp only [watched]
      cases source.matching g.compile tenant s with
      | mk answer s' =>
        cases answer with
        | error err => exact ⟨rfl, rfl⟩
        | ok contacts => exact ih _ s' _

/-- **Groups are added as they are asked for**: the source is asked for those that can mean
somebody, and the contacts of the tenant among all answers join the audience in their order. -/
theorem consulted_addGroups (a : Audience) (groups : List RuleGroup) (s : σ)
    (log : List (Inquiry ε)) :
    ∃ (more : List (Inquiry ε)) (outcome : Except ε (List Contact)),
      (source.watched.addGroups tenant a groups (s, log)).2.2 = log ++ more ∧
      Consulted tenant (asked groups) more outcome ∧
      (source.watched.addGroups tenant a groups (s, log)).1 =
        outcome.map fun found => a.insertAll (found.filter (·.tenant = tenant)) := by
  induction groups generalizing a s log with
  | nil => exact ⟨[], .ok [], (List.append_nil log).symm, .done, rfl⟩
  | cons g gs ih =>
    rw [addGroups_cons, asked_cons]
    by_cases hnever : g.compile.isNever = true
    · rw [if_pos hnever, if_pos hnever]
      exact ih a s log
    · rw [if_neg hnever, if_neg hnever]
      simp only [watched]
      cases source.matching g.compile tenant s with
      | mk answer s' =>
        cases answer with
        | error err => exact ⟨_, _, rfl, .failed, rfl⟩
        | ok contacts =>
          obtain ⟨more, outcome, hlog, hconsulted, hresult⟩ :=
            ih (a.insertAll (contacts.filter (·.tenant = tenant))) s'
              (log ++ [.matching g.compile tenant (.ok contacts)])
          refine ⟨_ :: more, outcome.map (contacts ++ ·), ?_, .answered hconsulted, ?_⟩
          · exact hlog.trans (List.append_cons log _ more).symm
          · refine hresult.trans ?_
            cases outcome with
            | error err => rfl
            | ok found =>
              simp [Except.map, Audience.insertAll, List.filter_append, List.foldl_append]

/-- **Resolution is exact, whatever the source answers.** -/
theorem resolve_exact (groups : List RuleGroup) (s : σ) :
    let run := source.watched.resolve groups tenant (s, [])
    source.resolve groups tenant s = (run.1, run.2.1) ∧
      ∃ outcome, Consulted tenant (asked groups) run.2.2 outcome ∧
        match outcome with
        | .error err => run.1 = .error err
        | .ok found => ∃ audience, run.1 = .ok audience ∧
            audience.contacts = Contact.firsts (found.filter (·.tenant = tenant)) ∧
            audience.ids.Nodup ∧
            (∀ c ∈ audience.contacts, c.tenant = tenant) ∧
            ∀ id, audience.find? id = found.find? fun c => c.tenant = tenant ∧ c.id = id := by
  obtain ⟨hresult, hstate⟩ := source.watched_addGroups tenant .empty groups s []
  obtain ⟨log, outcome, hlog, hconsulted, houtcome⟩ :=
    source.consulted_addGroups tenant .empty groups s []
  refine ⟨Prod.ext hresult.symm hstate.symm, outcome, ?_, ?_⟩
  · rw [List.nil_append] at hlog
    exact hlog ▸ hconsulted
  · cases outcome with
    | error err => exact houtcome
    | ok found =>
      refine ⟨.ofList (found.filter (·.tenant = tenant)), houtcome, Audience.contacts_ofList _,
        (Audience.indexed_ofList _).nodup_ids, fun c hc => ?_, fun id => ?_⟩
      · rw [Audience.contacts_ofList] at hc
        exact of_decide_eq_true (List.mem_filter.1 (Contact.mem_of_mem_firsts hc)).2
      · rw [Audience.find?_ofList, List.find?_filter]
        exact congrArg (List.find? · found) (funext fun c => by simp)

end ContactSource

end Mailshot
