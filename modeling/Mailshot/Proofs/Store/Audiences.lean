import Mailshot.Proofs.Audience.Operators
import Mailshot.Proofs.Dispatch.Preview
import Mailshot.Proofs.Store.ContactTable

/-!
# How groups can be split

Conditions are put together in two places: inside a group, by its logic, and outside of it, where
the contacts that the groups of a list mean are put into one audience.  `resolve_split` says that
the two come to the same, so it does not matter how rules are spread over groups: one of several
conditions is as good as several groups of one condition, and all of several conditions mean whom
each of them means.

All of it follows from `mem_audience_iff`: a contact of the tenant is in the audience just if one of
the groups means it.  A reached store tells contacts apart by their identifiers, so the contacts of
an audience, which are the first with their identifiers, are all that any group means.
-/

set_option autoImplicit false

namespace Mailshot

namespace Contact

/-- First contacts are kept in their order. -/
theorem firsts_sublist (cs : List Contact) : (firsts cs).Sublist cs := by
  induction cs with
  | nil => exact .slnil
  | cons c cs ih => exact (List.filter_sublist.trans ih).cons_cons c

/-- Where contacts are told apart by their identifiers, each of them is there. -/
theorem mem_firsts_iff {cs : List Contact} (h : ∀ c ∈ cs, ∀ d ∈ cs, c.id = d.id → c = d)
    {c : Contact} : c ∈ firsts cs ↔ c ∈ cs := by
  refine ⟨mem_of_mem_firsts, fun hc => ?_⟩
  induction cs with
  | nil => exact hc
  | cons d cs ih =>
    rw [firsts, List.mem_cons]
    by_cases hid : c.id = d.id
    · exact .inl (h c hc d List.mem_cons_self hid)
    · rcases List.mem_cons.1 hc with rfl | hc
      · exact absurd rfl hid
      · have hrest : ∀ c ∈ cs, ∀ d ∈ cs, c.id = d.id → c = d := fun c hc d hd =>
          h c (List.mem_cons_of_mem _ hc) d (List.mem_cons_of_mem _ hd)
        exact .inr (List.mem_filter.2 ⟨ih hrest hc, decide_eq_true hid⟩)

end Contact

namespace RuleGroup

/-- At least one condition holds just if one of the groups of one condition means the contact. -/
theorem holds_compile_any_iff (conditions : List Condition) (logic : Logic) (contact : Contact) :
    (RuleGroup.mk .any conditions).compile.holds contact = true ↔
      ∃ g ∈ conditions.map (·.alone logic), g.compile.holds contact = true := by
  rw [holds_compile_of_any rfl]
  simp [Condition.holds_compile_alone_iff, Condition.passes_check_iff]

/-- All of some conditions hold just if all of the groups of one condition mean the contact. -/
theorem holds_compile_all_iff {conditions : List Condition} (h : conditions ≠ []) (logic : Logic)
    (contact : Contact) :
    (RuleGroup.mk .all conditions).compile.holds contact = true ↔
      ∀ condition ∈ conditions, (condition.alone logic).compile.holds contact = true := by
  rw [holds_compile_iff]
  simp [Means, h, Condition.holds_compile_alone_iff]

end RuleGroup

namespace Store

/-- Whom some rule groups mean among the contacts of a tenant, each once. -/
def audience (s : Store) (tenant : String) (groups : List RuleGroup) : Audience :=
  .ofList (groups.flatMap fun g => s.matching g.compile tenant)

/-! ## What is resolved -/

theorem tenant_of_mem_matching {s : Store} {p : Predicate} {tenant : String} {c : Contact}
    (h : c ∈ s.matching p tenant) : c.tenant = tenant := by
  rw [matching_eq_filter] at h
  exact tenant_of_mem_contactsOf (List.mem_filter.1 h).1

theorem addGroups_eq {s : Store} {tenant : String} (h : s.holdsBytes tenant = false) (a : Audience)
    (groups : List RuleGroup) :
    Connection.contactSource.addGroups tenant a groups (.ofStore s) =
      (.ok (a.insertAll (groups.flatMap fun g => s.matching g.compile tenant)), .ofStore s) := by
  induction groups generalizing a with
  | nil => rfl
  | cons g gs ih =>
    rw [ContactSource.addGroups_cons, List.flatMap_cons]
    split
    · next hnever => rw [ih, matching, if_pos hnever, List.nil_append]
    · have hown : (s.matching g.compile tenant).filter (·.tenant = tenant) =
          s.matching g.compile tenant :=
        List.filter_eq_self.2 fun c hc => decide_eq_true (tenant_of_mem_matching hc)
      simp only [(search_of_texts h).1, hown, ih, Audience.insertAll, List.foldl_append]

/-- Resolving some groups gives the audience that they mean, and changes nothing. -/
theorem resolve_eq {s : Store} {tenant : String} (h : s.holdsBytes tenant = false)
    (groups : List RuleGroup) :
    Connection.contactSource.resolve groups tenant (.ofStore s) =
      (.ok (s.audience tenant groups), .ofStore s) :=
  addGroups_eq h .empty groups

theorem nodup_contacts_audience (s : Store) (tenant : String) (groups : List RuleGroup) :
    (s.audience tenant groups).contacts.Nodup :=
  .of_map _ (Audience.indexed_ofList _).nodup_ids

theorem size_audience_le (s : Store) (tenant : String) (groups : List RuleGroup) :
    (s.audience tenant groups).size ≤
      (groups.map fun g => (s.matching g.compile tenant).length).sum := by
  rw [Audience.size, audience, Audience.contacts_ofList, ← List.length_flatMap]
  exact (Contact.firsts_sublist _).length_le

theorem preview_eq_length {s : Store} {tenant : String} (h : s.holdsBytes tenant = false)
    (g : RuleGroup) :
    (Connection.contactSource.preview g tenant (.ofStore s)).1 =
      (s.matching g.compile tenant).length := by
  rw [Dispatch.Outside.preview_eq h, countMatching_eq_length]

section Reached

variable {s : Store} (h : s.Reached) {tenant : String} {groups groups' : List RuleGroup}
include h

/-- **A contact of the tenant is in the audience just if one of the groups means it.** -/
theorem mem_audience_iff {c : Contact} :
    c ∈ (s.audience tenant groups).contacts ↔
      c ∈ s.contactsOf tenant ∧ ∃ g ∈ groups, g.compile.holds c = true := by
  have hmem (d : Contact) : d ∈ groups.flatMap (fun g => s.matching g.compile tenant) ↔
      d ∈ s.contactsOf tenant ∧ ∃ g ∈ groups, g.compile.holds d = true := by
    simp only [List.mem_flatMap, matching_eq_filter, List.mem_filter]
    constructor
    · rintro ⟨g, hg, hd, hholds⟩
      exact ⟨hd, g, hg, hholds⟩
    · rintro ⟨hd, g, hg, hholds⟩
      exact ⟨g, hg, hd, hholds⟩
  rw [audience, Audience.contacts_ofList, Contact.mem_firsts_iff fun c hc d hd hid => ?_, hmem]
  exact List.inj_on_of_nodup_map (h.nodup_contactsOf tenant) ((hmem c).1 hc).1 ((hmem d).1 hd).1 hid

/-- Groups that mean the same contacts between them make up the same audience. -/
theorem perm_audience
    (hsame : ∀ c, (∃ g ∈ groups, g.compile.holds c = true) ↔
      ∃ g ∈ groups', g.compile.holds c = true) :
    (s.audience tenant groups).contacts.Perm (s.audience tenant groups').contacts := by
  rw [List.perm_ext_iff_of_nodup (s.nodup_contacts_audience tenant groups)
    (s.nodup_contacts_audience tenant groups')]
  intro c
  rw [mem_audience_iff h, mem_audience_iff h, hsame]

/-- No contact that one of the groups means is missing. -/
theorem length_matching_le {g : RuleGroup} (hg : g ∈ groups) :
    (s.matching g.compile tenant).length ≤ (s.audience tenant groups).size := by
  have hnodup : (s.matching g.compile tenant).Nodup := by
    rw [matching_eq_filter]
    exact (List.Nodup.of_map _ (h.nodup_contactsOf tenant)).filter _
  have hsubset : s.matching g.compile tenant ⊆ (s.audience tenant groups).contacts := fun c hc => by
    rw [matching_eq_filter, List.mem_filter] at hc
    exact (mem_audience_iff h).2 ⟨hc.1, g, hg, hc.2⟩
  exact (List.subperm_of_subset hnodup hsubset).length_le

end Reached

/-- **It does not matter how rules are spread over groups.**  Any list of groups is resolved to one
audience.  A group of which at least one condition has to hold is resolved to the same contacts as
the groups of each of its conditions; one of which all have to hold, to those that all of these have
in common.  Neither the order of groups nor how often one is named makes a difference, and a list of
groups is resolved to whom any of them is resolved to.  There are at least as many as are counted
for any of the groups, and at most as many as for all of them taken together. -/
theorem resolve_split {s : Store} (h : s.Reached) (tenant : String) :
    (∀ groups, Connection.contactSource.resolve groups tenant (.ofStore s) =
      (.ok (s.audience tenant groups), .ofStore s)) ∧
    (∀ conditions logic, (s.audience tenant [⟨.any, conditions⟩]).contacts.Perm
      (s.audience tenant (conditions.map (·.alone logic))).contacts) ∧
    (∀ conditions logic, conditions ≠ [] → ∀ c,
      c ∈ (s.audience tenant [⟨.all, conditions⟩]).contacts ↔
        ∀ condition ∈ conditions, c ∈ (s.audience tenant [condition.alone logic]).contacts) ∧
    (∀ groups groups' : List RuleGroup, (∀ g, g ∈ groups ↔ g ∈ groups') →
      (s.audience tenant groups).contacts.Perm (s.audience tenant groups').contacts) ∧
    (∀ groups c, c ∈ (s.audience tenant groups).contacts ↔
      ∃ g ∈ groups, c ∈ (s.audience tenant [g]).contacts) ∧
    ∀ groups,
      (∀ g ∈ groups, (Connection.contactSource.preview g tenant (.ofStore s)).1 ≤
        (s.audience tenant groups).size) ∧
      (s.audience tenant groups).size ≤
        (groups.map fun g => (Connection.contactSource.preview g tenant (.ofStore s)).1).sum := by
  refine ⟨fun groups => resolve_eq (h.holdsBytes_eq tenant) groups, fun conditions logic => ?_,
    fun conditions logic hne c => ?_, fun groups groups' hsame => ?_, fun groups c => ?_,
    fun groups => ?_⟩
  · refine perm_audience h fun c => ?_
    rw [← RuleGroup.holds_compile_any_iff conditions logic c]
    simp only [List.mem_singleton, exists_eq_left]
  · simp only [mem_audience_iff h, List.mem_singleton, exists_eq_left,
      RuleGroup.holds_compile_all_iff hne logic]
    obtain ⟨first, rest, rfl⟩ := List.exists_cons_of_ne_nil hne
    constructor
    · rintro ⟨hc, hholds⟩ condition hcondition
      exact ⟨hc, hholds condition hcondition⟩
    · intro hall
      exact ⟨(hall first List.mem_cons_self).1, fun condition hcondition =>
        (hall condition hcondition).2⟩
  · exact perm_audience h fun c => exists_congr fun g => and_congr_left fun _ => hsame g
  · simp only [mem_audience_iff h, List.mem_singleton, exists_eq_left]
    constructor
    · rintro ⟨hc, g, hg, hholds⟩
      exact ⟨g, hg, hc, hholds⟩
    · rintro ⟨g, hg, hc, hholds⟩
      exact ⟨hc, g, hg, hholds⟩
  · simp only [preview_eq_length (h.holdsBytes_eq tenant)]
    exact ⟨fun g hg => length_matching_le h hg, s.size_audience_le tenant groups⟩

namespace Sample

/-- Two contacts of one company, of which one has a tag. -/
def clients : Store := empty.after
  [.upsertTenant ⟨"t", "Acme"⟩,
    .upsertContact { Contact.ofIdentity "a" "t" with
      company := some "Acme"
      tags := Contact.tagSet ["vip"] },
    .upsertContact { Contact.ofIdentity "b" "t" with company := some "Acme" }]

/-- The tag, and the company. -/
def overlapping : List Condition :=
  [⟨"tags", .arrayContains, .string "vip"⟩, ⟨"company", .equals, .string "Acme"⟩]

end Sample

/-- The contact with the tag is counted for both conditions, and is in the audience once. -/
theorem resolve_split_of_overlap :
    Sample.clients.Reached ∧
      (Sample.clients.audience "t" [⟨.any, Sample.overlapping⟩]).contacts.Perm
        (Sample.clients.audience "t" (Sample.overlapping.map (·.alone .all))).contacts ∧
      (Sample.clients.audience "t" [⟨.any, Sample.overlapping⟩]).size = 2 ∧
      (Sample.clients.audience "t" (Sample.overlapping.map (·.alone .all))).size ≤ 3 := by
  have hreached : Sample.clients.Reached := later_after _ _
  obtain ⟨-, hany, -, -, -, hsize⟩ := resolve_split hreached "t"
  have hsum : ((Sample.overlapping.map (·.alone .all)).map fun g =>
      (Sample.clients.matching g.compile "t").length).sum = 3 := by decide +kernel
  refine ⟨hreached, hany Sample.overlapping .all, by decide +kernel, ?_⟩
  have hle := (hsize (Sample.overlapping.map (·.alone .all))).2
  simp only [preview_eq_length (hreached.holdsBytes_eq "t"), hsum] at hle
  exact hle

end Store
end Mailshot
