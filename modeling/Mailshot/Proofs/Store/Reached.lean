import Mailshot.Proofs.Store.Lifecycle

/-!
# Stores that can be reached

A store comes about by statements, in any order.  Contacts may also be written column by column, as
texts, past everything that the library knows about their contents, so that there may be contacts
whose columns cannot be read (`Store.Change`).  `Store.Later` is any number of such changes, and
`Store.Reached` says that a store comes about in this way.

* What is stored makes sense at any time (`Reached.sound`), contacts are told apart by their
  identifiers (`Reached.nodup_contactsOf`), none of their columns holds bytes
  (`Reached.holdsBytes_eq`), and a segment stays as it was made (`Later.find?_segments`).
* `SoleSegment` is the case of a campaign that goes to one segment of its tenant: this is the one
  that is read for it (`SoleSegment.linkedRuleGroups`).
-/

set_option autoImplicit false

namespace Mailshot
namespace Store

/-! ## Changes -/

/-- One change to a store. -/
inductive Change (s : Store) : Store → Prop
  /-- A statement is carried out or refused. -/
  | statement (st : Statement) : Change s (st.apply s)
  /-- The columns of a contact are written, whatever they say. -/
  | columns (id : String) (row : ContactRow) (htenant : s.hasTenant row.tenant = true)
      (htexts : row.holdsBytes = false) : Change s { s with contacts := s.contacts.insert id row }

/-- A store to which some changes lead. -/
def Later : Store → Store → Prop := Relation.ReflTransGen Change

/-- A store that comes about by changes. -/
def Reached (s : Store) : Prop := empty.Later s

theorem later_after (s : Store) (sts : List Statement) : s.Later (s.after sts) := by
  induction sts generalizing s with
  | nil => exact .refl
  | cons st sts ih => exact .head (.statement st) (ih _)

/-- A contact is stored as texts. -/
theorem holdsBytes_rowOfContact (c : Contact) : (rowOfContact c).holdsBytes = false := by
  have htext : ∀ t : Option String, ∀ x ∈ t.map Datum.text, x.text?.isNone = false := by
    intro t x hx
    obtain ⟨s, -, rfl⟩ := Option.map_eq_some_iff.1 hx
    rfl
  rw [ContactRow.holdsBytes, List.any_eq_false]
  intro x hx
  rw [Bool.not_eq_true]
  rcases List.mem_append.1 hx with hx | hx
  · obtain ⟨t, ht, htx⟩ := List.mem_filterMap.1 hx
    simp only [rowOfContact, List.mem_cons, List.not_mem_nil, or_false] at ht
    rcases ht with rfl | rfl | rfl | rfl | rfl <;> exact htext _ x htx
  · simp only [rowOfContact, List.mem_cons, List.not_mem_nil, or_false] at hx
    rcases hx with rfl | rfl | rfl <;> rfl

/-- The first of two computations succeeded if both did. -/
theorem ok_of_bind {ε α β : Type} {x : Except ε α} {f : α → Except ε β} {b : β}
    (h : x >>= f = .ok b) : ∃ a, x = .ok a ∧ f a = .ok b := by
  cases x with
  | error e => cases h
  | ok a => exact ⟨a, rfl, h⟩

/-- Inserting a contact column by column adds a row for a tenant that is there. -/
theorem row_of_insertContact {s s' : Store} {cell : String → Cell}
    (h : s.insertContact cell = .ok s') : ∃ row, s.hasTenant row.tenant = true ∧
      s' = { s with contacts := s.contacts.add ((cell "id").value none) row } := by
  rw [insertContact] at h
  obtain ⟨tenant, -, h⟩ := ok_of_bind h
  obtain ⟨attributes, -, h⟩ := ok_of_bind h
  obtain ⟨metrics, -, h⟩ := ok_of_bind h
  obtain ⟨tags, -, h⟩ := ok_of_bind h
  dsimp only at h
  split at h
  · cases h
  · split at h
    · cases h
    · next htenant =>
      cases h
      exact ⟨_, by simpa using htenant, rfl⟩

/-- A segment is only made under an identifier that is free. -/
theorem eq_of_createSegment {s s' : Store} {id createdAt tenant name : String} {rules : RuleGroup}
    (h : s.createSegment id createdAt tenant name rules = .ok s') :
    s.segments.find? id = none ∧
      s' = { s with segments := s.segments.insert id ⟨tenant, name, rules.text, createdAt⟩ } := by
  rw [createSegment] at h
  generalize rules.text = text at h ⊢
  split at h
  · cases h
  · split at h
    · cases h
    · next hfree => exact ⟨Option.not_isSome_iff_eq_none.1 hfree, (Except.ok.inj h).symm⟩

/-- A segment that is made is there as it was made. -/
theorem of_createSegment {s s' : Store} {id createdAt tenant name : String} {rules : RuleGroup}
    (h : s.createSegment id createdAt tenant name rules = .ok s') :
    s.Change s' ∧ s'.segments.find? id = some ⟨tenant, name, rules.text, createdAt⟩ := by
  constructor
  · have hstatement := Change.statement (s := s) (.createSegment id createdAt tenant name rules)
    rwa [Statement.apply, h] at hstatement
  · rw [(eq_of_createSegment h).2]
    exact (Table.find?_insert _ _ _ _).trans (if_pos rfl)

/-! ## What changes keep -/

/-- A segment that was made stays as it was made. -/
theorem Statement.find?_segments_apply {s : Store} {id : String} {row : SegmentRow}
    (h : s.segments.find? id = some row) (st : Statement) :
    (st.apply s).segments.find? id = some row := by
  have hdoes := st.does_apply s
  cases st with
  | createSegment id' createdAt tenant name rules =>
    rw [apply, Store.createSegment]
    split
    · exact h
    · split
      · exact h
      · next hfree =>
        -- it is only made under an identifier that is free
        have hne : id' ≠ id := by
          rintro rfl
          exact hfree (Option.isSome_of_eq_some h)
        rw [orSame, Table.find?_insert, if_neg hne, h]
  | _ =>
    generalize apply s _ = s' at hdoes ⊢
    cases hdoes <;> exact h

namespace Change

variable {s s' : Store}

theorem sound (h : s.Change s') (hs : s.Sound) : s'.Sound := by
  cases h with
  | statement st => exact (st.does_apply s).sound hs
  | columns id row htenant _ =>
    exact ⟨hs.campaigns, hs.contacts.insert (fun _ hr => hr) htenant, hs.segments, hs.links⟩

/-- No contact is stored without an identifier. -/
theorem nameless_eq (h : s.Change s') : s'.contacts.nameless = s.contacts.nameless := by
  cases h with
  | columns => rfl
  | statement st =>
    have hdoes := st.does_apply s
    generalize st.apply s = s' at hdoes
    cases hdoes <;> rfl

/-- Contacts are written as texts. -/
theorem all_texts (h : s.Change s') (hs : s.contacts.All fun r => r.holdsBytes = false) :
    s'.contacts.All fun r => r.holdsBytes = false := by
  cases h with
  | columns _ _ _ htexts => exact hs.insert (fun _ hr => hr) htexts
  | statement st =>
    have hdoes := st.does_apply s
    generalize st.apply s = s' at hdoes ⊢
    cases hdoes with
    | contact c => exact hs.insert (fun _ hr => hr) (holdsBytes_rowOfContact c)
    | _ => exact hs

/-- A segment that was made stays as it was made. -/
theorem find?_segments (h : s.Change s') {id : String} {row : SegmentRow}
    (hfind : s.segments.find? id = some row) : s'.segments.find? id = some row := by
  cases h with
  | columns => exact hfind
  | statement st => exact st.find?_segments_apply hfind

end Change

namespace Later

variable {s s' : Store}

theorem sound (h : s.Later s') (hs : s.Sound) : s'.Sound := by
  induction h with
  | refl => exact hs
  | tail _ hchange ih => exact hchange.sound ih

theorem nameless_eq (h : s.Later s') : s'.contacts.nameless = s.contacts.nameless := by
  induction h with
  | refl => rfl
  | tail _ hchange ih => exact hchange.nameless_eq.trans ih

theorem all_texts (h : s.Later s') (hs : s.contacts.All fun r => r.holdsBytes = false) :
    s'.contacts.All fun r => r.holdsBytes = false := by
  induction h with
  | refl => exact hs
  | tail _ hchange ih => exact hchange.all_texts ih

theorem find?_segments (h : s.Later s') {id : String} {row : SegmentRow}
    (hfind : s.segments.find? id = some row) : s'.segments.find? id = some row := by
  induction h with
  | refl => exact hfind
  | tail _ hchange ih => exact hchange.find?_segments ih

end Later

/-! ## Contacts of a tenant -/

section Search

variable {s : Store} {tenant : String} {p : Predicate}

/-- A predicate that means nobody is not searched for. -/
theorem search_of_isNever (h : p.isNever = true) :
    Connection.contactSource.matching p tenant (.ofStore s) = (.ok [], .ofStore s) ∧
      Connection.contactSource.count p tenant (.ofStore s) = (.ok 0, .ofStore s) := by
  simp only [Connection.contactSource, if_pos h]
  exact ⟨rfl, rfl⟩

/-- For any other the rows of the tenant are read. -/
theorem search_of_not_isNever (s : Store) (tenant : String) (h : p.isNever = false) :
    Connection.contactSource.matching p tenant (.ofStore s) =
        ((s.answerOn tenant (s.matching p tenant)).mapError .store, .ofStore s) ∧
      Connection.contactSource.count p tenant (.ofStore s) =
        ((s.answerOn tenant (s.countMatching p tenant)).mapError .store, .ofStore s) := by
  simp only [Connection.contactSource, h, Bool.false_eq_true, if_false]
  exact ⟨rfl, rfl⟩

/-- If none of them holds bytes then what the predicate means is found. -/
theorem search_of_texts (h : s.holdsBytes tenant = false) :
    Connection.contactSource.matching p tenant (.ofStore s) =
        (.ok (s.matching p tenant), .ofStore s) ∧
      Connection.contactSource.count p tenant (.ofStore s) =
        (.ok (s.countMatching p tenant), .ofStore s) := by
  cases hp : p.isNever with
  | true =>
    rw [matching, countMatching, if_pos hp, if_pos hp]
    exact search_of_isNever hp
  | false =>
    obtain ⟨hmatching, hcount⟩ := search_of_not_isNever s tenant hp
    rw [hmatching, hcount, answerOn, answerOn, h]
    exact ⟨rfl, rfl⟩

/-- Otherwise there is no answer. -/
theorem search_of_bytes (h : s.holdsBytes tenant = true) (hp : p.isNever = false) :
    Connection.contactSource.matching p tenant (.ofStore s) =
        (.error (.store .notText), .ofStore s) ∧
      Connection.contactSource.count p tenant (.ofStore s) =
        (.error (.store .notText), .ofStore s) := by
  obtain ⟨hmatching, hcount⟩ := search_of_not_isNever s tenant hp
  rw [hmatching, hcount, answerOn, answerOn, h]
  exact ⟨rfl, rfl⟩

end Search

/-- A row that can be read gives the contact with its identifier and of its tenant. -/
theorem of_contactOfRow? {id : String} {r : ContactRow} {c : Contact}
    (h : contactOfRow? id r = some c) : c.id = id ∧ c.tenant = r.tenant := by
  simp only [contactOfRow?, Option.bind_eq_bind, Option.bind_eq_some_iff] at h
  obtain ⟨_, -, _, -, _, -, _, -, _, -, _, -, _, -, _, -, h⟩ := h
  cases h
  exact ⟨rfl, rfl⟩

theorem tenant_of_mem_contactsOf {s : Store} {tenant : String} {c : Contact}
    (h : c ∈ s.contactsOf tenant) : c.tenant = tenant := by
  obtain ⟨⟨id, r⟩, -, he⟩ := List.mem_filterMap.1 h
  dsimp only at he
  split at he
  · next htenant => rw [(of_contactOfRow? he).2, htenant]
  · cases he

/-- Contacts that all have an identifier are told apart by it. -/
theorem nodup_contactsOf {s : Store} (h : s.contacts.nameless = []) (tenant : String) :
    ((s.contactsOf tenant).map (·.id)).Nodup := by
  rw [contactsOf, Table.entries, h, List.map_nil, List.nil_append, List.Nodup, List.pairwise_map]
  refine s.contacts.named.ascending.filterMap _ fun e e' hlt c hc c' hc' heq => ?_
  dsimp only at hc hc'
  split at hc
  · split at hc'
    · rw [(of_contactOfRow? hc).1, (of_contactOfRow? hc').1] at heq
      exact absurd heq (Std.ne_of_lt hlt)
    · cases hc'
  · cases hc

namespace Reached

variable {s : Store}

theorem sound (h : s.Reached) : s.Sound := Later.sound h sound_empty

/-- No column of a contact holds bytes. -/
theorem holdsBytes_eq (h : s.Reached) (tenant : String) : s.holdsBytes tenant = false := by
  have hall := Later.all_texts h (Table.all_empty _)
  rw [Store.holdsBytes, List.any_eq_false]
  intro e he
  simp [hall.of_mem_entries he]

theorem nodup_contactsOf (h : s.Reached) (tenant : String) :
    ((s.contactsOf tenant).map (·.id)).Nodup :=
  Store.nodup_contactsOf (Later.nameless_eq h) tenant

end Reached

/-- The tenant of a campaign is there. -/
theorem Sound.exists_tenant {s : Store} (hs : s.Sound) {id : String} {campaign : Campaign}
    (h : s.load id = .ok campaign) : ∃ owner, s.tenant campaign.tenant = .ok owner := by
  obtain ⟨r, hfind, -, -, htenant, -⟩ := row_of_load h
  obtain ⟨title, htitle⟩ := Option.isSome_iff_exists.1 (hs.campaigns.of_find? hfind).2
  exact ⟨⟨campaign.tenant, title⟩, by rw [tenant, htenant, htitle]⟩

/-! ## One segment -/

/-- A segment is the only one of a tenant that a campaign goes to. -/
def SoleSegment (s : Store) (campaign tenant segment : String) : Prop :=
  (campaign, segment) ∈ s.links ∧
    ∀ other row, (campaign, other) ∈ s.links → s.segments.find? other = some row →
      row.tenant = tenant → other = segment

/-- What is read for the campaign is the rule group of this segment. -/
theorem SoleSegment.linkedRuleGroups {s : Store} {id segment : String} {campaign : Campaign}
    {row : SegmentRow} (h : s.SoleSegment id campaign.tenant segment)
    (hload : s.load id = .ok campaign) (hfind : s.segments.find? segment = some row)
    (htenant : row.tenant = campaign.tenant) :
    s.linkedRuleGroups id = [RuleGroup.ofTextOrEmpty row.rules] := by
  obtain ⟨r, hr, -, -, hcampaign, -⟩ := row_of_load hload
  have hsegments : (s.segments.named.entries.filter fun e =>
      decide ((id, e.1) ∈ s.links) && decide (e.2.tenant = r.tenant)) = [(segment, row)] := by
    have hnodup : s.segments.named.entries.Nodup :=
      s.segments.named.ascending.imp fun hlt heq => Std.ne_of_lt hlt (congrArg Prod.fst heq)
    refine List.Perm.eq_singleton
      ((List.perm_ext_iff_of_nodup (hnodup.filter _) (List.pairwise_singleton _ _)).2 fun e => ?_)
    rw [List.mem_filter, List.mem_singleton, Bool.and_eq_true, decide_eq_true_iff,
      decide_eq_true_iff]
    have hmem : ∀ q r, (q, r) ∈ s.segments.named.entries ↔ s.segments.find? q = some r :=
      fun q r => (s.segments.named.find?_eq_some_iff q r).symm
    constructor
    · rintro ⟨he, hlink, howned⟩
      have hid := h.2 e.1 e.2 hlink ((hmem _ _).1 he) (howned.trans hcampaign.symm)
      have hrow := (hmem _ _).1 he
      rw [hid, hfind] at hrow
      exact Prod.ext hid (Option.some.inj hrow).symm
    · rintro rfl
      exact ⟨(hmem _ _).2 hfind, h.1, htenant.trans hcampaign⟩
  rw [Store.linkedRuleGroups, linkedSegments, hr]
  simp only [hsegments, List.mergeSort_singleton, List.map_singleton]

end Store
end Mailshot
