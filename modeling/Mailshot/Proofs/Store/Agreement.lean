import Mailshot.Proofs.Store.Lifecycle

/-!
# What a campaign sees of the store

A campaign has to do with the rows of its own tenant only.  `Store.AgreeOn` relates two stores that
agree on these, and on the campaign itself; everything of other tenants may differ, and so may links
that lead from the campaign to their segments.

The time that is noted when a campaign is changed may differ as well: nobody reads it.

* All that is read on behalf of the campaign is the same in both (`AgreeOn.load_eq` and the like);
  all that is changed leaves them in agreement.
* `Store.Touched` is what a dispatch of the campaign may leave behind: where the campaign stands,
  whether it was asked to stop, the time that is noted for that, and events.
-/

set_option autoImplicit false

namespace Mailshot

namespace Table

variable {ρ : Type}

/-- The rows of a table that have a property. -/
def rowsWhere (p : ρ → Bool) (t : Table ρ) : List (Option String × ρ) := t.rows.filter (p ·.2)

/-- What is read from a table is known from its rows. -/
theorem entries_eq (t : Table ρ) : t.entries = t.rows.map fun e => (e.1.getD "", e.2) := by
  simp [entries, rows, Function.comp_def]

/-- So is what is kept under an identifier. -/
theorem named_entries_eq (t : Table ρ) :
    t.named.entries = t.rows.filterMap fun e => e.1.map (·, e.2) := by
  have hnone : ∀ l : List ρ,
      (l.map fun r => ((none : Option String), r)).filterMap (fun e => e.1.map (·, e.2)) = [] :=
    fun l => List.filterMap_eq_nil_iff.2 fun e he => by
      obtain ⟨r, -, rfl⟩ := List.mem_map.1 he
      rfl
  have hsome : ∀ l : List (String × ρ),
      (l.map fun e => (some e.1, e.2)).filterMap (fun e => e.1.map (·, e.2)) = l := by
    intro l
    rw [List.filterMap_map]
    exact List.filterMap_some
  rw [rows, List.filterMap_append, hnone, hsome, List.nil_append]

/-- What is read from the rows that have a property is known from these rows. -/
theorem filter_entries_eq (p : ρ → Bool) (t : Table ρ) :
    t.entries.filter (p ·.2) = (t.rowsWhere p).map fun e => (e.1.getD "", e.2) := by
  rw [entries_eq, rowsWhere, List.filter_map]
  rfl

theorem filter_named_entries_eq (p : ρ → Bool) (t : Table ρ) :
    t.named.entries.filter (p ·.2) =
      (t.rowsWhere p).filterMap fun e => e.1.map (·, e.2) := by
  rw [named_entries_eq, rowsWhere, List.filter_filterMap, List.filterMap_filter]
  congr 1
  funext e
  obtain ⟨id, r⟩ := e
  cases id <;> simp [Option.filter]

end Table

/-- A campaign without the time at which it was changed. -/
def CampaignRow.timeless (r : CampaignRow) : CampaignRow := { r with updatedAt := "" }

/-- Only that time is lost. -/
theorem CampaignRow.eq_of_timeless_eq {r r' : CampaignRow} (h : r'.timeless = r.timeless) :
    r' = { r with updatedAt := r'.updatedAt } := by
  have hback : ({ r'.timeless with updatedAt := r'.updatedAt } : CampaignRow) =
      { r.timeless with updatedAt := r'.updatedAt } := by rw [h]
  exact hback

namespace Store

/-- Two stores agree on a tenant and on a campaign of that tenant. -/
structure AgreeOn (tenant id : String) (s s' : Store) : Prop where
  /-- The tenant has the same row in both. -/
  tenants : s'.tenants.find? tenant = s.tenants.find? tenant
  /-- It has the same contacts. -/
  contacts : s'.contacts.rowsWhere (·.tenant = tenant) = s.contacts.rowsWhere (·.tenant = tenant)
  /-- It has the same segments. -/
  segments : s'.segments.rowsWhere (·.tenant = tenant) = s.segments.rowsWhere (·.tenant = tenant)
  /-- The campaign has the same row, but for the time at which it was changed. -/
  campaigns : (s'.campaigns.find? id).map CampaignRow.timeless =
    (s.campaigns.find? id).map CampaignRow.timeless
  /-- It belongs to the tenant. -/
  owned : ∀ r, s.campaigns.find? id = some r → r.tenant = tenant
  /-- It goes to the same segments of the tenant. -/
  links : ∀ segment row, s.segments.find? segment = some row → row.tenant = tenant →
    ((id, segment) ∈ s'.links ↔ (id, segment) ∈ s.links)

namespace AgreeOn

variable {tenant id : String} {s s' : Store}

/-- A store agrees with itself. -/
theorem refl (howned : ∀ r, s.campaigns.find? id = some r → r.tenant = tenant) :
    AgreeOn tenant id s s :=
  ⟨rfl, rfl, rfl, rfl, howned, fun _ _ _ _ => Iff.rfl⟩

theorem find?_eq_none (h : AgreeOn tenant id s s') (hfind : s.campaigns.find? id = none) :
    s'.campaigns.find? id = none := by
  have hsame := h.campaigns
  rwa [hfind, Option.map_none, Option.map_eq_none_iff] at hsame

theorem find?_eq_some (h : AgreeOn tenant id s s') {r : CampaignRow}
    (hfind : s.campaigns.find? id = some r) :
    ∃ time, s'.campaigns.find? id = some { r with updatedAt := time } := by
  have hsame := h.campaigns
  rw [hfind, Option.map_some, Option.map_eq_some_iff] at hsame
  obtain ⟨r', hfind', htimeless⟩ := hsame
  exact ⟨r'.updatedAt, hfind'.trans (congrArg some (CampaignRow.eq_of_timeless_eq htimeless))⟩

/-- It belongs to the tenant in the other store as well. -/
theorem owned_right (h : AgreeOn tenant id s s') {r : CampaignRow}
    (hfind' : s'.campaigns.find? id = some r) : r.tenant = tenant := by
  cases hfind : s.campaigns.find? id with
  | none =>
    rw [h.find?_eq_none hfind] at hfind'
    cases hfind'
  | some r' =>
    obtain ⟨time, hsame⟩ := h.find?_eq_some hfind
    rw [hsame] at hfind'
    cases hfind'
    exact h.owned r' hfind

/-! ## What is read -/

/-- The time at which a campaign was changed is not looked at when it is read. -/
theorem load_eq (h : AgreeOn tenant id s s') : s'.load id = s.load id := by
  cases hfind : s.campaigns.find? id with
  | none => rw [load, load, hfind, h.find?_eq_none hfind]
  | some r =>
    obtain ⟨time, hfind'⟩ := h.find?_eq_some hfind
    rw [load, load, hfind, hfind']
    rfl

/-- A campaign that is read is one of the tenant. -/
theorem tenant_of_load (h : AgreeOn tenant id s s') {campaign : Campaign}
    (hload : s.load id = .ok campaign) : campaign.tenant = tenant := by
  obtain ⟨r, hfind, -, -, htenant, -⟩ := row_of_load hload
  exact htenant.trans (h.owned r hfind)

theorem cancelRequested_eq (h : AgreeOn tenant id s s') :
    s'.cancelRequested id = s.cancelRequested id := by
  cases hfind : s.campaigns.find? id with
  | none =>
    rw [Store.cancelRequested, Store.cancelRequested, hfind, h.find?_eq_none hfind]
  | some r =>
    obtain ⟨time, hfind'⟩ := h.find?_eq_some hfind
    rw [Store.cancelRequested, Store.cancelRequested, hfind, hfind']

theorem tenant_eq (h : AgreeOn tenant id s s') : s'.tenant tenant = s.tenant tenant := by
  rw [Store.tenant, Store.tenant, h.tenants]

theorem filter_contacts_eq (h : AgreeOn tenant id s s') :
    s'.contacts.entries.filter (·.2.tenant = tenant) =
      s.contacts.entries.filter (·.2.tenant = tenant) := by
  rw [Table.filter_entries_eq (fun r : ContactRow => decide (r.tenant = tenant)),
    Table.filter_entries_eq (fun r : ContactRow => decide (r.tenant = tenant)), h.contacts]

/-- Only the contacts of the tenant are looked at when its contacts are read. -/
theorem contactsOf_eq (h : AgreeOn tenant id s s') :
    s'.contactsOf tenant = s.contactsOf tenant := by
  have hreads : ∀ s : Store, s.contactsOf tenant =
      (s.contacts.entries.filter (·.2.tenant = tenant)).filterMap
        fun e => contactOfRow? e.1 e.2 := by
    intro s
    rw [contactsOf, List.filterMap_filter]
    congr 1
    funext e
    by_cases he : e.2.tenant = tenant <;> simp [he]
  rw [hreads, hreads, h.filter_contacts_eq]

/-- So they are when it is asked whether there are bytes. -/
theorem holdsBytes_eq (h : AgreeOn tenant id s s') :
    s'.holdsBytes tenant = s.holdsBytes tenant := by
  have hreads : ∀ s : Store, s.holdsBytes tenant =
      (s.contacts.entries.filter (·.2.tenant = tenant)).any fun e => e.2.holdsBytes :=
    fun s => List.any_filter.symm
  rw [hreads, hreads, h.filter_contacts_eq]

/-- What is found for a predicate is the same, or nothing is found because there are bytes. -/
theorem matching_eq (h : AgreeOn tenant id s s') (p : Predicate) :
    s'.answerOn tenant (s'.matching p tenant) = s.answerOn tenant (s.matching p tenant) := by
  rw [answerOn, answerOn, h.holdsBytes_eq, matching, matching, h.contactsOf_eq]

/-- The segments of a campaign are looked for among those of its tenant. -/
theorem linkedSegments_eq (h : AgreeOn tenant id s s') :
    s'.linkedSegments id = s.linkedSegments id := by
  cases hfind : s.campaigns.find? id with
  | none => rw [linkedSegments, linkedSegments, hfind, h.find?_eq_none hfind]
  | some c =>
    obtain ⟨time, hfind'⟩ := h.find?_eq_some hfind
    have howned : c.tenant = tenant := h.owned c hfind
    have hnamed : s'.segments.named.entries.filter (·.2.tenant = tenant) =
        s.segments.named.entries.filter (·.2.tenant = tenant) := by
      have hrows := congrArg (List.filterMap fun e => e.1.map (·, e.2)) h.segments
      rwa [← Table.filter_named_entries_eq, ← Table.filter_named_entries_eq] at hrows
    have hsplit : ∀ s : Store, (s.segments.named.entries.filter fun e =>
        decide ((id, e.1) ∈ s.links) && decide (e.2.tenant = c.tenant)) =
          (s.segments.named.entries.filter (·.2.tenant = tenant)).filter
            fun e => decide ((id, e.1) ∈ s.links) := by
      intro s
      rw [List.filter_filter, howned]
    rw [linkedSegments, linkedSegments, hfind, hfind']
    dsimp only
    rw [hsplit, hsplit, hnamed]
    congr 1
    refine List.filter_congr fun e he => ?_
    obtain ⟨hmem, htenant⟩ := List.mem_filter.1 he
    have hsegment : s.segments.find? e.1 = some e.2 :=
      (s.segments.named.find?_eq_some_iff e.1 e.2).2 hmem
    exact decide_eq_decide.2 (h.links e.1 e.2 hsegment (of_decide_eq_true htenant))

theorem linkedRuleGroups_eq (h : AgreeOn tenant id s s') :
    s'.linkedRuleGroups id = s.linkedRuleGroups id := by
  rw [linkedRuleGroups, linkedRuleGroups, h.linkedSegments_eq]

/-! ## What is changed -/

/-- An event that is appended to one of the stores leaves them in agreement. -/
theorem append_left (h : AgreeOn tenant id s s') (e : SendEvent) :
    AgreeOn tenant id (s.append e) s' :=
  ⟨h.tenants, h.contacts, h.segments, h.campaigns, h.owned, h.links⟩

theorem append_right (h : AgreeOn tenant id s s') (e : SendEvent) :
    AgreeOn tenant id s (s'.append e) :=
  ⟨h.tenants, h.contacts, h.segments, h.campaigns, h.owned, h.links⟩

/-- A change to the row of the campaign is made in both stores or in none, and leaves them in
agreement, whatever time it is. -/
theorem setWhere (h : AgreeOn tenant id s s') (statuses : List Status)
    {f f' : CampaignRow → CampaignRow} (hf : ∀ r, (f r).tenant = r.tenant)
    (hsame : ∀ r time, (f' { r with updatedAt := time }).timeless = (f r).timeless) :
    (s'.setWhere id statuses f').1 = (s.setWhere id statuses f).1 ∧
      AgreeOn tenant id (s.setWhere id statuses f).2 (s'.setWhere id statuses f').2 := by
  cases hfind : s.campaigns.find? id with
  | none =>
    rw [Store.setWhere, Store.setWhere, hfind, h.find?_eq_none hfind]
    exact ⟨rfl, h⟩
  | some r =>
    obtain ⟨time, hfind'⟩ := h.find?_eq_some hfind
    rw [Store.setWhere, Store.setWhere, hfind, hfind']
    dsimp only
    split
    · refine ⟨rfl, h.tenants, h.contacts, h.segments, ?_, ?_, h.links⟩
      · rw [Table.find?_insert, Table.find?_insert, if_pos rfl, if_pos rfl]
        exact congrArg some (hsame r time)
      · intro r' hr'
        rw [Table.find?_insert, if_pos rfl] at hr'
        cases hr'
        rw [hf]
        exact h.owned r hfind
    · exact ⟨rfl, h⟩

theorem claim (h : AgreeOn tenant id s s') (now now' : String) :
    (s'.claim id now').1 = (s.claim id now).1 ∧
      AgreeOn tenant id (s.claim id now).2 (s'.claim id now').2 :=
  h.setWhere _ (fun _ => rfl) fun _ _ => rfl

theorem requestCancel (h : AgreeOn tenant id s s') (now now' : String) :
    (s'.requestCancel id now').1 = (s.requestCancel id now).1 ∧
      AgreeOn tenant id (s.requestCancel id now).2 (s'.requestCancel id now').2 := by
  have hmark : (s'.markCancelled id now').1 = (s.markCancelled id now).1 ∧
      AgreeOn tenant id (s.markCancelled id now).2 (s'.markCancelled id now').2 :=
    h.setWhere _ (fun _ => rfl) fun _ _ => rfl
  rw [requestCancel_eq, requestCancel_eq, hmark.1]
  split
  · exact ⟨rfl, hmark.2⟩
  · refine ⟨?_, hmark.2⟩
    rw [explainCancel, explainCancel, hmark.2.load_eq]

theorem complete (h : AgreeOn tenant id s s') (now now' : String) :
    (s'.complete id now').1 = (s.complete id now).1 ∧
      AgreeOn tenant id (s.complete id now).2 (s'.complete id now').2 := by
  have hmark : (s'.markCompleted id now').1 = (s.markCompleted id now).1 ∧
      AgreeOn tenant id (s.markCompleted id now).2 (s'.markCompleted id now').2 :=
    h.setWhere _ (fun _ => rfl) fun _ _ => rfl
  rw [complete_eq, complete_eq, hmark.1]
  split
  · exact ⟨rfl, hmark.2⟩
  · refine ⟨?_, hmark.2⟩
    rw [explainComplete, explainComplete, hmark.2.load_eq]

end AgreeOn

/-! ## What a dispatch leaves behind -/

/-- Nothing is changed but where a campaign stands, the time that is noted for it, and whether it
was asked to stop if that may be, and these events are appended. -/
structure Touched (id : String) (mayStop : Prop) (events : List SendEvent) (s s' : Store) :
    Prop where
  tenants : s'.tenants = s.tenants
  contacts : s'.contacts = s.contacts
  segments : s'.segments = s.segments
  links : s'.links = s.links
  /-- Campaigns that have no identifier. -/
  nameless : s'.campaigns.nameless = s.campaigns.nameless
  /-- Campaigns with another identifier. -/
  others : ∀ q, q ≠ id → s'.campaigns.find? q = s.campaigns.find? q
  /-- The campaign, if there is none. -/
  missing : s.campaigns.find? id = none → s'.campaigns.find? id = none
  /-- The campaign, if there is one. -/
  campaign : ∀ r, s.campaigns.find? id = some r → ∃ r', s'.campaigns.find? id = some r' ∧
    r' = { r with
      status := r'.status, cancelRequested := r'.cancelRequested, updatedAt := r'.updatedAt } ∧
    (¬ mayStop → r'.cancelRequested = r.cancelRequested)
  /-- The log. -/
  events : s'.events = s.events ++ events.map rowOfEvent

namespace Touched

variable {id : String} {mayStop : Prop} {events events' : List SendEvent} {s s' s'' : Store}

theorem refl (s : Store) : Touched id mayStop [] s s where
  tenants := rfl
  contacts := rfl
  segments := rfl
  links := rfl
  nameless := rfl
  others _ _ := rfl
  missing h := h
  campaign r h := ⟨r, h, rfl, fun _ => rfl⟩
  events := (List.append_nil _).symm

theorem mono {mayStop' : Prop} (h : Touched id mayStop events s s') (hmono : mayStop → mayStop') :
    Touched id mayStop' events s s' := by
  refine { h with campaign := fun r hfind => ?_ }
  obtain ⟨r', hfind', hwritten, hflag⟩ := h.campaign r hfind
  exact ⟨r', hfind', hwritten, fun hnot => hflag fun hstop => hnot (hmono hstop)⟩

theorem trans (h : Touched id mayStop events s s') (h' : Touched id mayStop events' s' s'') :
    Touched id mayStop (events ++ events') s s'' where
  tenants := h'.tenants.trans h.tenants
  contacts := h'.contacts.trans h.contacts
  segments := h'.segments.trans h.segments
  links := h'.links.trans h.links
  nameless := h'.nameless.trans h.nameless
  others q hq := (h'.others q hq).trans (h.others q hq)
  missing hnone := h'.missing (h.missing hnone)
  campaign r hfind := by
    obtain ⟨r', hfind', hwritten, hflag⟩ := h.campaign r hfind
    obtain ⟨r'', hfind'', hwritten', hflag'⟩ := h'.campaign r' hfind'
    refine ⟨r'', hfind'', ?_, fun hstop => (hflag' hstop).trans (hflag hstop)⟩
    rw [hwritten', hwritten]
  events := by rw [h'.events, h.events, List.map_append, List.append_assoc]

/-- An event is appended. -/
theorem append (s : Store) (e : SendEvent) : Touched id mayStop [e] s (s.append e) :=
  { refl s with events := rfl }

/-- The row of the campaign is changed. -/
theorem setWhere (s : Store) (statuses : List Status) {f : CampaignRow → CampaignRow}
    (hf : ∀ r, f r = { r with
      status := (f r).status, cancelRequested := (f r).cancelRequested
      updatedAt := (f r).updatedAt })
    (hflag : ¬ mayStop → ∀ r, (f r).cancelRequested = r.cancelRequested) :
    Touched id mayStop [] s (s.setWhere id statuses f).2 := by
  rcases s.setWhere_cases id statuses f with hsame | ⟨r, _, -, hfind, -, hset⟩
  · rw [hsame]
    exact refl s
  · rw [hset]
    refine ⟨rfl, rfl, rfl, rfl, rfl, fun q hq => ?_, fun hnone => ?_, fun r' hfind' => ?_,
      (List.append_nil _).symm⟩
    · rw [Table.find?_insert, if_neg (Ne.symm hq)]
    · rw [hnone] at hfind
      cases hfind
    · rw [hfind] at hfind'
      cases hfind'
      exact ⟨f r, by rw [Table.find?_insert, if_pos rfl], hf r, fun hstop => hflag hstop r⟩

theorem claim (s : Store) (now : String) : Touched id mayStop [] s (s.claim id now).2 :=
  setWhere s _ (fun _ => rfl) fun _ _ => rfl

theorem markCancelled (hstop : mayStop) (s : Store) (now : String) :
    Touched id mayStop [] s (s.markCancelled id now).2 :=
  setWhere s _ (fun _ => rfl) fun hnot => absurd hstop hnot

theorem complete (s : Store) (now : String) :
    Touched id mayStop [] s (s.complete id now).2 := by
  have hmark : Touched id mayStop [] s (s.markCompleted id now).2 :=
    setWhere s _ (fun _ => rfl) fun _ _ => rfl
  rw [complete_eq]
  split <;> exact hmark

end Touched
end Store
end Mailshot
