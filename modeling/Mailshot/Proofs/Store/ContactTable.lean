import Mailshot.Proofs.Audience.Problems
import Mailshot.Proofs.Json.RoundTrip
import Mailshot.Proofs.Store.Reached
import Mailshot.Proofs.Text.ByteOrder

/-!
# The table of contacts

A contact goes into the table as texts, its free fields in JSON, and comes out of it as it was
(`contactOfRow?_rowOfContact`): an object of texts or of numbers is read back entry by entry, and
the labels are a set whichever way they are listed.  Numbers have to be finite and to read back for
themselves (`Contact.ReadsBack`).

`Store.Written` is the history of a table: the writes that got through, one after the other, be it
contacts that were stored or rows that others put there.  What stands under an identifier is the row
of the last write under it (`Written.find?_contacts`), so a search finds exactly the contacts that
were stored last under their identifiers, and is not disturbed by rows of which the JSON cannot be
read (`search_finds_last_written`).

It is disturbed by a row that holds bytes.  As long as such a row stands in the table, no contact of
its tenant is found or counted.
-/

set_option autoImplicit false

namespace Mailshot

/-! ## Dictionaries in the order of their entries -/

namespace Dictionary

variable {α : Type}

/-- An entry behind all others is put at the end. -/
theorem insertEntry_of_forall_lt {k : String} {l : List (String × α)} (v : α)
    (h : ∀ e ∈ l, e.1 < k) : insertEntry k v l = l ++ [(k, v)] := by
  induction l with
  | nil => rfl
  | cons e l ih =>
    obtain ⟨he, hl⟩ := List.forall_mem_cons.1 h
    rw [insertEntry, if_neg (String.lt_asymm he), if_neg (Std.ne_of_lt he).symm, ih hl]
    rfl

theorem entries_foldl_insert {d : Dictionary α} {l : List (String × α)}
    (h : (d.entries ++ l).Pairwise (fun a b => a.1 < b.1)) :
    (l.foldl (fun d e => d.insert e.1 e.2) d).entries = d.entries ++ l := by
  induction l generalizing d with
  | nil => exact (List.append_nil _).symm
  | cons e l ih =>
    have hinsert : (d.insert e.1 e.2).entries = d.entries ++ [e] :=
      insertEntry_of_forall_lt e.2 fun e' he' =>
        (List.pairwise_append.1 h).2.2 e' he' e List.mem_cons_self
    rw [List.foldl_cons, ih (by rwa [hinsert, List.append_assoc]), hinsert, List.append_assoc]
    rfl

/-- A dictionary is that of its entries. -/
theorem ofList_entries (d : Dictionary α) : ofList d.entries = d :=
  ext_entries (entries_foldl_insert (d := empty) d.ascending)

end Dictionary

/-! ## Collections as JSON -/

namespace Json

variable {α : Type} {read : Decoder α} {f : α → Json} {room : Nat}

/-- A list is read back item by item. -/
theorem decodeList_map {l : List α} (h : ∀ a ∈ l, read room (f a).toSyntax = some a) :
    decodeList read (room + 1) (array (l.map f)).toSyntax = some l := by
  show (itemsToSyntax (l.map f)).mapM (read room) = some l
  induction l with
  | nil => rfl
  | cons a l ih =>
    obtain ⟨ha, hl⟩ := List.forall_mem_cons.1 h
    rw [List.map_cons, itemsToSyntax, List.mapM_cons, ha, ih hl]
    rfl

/-- A dictionary is read back entry by entry. -/
theorem decodeDictionary_mapValues {d : Dictionary α}
    (h : ∀ e ∈ d.entries, read room (f e.2).toSyntax = some e.2) :
    decodeDictionary read (room + 1) (object (d.mapValues fun _ a => f a).entries).toSyntax =
      some d := by
  have hmembers : ∀ l : List (String × α), (∀ e ∈ l, read room (f e.2).toSyntax = some e.2) →
      (membersToSyntax (l.map fun e => (e.1, f e.2))).mapM (decodeDictionary.member? read room) =
        some l := by
    intro l hl
    induction l with
    | nil => rfl
    | cons e l ih =>
      obtain ⟨he, hl⟩ := List.forall_mem_cons.1 hl
      have hmember : decodeDictionary.member? read room (some e.1, (f e.2).toSyntax) = some e := by
        rw [decodeDictionary.member?, Option.bind_some, he]
        rfl
      rw [List.map_cons, membersToSyntax, List.mapM_cons, hmember, ih hl]
      rfl
  have hentries := hmembers d.entries h
  rw [Dictionary.mapValues, toSyntax, decodeDictionary, hentries, Option.map_some,
    Dictionary.ofList_entries]

end Json

/-! ## A contact as a row -/

namespace Contact

/-- The numbers of a contact are finite, and the text of each is read as the number again. -/
def ReadsBack (c : Contact) : Prop :=
  ∀ e ∈ c.metrics.entries, ∃ x, e.2 = .finite x ∧ (JsonNumber.real x).ReadsBack

/-- Labels make up the same set again. -/
theorem tagSet_keys (tags : Dictionary Unit) : tagSet tags.keys = tags := by
  rw [tagSet, Dictionary.keys, List.map_map]
  exact (congrArg Dictionary.ofList (List.map_id _)).trans tags.ofList_entries

theorem numbers_attributesToJson (attributes : Dictionary String) :
    (attributesToJson attributes).numbers = [] := by
  show Json.membersNumbers (attributes.entries.map fun e => (e.1, Json.string e.2)) = []
  induction attributes.entries with
  | nil => rfl
  | cons e l ih => exact ih

theorem numbers_tagsToJson (tags : Dictionary Unit) : (tagsToJson tags).numbers = [] := by
  rw [tagsToJson, Json.numbers]
  induction tags.keys with
  | nil => rfl
  | cons t l ih => exact ih

theorem readsBack_of_mem_metricsToJson {c : Contact} (h : c.ReadsBack) :
    ∀ n ∈ (metricsToJson c.metrics).numbers, n.ReadsBack := by
  show ∀ n ∈ Json.membersNumbers (c.metrics.entries.map fun e => (e.1, metricToJson e.2)), _
  rw [ReadsBack] at h
  generalize c.metrics.entries = l at h ⊢
  induction l with
  | nil => exact fun _ hn => absurd hn List.not_mem_nil
  | cons e l ih =>
    obtain ⟨⟨x, hx, hback⟩, hl⟩ := List.forall_mem_cons.1 h
    intro n hn
    rw [List.map_cons, Json.membersNumbers, hx] at hn
    rcases List.mem_cons.1 hn with rfl | hn
    · exact hback
    · exact ih hl n hn

end Contact

/-- A row of which some column holds bytes or some free field cannot be read. -/
def ContactRow.IsUnreadable (r : ContactRow) : Prop :=
  r.holdsBytes = true ∨
    r.attributes.text?.bind (Json.decodeDocument? Contact.decodeAttributes) = none ∨
    r.metrics.text?.bind (Json.decodeDocument? Contact.decodeMetrics) = none ∨
    r.tags.text?.bind (Json.decodeDocument? Contact.decodeTags) = none

namespace Store

/-- **A contact is read back from its row as it was.** -/
theorem contactOfRow?_rowOfContact {c : Contact} (h : c.ReadsBack) :
    contactOfRow? c.id (rowOfContact c) = some c := by
  have hattributes : Json.decodeDocument? Contact.decodeAttributes
      (Contact.attributesToJson c.attributes).print = some c.attributes := by
    rw [Json.decodeDocument?, Json.Syntax.ofText?_print
      (by rw [Contact.numbers_attributesToJson]; exact fun _ hn => absurd hn List.not_mem_nil)]
    exact Json.decodeDictionary_mapValues (f := .string) fun _ _ => rfl
  have hmetrics : Json.decodeDocument? Contact.decodeMetrics
      (Contact.metricsToJson c.metrics).print = some c.metrics := by
    rw [Json.decodeDocument?,
      Json.Syntax.ofText?_print (Contact.readsBack_of_mem_metricsToJson h)]
    refine Json.decodeDictionary_mapValues (f := Contact.metricToJson) fun e he => ?_
    obtain ⟨x, hx, -⟩ := h e he
    rw [hx]
    rfl
  have htags : Json.decodeDocument? Contact.decodeTags (Contact.tagsToJson c.tags).print =
      some c.tags := by
    rw [Json.decodeDocument?, Json.Syntax.ofText?_print
      (by rw [Contact.numbers_tagsToJson]; exact fun _ hn => absurd hn List.not_mem_nil)]
    have hlist : Json.decodeList Json.decodeText Json.depthLimit
        (Contact.tagsToJson c.tags).toSyntax = some c.tags.keys :=
      Json.decodeList_map fun _ _ => rfl
    rw [Option.bind_some, Contact.decodeTags, hlist, Option.map_some, Contact.tagSet_keys]
  have hoptional (t : Option String) : Datum.optional? (t.map .text) = some t := by
    cases t <;> rfl
  simp only [contactOfRow?, rowOfContact, hoptional, Datum.text?, Option.bind_some, hattributes,
    hmetrics, htags]
  rfl

/-- What a row with bytes says is not read. -/
theorem holdsBytes_eq_false {id : String} {r : ContactRow} {c : Contact}
    (h : contactOfRow? id r = some c) : r.holdsBytes = false := by
  have hoptional {x : Option Datum} {t : Option String} (hx : Datum.optional? x = some t) :
      ∀ y ∈ x, y.text?.isNone = false := by
    rintro y rfl
    obtain ⟨s, hs, -⟩ := Option.map_eq_some_iff.1 hx
    rw [hs]
    rfl
  have hdecoded {α : Type} {x : Datum} {f : String → Option α} {a : α}
      (hx : x.text?.bind f = some a) : x.text?.isNone = false := by
    obtain ⟨s, hs, -⟩ := Option.bind_eq_some_iff.1 hx
    rw [hs]
    rfl
  obtain ⟨_, h₁, h⟩ := Option.bind_eq_some_iff.1 h
  obtain ⟨_, h₂, h⟩ := Option.bind_eq_some_iff.1 h
  obtain ⟨_, h₃, h⟩ := Option.bind_eq_some_iff.1 h
  obtain ⟨_, h₄, h⟩ := Option.bind_eq_some_iff.1 h
  obtain ⟨_, h₅, h⟩ := Option.bind_eq_some_iff.1 h
  obtain ⟨_, hattributes, h⟩ := Option.bind_eq_some_iff.1 h
  obtain ⟨_, hmetrics, h⟩ := Option.bind_eq_some_iff.1 h
  obtain ⟨_, htags, -⟩ := Option.bind_eq_some_iff.1 h
  rw [ContactRow.holdsBytes, List.any_eq_false]
  intro y hy
  rw [Bool.not_eq_true]
  rcases List.mem_append.1 hy with hy | hy
  · obtain ⟨x, hx, hxy⟩ := List.mem_filterMap.1 hy
    simp only [List.mem_cons, List.not_mem_nil, or_false] at hx
    rcases hx with rfl | rfl | rfl | rfl | rfl
    · exact hoptional h₁ y hxy
    · exact hoptional h₂ y hxy
    · exact hoptional h₃ y hxy
    · exact hoptional h₄ y hxy
    · exact hoptional h₅ y hxy
  · simp only [List.mem_cons, List.not_mem_nil, or_false] at hy
    rcases hy with rfl | rfl | rfl
    · exact hdecoded hattributes
    · exact hdecoded hmetrics
    · exact hdecoded htags

/-- No contact is read from a row that cannot be read. -/
theorem contactOfRow?_eq_none {id : String} {r : ContactRow} (h : r.IsUnreadable) :
    contactOfRow? id r = none := by
  cases hread : contactOfRow? id r with
  | none => rfl
  | some c =>
    have htexts := holdsBytes_eq_false hread
    simp only [contactOfRow?, Option.bind_eq_bind, Option.bind_eq_some_iff] at hread
    obtain ⟨_, -, _, -, _, -, _, -, _, -, _, hattributes, _, hmetrics, _, htags, -⟩ := hread
    rcases h with h | h | h | h
    · cases htexts.symm.trans h
    · cases (Option.bind_eq_some_iff.2 hattributes).symm.trans h
    · cases (Option.bind_eq_some_iff.2 hmetrics).symm.trans h
    · cases (Option.bind_eq_some_iff.2 htags).symm.trans h

/-! ## The history of the table -/

/-- A write to the table of contacts that got through. -/
inductive Write where
  /-- A contact was stored. -/
  | contact (c : Contact)
  /-- Somebody put a row there, under an identifier or under none. -/
  | columns (id : Option String) (row : ContactRow)

/-- The identifier under which something was written. -/
def Write.id? : Write → Option String
  | contact c => some c.id
  | columns id _ => id

/-- The row that was written. -/
def Write.row : Write → ContactRow
  | contact c => rowOfContact c
  | columns _ row => row

/-- The writes to the table of contacts that lead to a store, the oldest first, whatever else was
done to it. -/
inductive Written : List Write → Store → Prop
  /-- Nothing is stored at the beginning. -/
  | empty : Written [] .empty
  /-- A contact is stored. -/
  | contact {ws : List Write} {s s' : Store} (h : Written ws s) {c : Contact}
      (hok : s.upsertContact c = .ok s') : Written (ws ++ [.contact c]) s'
  /-- Somebody puts a row there, or writes it over another one. -/
  | columns {ws : List Write} {s : Store} (h : Written ws s) (id : Option String)
      (row : ContactRow) (htenant : s.hasTenant row.tenant = true) :
      Written (ws ++ [.columns id row]) { s with contacts := s.contacts.add id row }
  /-- Any other statement is carried out or refused. -/
  | other {ws : List Write} {s : Store} (h : Written ws s) (st : Statement)
      (hother : ∀ c, st ≠ .upsertContact c) : Written ws (st.apply s)

/-- Something is the last thing that was written under its identifier, or was written under none. -/
def IsLast (ws : List Write) (w : Write) : Prop :=
  ∃ before since, ws = before ++ w :: since ∧ ∀ w' ∈ since, w'.id? = none ∨ w'.id? ≠ w.id?

/-- A row with bytes, of a tenant, stands in the table. -/
def HoldsBytes (ws : List Write) (tenant : String) : Prop :=
  ∃ id row, IsLast ws (.columns id row) ∧ row.tenant = tenant ∧ row.holdsBytes = true

/-- The last write under an identifier. -/
def lastWrite? (ws : List Write) (id : String) : Option Write :=
  ws.reverse.find? fun w => w.id? = some id

theorem lastWrite?_concat (ws : List Write) (w : Write) (id : String) :
    lastWrite? (ws ++ [w]) id = if w.id? = some id then some w else lastWrite? ws id := by
  rw [lastWrite?, List.reverse_append, List.reverse_singleton, List.singleton_append,
    List.find?_cons]
  by_cases h : w.id? = some id
  · simp [h]
  · simp [h, lastWrite?]

theorem lastWrite?_mem {ws : List Write} {id : String} {w : Write}
    (h : lastWrite? ws id = some w) : w.id? = some id ∧ w ∈ ws := by
  rw [lastWrite?] at h
  exact ⟨of_decide_eq_true (List.find?_some h :),
    List.mem_reverse.1 (List.mem_of_find?_eq_some h)⟩

theorem isLast_iff {ws : List Write} {w : Write} {id : String} (hid : w.id? = some id) :
    IsLast ws w ↔ lastWrite? ws id = some w := by
  rw [lastWrite?, List.find?_eq_some_iff_append, IsLast]
  constructor
  · rintro ⟨before, since, rfl, hsince⟩
    refine ⟨decide_eq_true hid, since.reverse, before.reverse, by simp, fun w' hw' => ?_⟩
    rcases hsince w' (List.mem_reverse.1 hw') with hnone | hne
    · simp [hnone]
    · simpa [hid] using hne
  · rintro ⟨-, since, before, hws, hsince⟩
    refine ⟨before.reverse, since.reverse, ?_, fun w' hw' => .inr ?_⟩
    · rw [← ws.reverse_reverse, hws]
      simp
    · simpa [hid] using hsince w' (List.mem_reverse.1 hw')

/-- Nothing is written over what has no identifier. -/
theorem isLast_iff_mem {ws : List Write} {w : Write} (hid : w.id? = none) :
    IsLast ws w ↔ w ∈ ws := by
  constructor
  · rintro ⟨before, since, rfl, -⟩
    exact List.mem_append_right _ List.mem_cons_self
  · intro hmem
    obtain ⟨before, since, rfl⟩ := List.append_of_mem hmem
    refine ⟨before, since, rfl, fun w' _ => ?_⟩
    rw [hid]
    exact Decidable.em _

namespace Written

variable {ws : List Write} {s : Store}

/-- A contact is stored just if its tenant is there. -/
theorem of_upsertContact {s s' : Store} {c : Contact} (h : s.upsertContact c = .ok s') :
    s' = { s with contacts := s.contacts.insert c.id (rowOfContact c) } := by
  rw [upsertContact] at h
  split at h
  · exact (Except.ok.inj h).symm
  · cases h

/-- Only storing a contact writes to the table of contacts. -/
theorem contacts_apply {st : Statement} (hother : ∀ c, st ≠ .upsertContact c) :
    (st.apply s).contacts = s.contacts := by
  have hdoes := st.does_apply s
  generalize st.apply s = s' at hdoes
  cases hdoes with
  | contact c => exact absurd rfl (hother c)
  | _ => rfl

/-- **Under an identifier there is the row that was last written under it.** -/
theorem find?_contacts (h : Written ws s) (id : String) :
    s.contacts.find? id = (lastWrite? ws id).map Write.row := by
  induction h with
  | empty => rfl
  | @contact ws s s' _ c hok ih =>
    rw [of_upsertContact hok, Table.find?_insert, lastWrite?_concat, ih]
    by_cases hid : c.id = id <;> simp [Write.id?, Write.row, hid]
  | @columns ws s _ id' row _ ih =>
    rw [lastWrite?_concat]
    cases id' with
    | none => exact ih
    | some id' =>
      refine (Table.find?_insert _ _ _ _).trans ?_
      rw [ih]
      by_cases hid : id' = id <;> simp [Write.id?, Write.row, hid]
  | other _ st hother ih => rw [contacts_apply hother, ih]

/-- Rows without an identifier are those that somebody put there. -/
theorem mem_nameless_iff (h : Written ws s) {row : ContactRow} :
    row ∈ s.contacts.nameless ↔ .columns none row ∈ ws := by
  induction h with
  | empty => exact iff_of_false List.not_mem_nil List.not_mem_nil
  | contact _ hok ih =>
    rw [of_upsertContact hok, List.mem_append, List.mem_singleton, ← ih]
    exact (or_iff_left nofun).symm
  | @columns ws s _ id' row' _ ih =>
    rw [List.mem_append, List.mem_singleton, ← ih]
    cases id' with
    | some id' => simp [Table.add, Table.insert]
    | none => simp [Table.add]
  | other _ st hother ih => rwa [contacts_apply hother]

/-- **A row of a tenant holds bytes just if one with bytes was put there** and nothing was written
over it. -/
theorem holdsBytes_iff (h : Written ws s) (tenant : String) :
    s.holdsBytes tenant = true ↔ HoldsBytes ws tenant := by
  rw [Store.holdsBytes, List.any_eq_true]
  constructor
  · rintro ⟨⟨id, row⟩, hmem, hrow⟩
    rw [Bool.and_eq_true, decide_eq_true_iff] at hrow
    rcases List.mem_append.1 hmem with hnameless | hnamed
    · obtain ⟨_, hrow', heq⟩ := List.mem_map.1 hnameless
      cases heq
      exact ⟨none, row, (isLast_iff_mem rfl).2 (h.mem_nameless_iff.1 hrow'), hrow⟩
    · have hfind : s.contacts.find? id = some row := (Dictionary.find?_eq_some_iff _ _ _).2 hnamed
      rw [h.find?_contacts, Option.map_eq_some_iff] at hfind
      obtain ⟨w, hw, rfl⟩ := hfind
      obtain ⟨hunder, -⟩ := lastWrite?_mem hw
      cases w with
      | columns id' row => exact ⟨id', row, (isLast_iff hunder).2 hw, hrow⟩
      | contact c =>
        -- what the library stores is texts
        cases (holdsBytes_rowOfContact c).symm.trans hrow.2
  · rintro ⟨id, row, hlast, htenant, hbytes⟩
    have hrow : (decide (row.tenant = tenant) && row.holdsBytes) = true := by simp [htenant, hbytes]
    cases id with
    | none =>
      have hmem := h.mem_nameless_iff.2 ((isLast_iff_mem rfl).1 hlast)
      exact ⟨("", row), List.mem_append_left _ (List.mem_map_of_mem hmem), hrow⟩
    | some id =>
      have hfind : s.contacts.find? id = some row := by
        rw [h.find?_contacts, (isLast_iff rfl).1 hlast]
        rfl
      exact ⟨(id, row),
        List.mem_append_right _ ((Dictionary.find?_eq_some_iff _ _ _).1 hfind), hrow⟩

/-- Whatever statements are carried out, they make up a history, in which the contacts are written
that they store. -/
theorem after (h : Written ws s) (sts : List Statement) : ∃ ws', Written (ws ++ ws') (s.after sts) ∧
    ∀ w ∈ ws', ∃ c, w = .contact c ∧ .upsertContact c ∈ sts := by
  induction sts generalizing ws s with
  | nil => exact ⟨[], by rwa [List.append_nil], fun _ hw => absurd hw List.not_mem_nil⟩
  | cons st sts ih =>
    have hstep : ∃ ws', Written (ws ++ ws') (st.apply s) ∧
        ∀ w ∈ ws', ∃ c, w = .contact c ∧ st = .upsertContact c := by
      by_cases hother : ∀ c, st ≠ .upsertContact c
      · exact ⟨[], by rw [List.append_nil]; exact h.other st hother,
          fun _ hw => absurd hw List.not_mem_nil⟩
      · obtain ⟨c, hc⟩ := not_forall.1 hother
        obtain rfl := not_not.1 hc
        rw [Statement.apply]
        cases hok : s.upsertContact c with
        | error =>
          exact ⟨[], by rwa [List.append_nil], fun _ hw => absurd hw List.not_mem_nil⟩
        | ok s' => exact ⟨_, h.contact hok, fun w hw => ⟨c, List.mem_singleton.1 hw, rfl⟩⟩
    obtain ⟨ws', hws', hcontacts⟩ := hstep
    obtain ⟨ws'', hws'', hcontacts'⟩ := ih hws'
    refine ⟨ws' ++ ws'', by rwa [List.append_assoc] at hws'', fun w hw => ?_⟩
    rcases List.mem_append.1 hw with hw | hw
    · obtain ⟨c, rfl, rfl⟩ := hcontacts w hw
      exact ⟨c, rfl, List.mem_cons_self⟩
    · obtain ⟨c, rfl, hc⟩ := hcontacts' w hw
      exact ⟨c, rfl, List.mem_cons_of_mem _ hc⟩

/-- A contact that is inserted column by column is a row that somebody puts there. -/
theorem insertContact (h : Written ws s) {s' : Store} {cell : String → Cell}
    (hok : s.insertContact cell = .ok s') :
    ∃ row, Written (ws ++ [.columns ((cell "id").value none) row]) s' := by
  obtain ⟨row, htenant, rfl⟩ := row_of_insertContact hok
  exact ⟨row, h.columns _ row htenant⟩

end Written

/-! ## What a search finds -/

theorem matching_eq_filter (s : Store) (p : Predicate) (tenant : String) :
    s.matching p tenant = (s.contactsOf tenant).filter p.holds := by
  rw [matching]
  split
  · next h => simp [Predicate.holds_eq_false_of_isNever h]
  · rfl

theorem countMatching_eq_length (s : Store) (p : Predicate) (tenant : String) :
    s.countMatching p tenant = (s.matching p tenant).length := by
  rw [countMatching, matching]
  split
  · rfl
  · exact List.countP_eq_length_filter

section Written

variable {ws : List Write} {s : Store}

/-- **The contacts of a tenant are those that were stored last under their identifiers** and belong
to it. -/
theorem mem_contactsOf_iff (h : Written ws s) (hback : ∀ c, .contact c ∈ ws → c.ReadsBack)
    (hforeign : ∀ id row, .columns id row ∈ ws → row.IsUnreadable) {tenant : String} {c : Contact} :
    c ∈ s.contactsOf tenant ↔ IsLast ws (.contact c) ∧ c.tenant = tenant := by
  rw [contactsOf, List.mem_filterMap]
  constructor
  · rintro ⟨⟨id, row⟩, hmem, hread⟩
    dsimp only at hread
    split at hread
    case isFalse => cases hread
    case isTrue htenant =>
    obtain ⟨hid, howner⟩ := of_contactOfRow? hread
    refine ⟨?_, howner.trans htenant⟩
    rcases List.mem_append.1 hmem with hnameless | hnamed
    · obtain ⟨row', hrow', heq⟩ := List.mem_map.1 hnameless
      cases heq
      rw [contactOfRow?_eq_none (hforeign _ _ (h.mem_nameless_iff.1 hrow'))] at hread
      cases hread
    · have hfind : s.contacts.find? id = some row := (Dictionary.find?_eq_some_iff _ _ _).2 hnamed
      rw [h.find?_contacts, Option.map_eq_some_iff] at hfind
      obtain ⟨w, hw, rfl⟩ := hfind
      obtain ⟨hunder, hwritten⟩ := lastWrite?_mem hw
      cases w with
      | columns id' row =>
        rw [Write.row, contactOfRow?_eq_none (hforeign _ _ hwritten)] at hread
        cases hread
      | contact c' =>
        obtain rfl := Option.some.inj hunder
        rw [Write.row, contactOfRow?_rowOfContact (hback c' hwritten)] at hread
        obtain rfl := Option.some.inj hread
        exact (isLast_iff rfl).2 hw
  · rintro ⟨hlast, htenant⟩
    have hmem : .contact c ∈ ws := by
      obtain ⟨before, since, rfl, -⟩ := hlast
      exact List.mem_append_right _ List.mem_cons_self
    have hfind : s.contacts.find? c.id = some (rowOfContact c) := by
      rw [h.find?_contacts, (isLast_iff rfl).1 hlast]
      rfl
    refine ⟨(c.id, rowOfContact c),
      List.mem_append_right _ ((Dictionary.find?_eq_some_iff _ _ _).1 hfind), ?_⟩
    show (if c.tenant = tenant then _ else _) = _
    rw [if_pos htenant, contactOfRow?_rowOfContact (hback c hmem)]

/-- They come in the order of their identifiers, each once. -/
theorem pairwise_contactsOf (h : Written ws s)
    (hforeign : ∀ id row, .columns id row ∈ ws → row.IsUnreadable) (tenant : String) :
    (s.contactsOf tenant).Pairwise (fun a b => a.id < b.id) := by
  have hnameless : ∀ e ∈ s.contacts.nameless.map fun row => ("", row),
      (if e.2.tenant = tenant then contactOfRow? e.1 e.2 else none) = none := by
    intro e he
    obtain ⟨row, hrow, rfl⟩ := List.mem_map.1 he
    rw [contactOfRow?_eq_none (hforeign _ _ (h.mem_nameless_iff.1 hrow)), ite_self]
  rw [contactsOf, Table.entries, List.filterMap_append,
    List.filterMap_eq_nil_iff.2 fun e he => hnameless e he, List.nil_append]
  refine s.contacts.named.ascending.filterMap _ fun e e' hlt c hc c' hc' => ?_
  dsimp only at hc hc'
  split at hc
  · split at hc'
    · rwa [(of_contactOfRow? hc).1, (of_contactOfRow? hc').1]
    · cases hc'
  · cases hc

/-- **The table of contacts is a map in which the last write counts, as long as it holds texts.**
Whatever was done to the store, a search for a predicate finds the contacts of the tenant that were
stored last under their identifiers and that the predicate means, as they were stored, in the order
of the bytes of their identifiers and each once.  Counting counts them.  Rows that others put there
and that cannot be read are not found, and only take away what they are written over.  But if such a
row is one of the tenant and holds bytes, then there is no answer to either, unless the predicate
means nobody anyway. -/
theorem search_finds_last_written (h : Written ws s) (hback : ∀ c, .contact c ∈ ws → c.ReadsBack)
    (hforeign : ∀ id row, .columns id row ∈ ws → row.IsUnreadable) (p : Predicate)
    (tenant : String) :
    (p.isNever = false ∧ HoldsBytes ws tenant →
      Connection.contactSource.matching p tenant (.ofStore s) =
          (.error (.store .notText), .ofStore s) ∧
        Connection.contactSource.count p tenant (.ofStore s) =
          (.error (.store .notText), .ofStore s)) ∧
    (¬ (p.isNever = false ∧ HoldsBytes ws tenant) → ∃ found,
      Connection.contactSource.matching p tenant (.ofStore s) = (.ok found, .ofStore s) ∧
      found.Pairwise (fun a b => a.id.toUTF8.data.toList < b.id.toUTF8.data.toList) ∧
      (∀ c, c ∈ found ↔ IsLast ws (.contact c) ∧ c.tenant = tenant ∧ p.holds c = true) ∧
      Connection.contactSource.count p tenant (.ofStore s) = (.ok found.length, .ofStore s)) := by
  refine ⟨fun ⟨hp, hbytes⟩ => search_of_bytes ((h.holdsBytes_iff tenant).2 hbytes) hp,
    fun hfine => ⟨s.matching p tenant, ?_⟩⟩
  have hsearch : Connection.contactSource.matching p tenant (.ofStore s) =
        (.ok (s.matching p tenant), .ofStore s) ∧
      Connection.contactSource.count p tenant (.ofStore s) =
        (.ok (s.countMatching p tenant), .ofStore s) := by
    cases hp : p.isNever with
    | true =>
      rw [matching, countMatching, if_pos hp, if_pos hp]
      exact search_of_isNever hp
    | false =>
      exact search_of_texts (Bool.eq_false_iff.2 fun hbytes =>
        hfine ⟨hp, (h.holdsBytes_iff tenant).1 hbytes⟩)
  rw [← countMatching_eq_length]
  refine ⟨hsearch.1, ?_, fun c => ?_, hsearch.2⟩
  · simp only [toUTF8_lt_iff]
    rw [matching_eq_filter]
    exact (pairwise_contactsOf h hforeign tenant).filter _
  · rw [matching_eq_filter, List.mem_filter, mem_contactsOf_iff h hback hforeign, and_assoc]

end Written

namespace Sample

/-- A contact with a tag and a number, which is the negative zero. -/
def tagged (tenant : String) : Contact :=
  { Contact.ofIdentity "a" tenant with
    metrics := Dictionary.empty.insert "spent" (.finite Finite64.zero.neg)
    tags := Contact.tagSet ["vip"] }

/-- A row that says this for the labels. -/
def foreign (tags : Datum) : ContactRow :=
  ⟨"t", none, none, none, none, none, .text "\x7b\x7d", .text "\x7b\x7d", tags⟩

/-- The contact is stored for one tenant, and then for another; in between somebody puts a row that
cannot be read there. -/
def moved : List Write :=
  [.contact (tagged "t"), .columns (some "b") (foreign (.text "?")), .contact (tagged "u")]

theorem row_of_mem_moved {id : Option String} {row : ContactRow} (h : .columns id row ∈ moved) :
    row = foreign (.text "?") := by
  simp only [moved, List.mem_cons, List.not_mem_nil, or_false, Write.columns.injEq, reduceCtorEq,
    false_or] at h
  exact h.2

end Sample

/-- A contact that was stored for another tenant later belongs to this one. -/
theorem search_finds_moved : ∃ s, Written Sample.moved s ∧
    ∃ found, Connection.contactSource.matching (.all []) "u" (.ofStore s) =
      (.ok found, .ofStore s) ∧ Sample.tagged "u" ∈ found ∧ Sample.tagged "t" ∉ found := by
  have htenants : Written [] (empty.after [.upsertTenant ⟨"t", ""⟩, .upsertTenant ⟨"u", ""⟩]) :=
    (Written.empty.other (.upsertTenant ⟨"t", ""⟩) fun _ => nofun).other
      (.upsertTenant ⟨"u", ""⟩) fun _ => nofun
  have hwritten := ((htenants.contact (c := Sample.tagged "t") rfl).columns (some "b")
    (Sample.foreign (.text "?")) (by decide)).contact (c := Sample.tagged "u") rfl
  refine ⟨_, hwritten, ?_⟩
  have hback (tenant : String) : (Sample.tagged tenant).ReadsBack := fun e he =>
    ⟨_, congrArg Prod.snd (List.mem_singleton.1 he), by decide +kernel⟩
  have hcontacts : ∀ c, .contact c ∈ Sample.moved → c.ReadsBack := by
    intro c hc
    simp only [Sample.moved, List.mem_cons, List.not_mem_nil, or_false, Write.contact.injEq,
      reduceCtorEq, false_or] at hc
    rcases hc with rfl | rfl <;> exact hback _
  have hforeign : ∀ id row, .columns id row ∈ Sample.moved → row.IsUnreadable := by
    intro id row hrow
    rw [Sample.row_of_mem_moved hrow]
    exact .inr (.inr (.inr (by decide +kernel)))
  have hfine : ¬ ((Predicate.all []).isNever = false ∧ HoldsBytes Sample.moved "u") := by
    rintro ⟨-, id, row, ⟨before, since, hws, -⟩, htenant, -⟩
    have hrow : .columns id row ∈ Sample.moved := hws ▸ List.mem_append_right _ List.mem_cons_self
    rw [Sample.row_of_mem_moved hrow] at htenant
    exact absurd htenant (by decide)
  obtain ⟨found, hfound, -, hmem, -⟩ :=
    (search_finds_last_written hwritten hcontacts hforeign (.all []) "u").2 hfine
  refine ⟨found, hfound, (hmem _).2 ⟨⟨_, [], rfl, by simp⟩, rfl, rfl⟩, fun hold => ?_⟩
  exact absurd ((hmem _).1 hold).2.1 (by decide)

/-- A contact is stored, and then somebody puts a row of the same tenant there, whose labels are the
bytes of an empty list but no text.  From then on the contact is neither found nor counted. -/
theorem contact_lost_beside_bytes : ∃ s, Written [.contact (Sample.tagged "t"),
      .columns (some "b") (Sample.foreign (.bytes [0x5B, 0x5D]))] s ∧
    (Sample.foreign (.bytes [0x5B, 0x5D])).tags.text?.bind
      (Json.decodeDocument? Contact.decodeTags) = none ∧
    Sample.tagged "t" ∈ s.contactsOf "t" ∧
    (Predicate.all []).holds (Sample.tagged "t") = true ∧
    Connection.contactSource.matching (.all []) "t" (.ofStore s) =
      (.error (.store .notText), .ofStore s) ∧
    Connection.contactSource.count (.all []) "t" (.ofStore s) =
      (.error (.store .notText), .ofStore s) := by
  have htenant : Written [] (empty.after [.upsertTenant ⟨"t", ""⟩]) :=
    Written.empty.other (.upsertTenant ⟨"t", ""⟩) fun _ => nofun
  have hwritten := (htenant.contact (c := Sample.tagged "t") rfl).columns (some "b")
    (Sample.foreign (.bytes [0x5B, 0x5D])) (by decide)
  exact ⟨_, hwritten, rfl, by decide +kernel, rfl, search_of_bytes (by decide +kernel) rfl⟩

end Store
end Mailshot
