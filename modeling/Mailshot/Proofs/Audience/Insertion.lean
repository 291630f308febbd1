import Mathlib.Data.Finset.Card
import Mailshot.Proofs.Audience.Resolution

/-!
# Insertions one after the other

Whether an insertion adds its contact is asked of the index, which therefore has to be right at that
moment, and not only when all contacts are in.  `Audience.insertEach` keeps what each insertion
said.  What it said decides about the list (`contacts_insertEach`), and as the index is in step with
the list before every insertion (`Indexed.insert`), what it said is also known from the contacts
that came before (`Indexed.insertEach_fst`).

* `Indexed.insert_of_mem`, `Indexed.insert_of_not_mem`: what one insertion comes to.
* `insertEach_exact`: an audience after any insertions.
-/

set_option autoImplicit false

namespace Mailshot
namespace Audience

/-- Adds contacts one after the other, and says of each whether it was added. -/
def insertEach (a : Audience) : List Contact → List Bool × Audience
  | [] => ([], a)
  | c :: cs =>
    let (added, a) := a.insert c
    let (answers, a) := a.insertEach cs
    (added :: answers, a)

theorem insertEach_cons (a : Audience) (c : Contact) (cs : List Contact) :
    a.insertEach (c :: cs) =
      ((a.insert c).1 :: ((a.insert c).2.insertEach cs).1, ((a.insert c).2.insertEach cs).2) :=
  rfl

/-- The same audience comes out when nobody keeps what was said. -/
theorem insertEach_snd (a : Audience) (cs : List Contact) :
    (a.insertEach cs).2 = a.insertAll cs := by
  induction cs generalizing a with
  | nil => rfl
  | cons c cs ih => exact ih (a.insert c).2

/-- **The contacts that join are those whose insertion said so**, in the order of the insertions. -/
theorem contacts_insertEach (a : Audience) (cs : List Contact) :
    (a.insertEach cs).2.contacts =
      a.contacts ++ ((cs.zip (a.insertEach cs).1).filter (·.2)).map (·.1) := by
  induction cs generalizing a with
  | nil => exact (List.append_nil _).symm
  | cons c cs ih =>
    rw [insertEach_cons, ih, List.zip_cons_cons, insert]
    split
    · rw [List.filter_cons_of_neg (by simp)]
    · rw [List.filter_cons_of_pos (by simp), List.map_cons, List.append_assoc,
        List.singleton_append]

section Indexed

variable {a : Audience}

theorem Indexed.insert_of_mem (h : a.Indexed) {c : Contact} (hid : c.id ∈ a.ids) :
    a.insert c = (false, a) :=
  if_pos ((h.contains_iff c.id).2 hid)

theorem Indexed.insert_of_not_mem (h : a.Indexed) {c : Contact} (hid : c.id ∉ a.ids) :
    a.insert c = (true, ⟨a.contacts ++ [c], a.index.insert c.id a.contacts.length⟩) :=
  if_neg fun hc => hid ((h.contains_iff c.id).1 hc)

/-- An insertion says whether the identifier is new. -/
theorem Indexed.insert_fst (h : a.Indexed) (c : Contact) :
    (a.insert c).1 = decide (c.id ∉ a.ids) := by
  by_cases hid : c.id ∈ a.ids
  · rw [h.insert_of_mem hid]
    exact (decide_eq_false (not_not.2 hid)).symm
  · rw [h.insert_of_not_mem hid]
    exact (decide_eq_true hid).symm

/-- After an insertion there is the identifier of the contact, whether it was added or not. -/
theorem Indexed.mem_ids_insert (h : a.Indexed) (c : Contact) (id : String) :
    id ∈ (a.insert c).2.ids ↔ id ∈ a.ids ∨ id = c.id := by
  by_cases hid : c.id ∈ a.ids
  · rw [h.insert_of_mem hid]
    exact (or_iff_left_of_imp fun heq => heq ▸ hid).symm
  · rw [h.insert_of_not_mem hid, ids, List.map_append, List.mem_append, List.map_singleton,
      List.mem_singleton, ids]

theorem Indexed.mem_ids_insertAll (h : a.Indexed) (cs : List Contact) (id : String) :
    id ∈ (a.insertAll cs).ids ↔ id ∈ a.ids ∨ id ∈ cs.map (·.id) := by
  induction cs generalizing a with
  | nil => exact (or_iff_left List.not_mem_nil).symm
  | cons c cs ih =>
    show id ∈ ((a.insert c).2.insertAll cs).ids ↔ _
    rw [ih (h.insert c), h.mem_ids_insert, List.map_cons, List.mem_cons, or_assoc]

/-- **Each insertion says whether its identifier is new**: neither there from the beginning nor that
of a contact before. -/
theorem Indexed.insertEach_fst (h : a.Indexed) (cs : List Contact) :
    (a.insertEach cs).1 =
      cs.mapIdx fun i c => decide (c.id ∉ a.ids ∧ c.id ∉ (cs.take i).map (·.id)) := by
  induction cs generalizing a with
  | nil => rfl
  | cons c cs ih =>
    rw [insertEach_cons, List.mapIdx_cons, ih (h.insert c), h.insert_fst]
    refine List.cons_eq_cons.2
      ⟨?_, congrArg (fun f => cs.mapIdx f) (funext fun i => funext fun d => ?_)⟩
    · rw [decide_eq_decide, List.take_zero, List.map_nil]
      exact (and_iff_left List.not_mem_nil).symm
    · -- what comes before a place of the tail is the head and a part of the tail
      rw [decide_eq_decide, h.mem_ids_insert, List.take_succ_cons, List.map_cons, List.mem_cons,
        not_or, not_or, and_assoc]

end Indexed

/-- An audience has as many contacts as there were different identifiers. -/
theorem size_ofList (cs : List Contact) : (ofList cs).size = (cs.map (·.id)).toFinset.card := by
  have hids : (ofList cs).ids.toFinset = (cs.map (·.id)).toFinset := by
    ext id
    rw [List.mem_toFinset, List.mem_toFinset, ofList, indexed_empty.mem_ids_insertAll]
    simp [empty, ids]
  calc (ofList cs).size
      = (ofList cs).ids.length := (List.length_map _).symm
    _ = (ofList cs).ids.toFinset.card :=
        (List.toFinset_card_of_nodup (indexed_ofList cs).nodup_ids).symm
    _ = (cs.map (·.id)).toFinset.card := by rw [hids]

/-- **List and index stay in step, whatever is inserted.**  Insertions into the audience without
contacts lead to the audience of the list of these contacts.  In it an identifier has a place in the
index just if the contact in this place of the list has the identifier, and no identifier comes
twice.  Each insertion said whether no contact before had the identifier; an identifier finds the
first contact that was inserted with it, and nothing if there was none; the size is the number of
different identifiers; and the contacts are those whose insertion said that they were added, in the
order of their insertions. -/
theorem insertEach_exact (given : List Contact) :
    let answers := (empty.insertEach given).1
    let audience := (empty.insertEach given).2
    ofList given = audience ∧
    (∀ (id : String) (i : Nat),
      audience.index.find? id = some i ↔ (audience.contacts[i]?).map (·.id) = some id) ∧
    (audience.contacts.map (·.id)).Nodup ∧
    answers = given.mapIdx (fun i c => decide (c.id ∉ (given.take i).map (·.id))) ∧
    (∀ id, audience.find? id = given.find? fun c => c.id = id) ∧
    audience.size = (given.map (·.id)).toFinset.card ∧
    audience.contacts = ((given.zip answers).filter (·.2)).map (·.1) := by
  intro answers audience
  have hlist : audience = ofList given := insertEach_snd empty given
  have hindexed : audience.Indexed := hlist ▸ indexed_ofList given
  refine ⟨hlist.symm, fun id i => ?_, hindexed.nodup_ids, ?_, fun id => ?_, ?_, ?_⟩
  · rw [hindexed id i, ids, List.getElem?_map]
  · have hempty : empty.ids = [] := rfl
    show (empty.insertEach given).1 = _
    rw [indexed_empty.insertEach_fst, hempty]
    simp only [List.not_mem_nil, not_false_iff, true_and]
  · rw [hlist, find?_ofList]
  · rw [hlist, size_ofList]
  · exact (contacts_insertEach empty given).trans (List.nil_append _)

/-- The second contact is left out, and the third one has the place behind the first. -/
example :
    let (answers, audience) := empty.insertEach
      [.ofIdentity "a" "t", .ofIdentity "a" "u", .ofIdentity "b" "t"]
    answers = [true, false, true] ∧ audience.find? "a" = some (.ofIdentity "a" "t") ∧
      audience.index.find? "b" = some 1 := by decide

end Audience
end Mailshot
