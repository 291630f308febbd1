import Mailshot.Audience.Resolve

/-!
# The index of an audience

An audience keeps its contacts twice: in a list, in the order in which they came, and in an index
that finds the place of an identifier.  `Audience.Indexed` says that the two agree.  It holds of the
empty audience and insertion keeps it, so it holds of every audience there is; that no identifier
comes twice (`Indexed.nodup_ids`) follows from it alone, because an index gives one place to one
identifier.
-/

set_option autoImplicit false

namespace Mailshot
namespace Audience

/-- The index agrees with the list: it has an identifier in a place just if the contact there has
that identifier. -/
def Indexed (a : Audience) : Prop :=
  ∀ (id : String) (i : Nat), a.index.find? id = some i ↔ a.ids[i]? = some id

theorem indexed_empty : empty.Indexed := by
  intro id i
  simp [empty, ids]

/-- What is not in the index is nowhere in the list. -/
theorem Indexed.getElem?_ids_ne {a : Audience} (h : a.Indexed) {id : String}
    (hc : ¬ a.index.contains id = true) (i : Nat) : a.ids[i]? ≠ some id := by
  intro hi
  have hf : a.index.find? id = some i := (h id i).2 hi
  exact hc (by rw [Dictionary.contains, hf]; rfl)

/-- **Insertion keeps list and index in step.** -/
theorem Indexed.insert {a : Audience} (h : a.Indexed) (c : Contact) : (a.insert c).2.Indexed := by
  rw [Audience.insert]
  split
  · exact h
  · rename_i hc
    intro id i
    have hlen : a.ids.length = a.contacts.length := List.length_map _
    have hids : (a.contacts ++ [c]).map (·.id) = a.ids ++ [c.id] := by
      rw [List.map_append]; rfl
    show (a.index.insert c.id a.contacts.length).find? id = some i ↔
      ((a.contacts ++ [c]).map (·.id))[i]? = some id
    rw [Dictionary.find?_insert, hids, List.getElem?_append, ← hlen]
    by_cases hid : c.id = id
    · -- the new identifier: it can be nowhere but at the end
      subst hid
      have hne := h.getElem?_ids_ne hc i
      rw [if_pos rfl]
      split
      · next hlt => exact ⟨fun e => absurd (Option.some.inj e) (by omega), fun e => absurd e hne⟩
      · next hge =>
        rw [List.getElem?_singleton]
        split
        · next h0 => exact ⟨fun _ => rfl, fun _ => congrArg some (by omega)⟩
        · next h0 => exact ⟨fun e => absurd (Option.some.inj e) (by omega), fun e => by cases e⟩
    · rw [if_neg hid, h id i]
      split
      · exact Iff.rfl
      · next hge =>
        rw [List.getElem?_eq_none (by omega), List.getElem?_singleton]
        split
        · simp [hid]
        · exact Iff.rfl

theorem Indexed.insertAll {a : Audience} (h : a.Indexed) (contacts : List Contact) :
    (a.insertAll contacts).Indexed := by
  induction contacts generalizing a with
  | nil => exact h
  | cons c cs ih => exact ih (h.insert c)

theorem indexed_ofList (contacts : List Contact) : (ofList contacts).Indexed :=
  indexed_empty.insertAll contacts

/-- No identifier comes twice. -/
theorem Indexed.nodup_ids {a : Audience} (h : a.Indexed) : a.ids.Nodup := by
  refine List.pairwise_iff_getElem.2 fun i j hi hj hij heq => ?_
  have h1 : a.index.find? a.ids[i] = some i := (h _ i).2 (List.getElem?_eq_getElem hi)
  have h2 : a.index.find? a.ids[i] = some j := by
    rw [heq]
    exact (h _ j).2 (List.getElem?_eq_getElem hj)
  rw [h1] at h2
  exact absurd (Option.some.inj h2) (Nat.ne_of_lt hij)

end Audience
end Mailshot
