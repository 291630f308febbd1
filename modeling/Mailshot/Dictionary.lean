/-!
# Dictionaries in key order

A `Dictionary α` maps texts to values of `α`.  Its entries are a list whose keys ascend strictly, in
the order of their code points (which is the order of their UTF-8 bytes).  Two dictionaries that
answer every look-up alike are therefore equal, and reading one from front to back is reading it in
key order; the tables of the store and the free fields of a contact rely on both.

* `insert` puts a value under a key and replaces the one that was there;
* `find?_insert` is the one law that everything else about contents follows from;
* `ext_find?` says that the look-ups determine the dictionary.
-/

set_option autoImplicit false

namespace Mailshot

/-- A finite map from texts, kept in ascending key order without repeats. -/
structure Dictionary (α : Type) where
  /-- The entries, in key order. -/
  entries : List (String × α)
  /-- Keys ascend strictly, so none is repeated. -/
  ascending : entries.Pairwise (fun a b => a.1 < b.1)

namespace Dictionary

variable {α β : Type}

/-- The dictionary without entries. -/
def empty : Dictionary α := ⟨[], .nil⟩

instance : Inhabited (Dictionary α) := ⟨empty⟩

instance [DecidableEq α] : DecidableEq (Dictionary α) := fun a b =>
  if h : a.entries = b.entries then
    .isTrue (by cases a; cases b; cases h; rfl)
  else
    .isFalse (fun e => h (e ▸ rfl))

/-! ## Insertion into an ascending list -/

/-- Puts `v` under `k` into a list of entries, in front of the first greater key. -/
def insertEntry (k : String) (v : α) : List (String × α) → List (String × α)
  | [] => [(k, v)]
  | (k', v') :: rest =>
    if k < k' then (k, v) :: (k', v') :: rest
    else if k = k' then (k, v) :: rest
    else (k', v') :: insertEntry k v rest

/-- Insertion brings in no key but the inserted one. -/
theorem mem_insertEntry {k : String} {v : α} {l : List (String × α)} {e : String × α}
    (h : e ∈ insertEntry k v l) : e = (k, v) ∨ e ∈ l := by
  induction l with
  | nil => simpa [insertEntry] using h
  | cons x rest ih =>
    simp only [insertEntry] at h
    split at h
    · simpa using h
    · split at h
      · simp only [List.mem_cons] at h ⊢
        exact h.imp_right .inr
      · simp only [List.mem_cons] at h ⊢
        rcases h with h | h
        · exact .inr (.inl h)
        · exact (ih h).imp_right .inr

theorem pairwise_insertEntry (k : String) (v : α) {l : List (String × α)}
    (h : l.Pairwise (fun a b => a.1 < b.1)) :
    (insertEntry k v l).Pairwise (fun a b => a.1 < b.1) := by
  induction l with
  | nil => simp [insertEntry]
  | cons x rest ih =>
    obtain ⟨hx, hrest⟩ := List.pairwise_cons.1 h
    simp only [insertEntry]
    split
    · next hlt =>
      refine List.pairwise_cons.2 ⟨fun e he => ?_, h⟩
      rcases List.mem_cons.1 he with rfl | he
      · exact hlt
      · exact String.lt_trans hlt (hx e he)
    · next hlt =>
      split
      · next heq =>
        exact List.pairwise_cons.2 ⟨fun e he => heq ▸ hx e he, hrest⟩
      · next hne =>
        refine List.pairwise_cons.2 ⟨fun e he => ?_, ih hrest⟩
        rcases mem_insertEntry he with rfl | he
        · exact Std.lt_of_le_of_ne hlt (Ne.symm hne)
        · exact hx e he

/-- Puts `v` under `k`; a value that stood there is replaced. -/
def insert (d : Dictionary α) (k : String) (v : α) : Dictionary α :=
  ⟨insertEntry k v d.entries, pairwise_insertEntry k v d.ascending⟩

/-- The dictionary of a list of entries; of two entries with one key the later one counts. -/
def ofList (l : List (String × α)) : Dictionary α :=
  l.foldl (fun d e => d.insert e.1 e.2) empty

/-- The entries in key order. -/
def toList (d : Dictionary α) : List (String × α) := d.entries

/-- The keys in ascending order. -/
def keys (d : Dictionary α) : List String := d.entries.map (·.1)

/-- The values, in the order of their keys. -/
def values (d : Dictionary α) : List α := d.entries.map (·.2)

/-- The number of entries. -/
def size (d : Dictionary α) : Nat := d.entries.length

/-! ## Look-up -/

/-- The value of the first entry with this key. -/
def valueOf? (k : String) : List (String × α) → Option α
  | [] => none
  | (k', v) :: rest => if k' = k then some v else valueOf? k rest

/-- The value under a key, if there is one. -/
def find? (d : Dictionary α) (k : String) : Option α := valueOf? k d.entries

/-- Whether a key has a value. -/
def contains (d : Dictionary α) (k : String) : Bool := (d.find? k).isSome

@[simp] theorem find?_empty (k : String) : (empty : Dictionary α).find? k = none := rfl

theorem valueOf?_insertEntry (k q : String) (v : α) {l : List (String × α)}
    (h : l.Pairwise (fun a b => a.1 < b.1)) :
    valueOf? q (insertEntry k v l) = if k = q then some v else valueOf? q l := by
  induction l with
  | nil => rfl
  | cons x rest ih =>
    obtain ⟨-, hrest⟩ := List.pairwise_cons.1 h
    simp only [insertEntry]
    split
    · simp [valueOf?]
    · split
      · next heq => by_cases hk : k = q <;> simp [valueOf?, ← heq, hk]
      · next hne =>
        by_cases hk : k = q
        · subst hk
          simp [valueOf?, Ne.symm hne, ih hrest]
        · simp [valueOf?, hk, ih hrest]

/-- Insertion changes the look-up of its own key only. -/
theorem find?_insert (d : Dictionary α) (k q : String) (v : α) :
    (d.insert k v).find? q = if k = q then some v else d.find? q :=
  valueOf?_insertEntry k q v d.ascending

theorem valueOf?_eq_some_of_mem {l : List (String × α)} (h : l.Pairwise (fun a b => a.1 < b.1))
    {k : String} {v : α} (hm : (k, v) ∈ l) : valueOf? k l = some v := by
  induction l with
  | nil => simp at hm
  | cons x rest ih =>
    obtain ⟨hx, hrest⟩ := List.pairwise_cons.1 h
    rcases List.mem_cons.1 hm with rfl | hm
    · simp [valueOf?]
    · have hne : x.1 ≠ k := fun e => String.lt_irrefl x.1 (by simpa [e] using hx _ hm)
      simp [valueOf?, hne, ih hrest hm]

theorem mem_of_valueOf?_eq_some {l : List (String × α)} {k : String} {v : α}
    (h : valueOf? k l = some v) : (k, v) ∈ l := by
  induction l with
  | nil => simp [valueOf?] at h
  | cons x rest ih =>
    simp only [valueOf?] at h
    split at h
    · next hk => cases h; cases hk; simp
    · exact List.mem_cons_of_mem _ (ih h)

/-- Look-up and membership say the same. -/
theorem find?_eq_some_iff (d : Dictionary α) (k : String) (v : α) :
    d.find? k = some v ↔ (k, v) ∈ d.entries :=
  ⟨mem_of_valueOf?_eq_some, valueOf?_eq_some_of_mem d.ascending⟩

/-! ## Changing values in place -/

/-- Applies `f` to every value; keys stay. -/
def mapValues (f : String → α → β) (d : Dictionary α) : Dictionary β where
  entries := d.entries.map (fun e => (e.1, f e.1 e.2))
  ascending := by
    rw [List.pairwise_map]
    exact d.ascending

/-! ## Extensionality -/

/-- A dictionary is determined by its entries. -/
theorem ext_entries {a b : Dictionary α} (h : a.entries = b.entries) : a = b := by
  cases a; cases b; cases h; rfl

/-- Two strictly ascending lists with the same members are one list. -/
theorem entries_eq_of_mem_iff {l r : List (String × α)}
    (hl : l.Pairwise (fun a b => a.1 < b.1)) (hr : r.Pairwise (fun a b => a.1 < b.1))
    (h : ∀ e, e ∈ l ↔ e ∈ r) : l = r := by
  induction l generalizing r with
  | nil =>
    cases r with
    | nil => rfl
    | cons y r => simpa using (h y).2 (by simp)
  | cons x l ih =>
    cases r with
    | nil => simpa using (h x).1 (by simp)
    | cons y r =>
      obtain ⟨hx, hl'⟩ := List.pairwise_cons.1 hl
      obtain ⟨hy, hr'⟩ := List.pairwise_cons.1 hr
      have hxy : x = y := by
        rcases List.mem_cons.1 ((h x).1 (by simp)) with e | hxr
        · exact e
        · rcases List.mem_cons.1 ((h y).2 (by simp)) with e | hyl
          · exact e.symm
          · exact absurd (hx y hyl) (String.lt_asymm (hy x hxr))
      subst hxy
      refine congrArg _ (ih hl' hr' fun e => ⟨fun he => ?_, fun he => ?_⟩)
      · rcases List.mem_cons.1 ((h e).1 (List.mem_cons_of_mem _ he)) with rfl | he'
        · exact absurd (hx _ he) (String.lt_irrefl _)
        · exact he'
      · rcases List.mem_cons.1 ((h e).2 (List.mem_cons_of_mem _ he)) with rfl | he'
        · exact absurd (hy _ he) (String.lt_irrefl _)
        · exact he'

/-- The look-ups determine the dictionary. -/
theorem ext_find? {a b : Dictionary α} (h : ∀ k, a.find? k = b.find? k) : a = b :=
  ext_entries (entries_eq_of_mem_iff a.ascending b.ascending fun ⟨k, v⟩ => by
    rw [← find?_eq_some_iff, ← find?_eq_some_iff, h])

end Dictionary

end Mailshot
