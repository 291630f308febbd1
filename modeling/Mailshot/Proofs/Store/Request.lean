import Mailshot.Proofs.Store.Lifecycle

/-!
# Who asked for a stop

Whether sending is to stop is written in the row of the campaign (`Store.flag?`).  Only a request
for a stop that succeeds writes it there (`Statement.flag?_apply`), and it stays there.  A campaign
that can be claimed has not been asked to stop, so if it has been asked later then a request
succeeded in between (`exists_request`); and a campaign for which a request succeeded is never
claimed again (`claim_after_request`).
-/

set_option autoImplicit false

namespace Mailshot
namespace Store

/-- Whether sending of a campaign is to stop, as it is written. -/
def flag? (s : Store) (id : String) : Option Bool :=
  (s.campaigns.find? id).map (·.cancelRequested)

theorem cancelRequested_eq_ok_iff {s : Store} {id : String} {flag : Bool} :
    s.cancelRequested id = .ok flag ↔ s.flag? id = some flag := by
  rw [cancelRequested, flag?]
  cases s.campaigns.find? id <;> simp

/-! ## What statements write -/

section SetWhere

variable (s : Store) (id : String) (statuses : List Status) {f : CampaignRow → CampaignRow}

/-- The flag stays if it is not what is changed. -/
theorem flag?_setWhere (hf : ∀ r, (f r).cancelRequested = r.cancelRequested) (q : String) :
    (s.setWhere id statuses f).2.flag? q = s.flag? q := by
  rw [flag?, find?_setWhere, flag?]
  split
  · rw [Option.map_map]
    exact congrArg (Option.map · (s.campaigns.find? q)) (funext hf)
  · rfl

end SetWhere

theorem markCancelled_fst (s : Store) (id now : String) :
    (s.markCancelled id now).1 = true ↔ s.status? id = some Status.sending.name := by
  rw [markCancelled, setWhere_fst]
  simp

/-- A request that succeeds is written down. -/
theorem flag?_markCancelled (s : Store) (id now q : String) :
    (s.markCancelled id now).2.flag? q =
      if (s.markCancelled id now).1 = true ∧ id = q then some true else s.flag? q := by
  rw [flag?, markCancelled, find?_setWhere, ← markCancelled, flag?]
  split
  · next h =>
    obtain ⟨hmark, rfl⟩ := h
    obtain ⟨r, hr, -⟩ := Option.map_eq_some_iff.1 ((s.markCancelled_fst id now).1 hmark)
    rw [hr]
    rfl
  · rfl

/-- **What a statement does to the flag of a campaign**: nothing, or it makes the campaign, or it is
a request for a stop that succeeds. -/
theorem Statement.flag?_apply (s : Store) (id : String) (st : Statement) :
    (st.apply s).flag? id = s.flag? id ∨
      (s.flag? id = none ∧ (st.apply s).flag? id = some false) ∨
      ∃ now, st = .markCancelled id now ∧ (s.markCancelled id now).1 = true ∧
        (st.apply s).flag? id = some true := by
  cases st with
  | upsertTenant | append => exact .inl rfl
  | upsertContact contact =>
    rw [apply, Store.upsertContact]
    split <;> exact .inl rfl
  | createSegment id' createdAt tenant name rules =>
    rw [apply, Store.createSegment]
    split
    · exact .inl rfl
    · split <;> exact .inl rfl
  | link campaign segment =>
    rw [apply, Store.link]
    split
    · exact .inl rfl
    · split <;> exact .inl rfl
  | createCampaign id' createdAt new =>
    rw [apply, Store.createCampaign]
    split
    · exact .inl rfl
    · split
      · exact .inl rfl
      · next hfresh =>
        by_cases hid : id' = id
        · subst hid
          refine .inr (.inl ⟨?_, ?_⟩)
          · rw [flag?, Option.map_eq_none_iff, ← Option.not_isSome_iff_eq_none]
            exact hfresh
          · rw [orSame, flag?, Table.find?_insert, if_pos rfl]
            rfl
        · rw [orSame, flag?, Table.find?_insert, if_neg hid]
          exact .inl rfl
  | markScheduled id' now time =>
    rw [apply, Store.markScheduled]
    refine .inl (s.flag?_setWhere id' _ ?_ id)
    exact fun _ => rfl
  | claim id' now =>
    rw [apply, Store.claim]
    refine .inl (s.flag?_setWhere id' _ ?_ id)
    exact fun _ => rfl
  | markCompleted id' now =>
    rw [apply, Store.markCompleted]
    refine .inl (s.flag?_setWhere id' _ ?_ id)
    exact fun _ => rfl
  | markCancelled id' now =>
    rw [apply, flag?_markCancelled]
    split
    · next h =>
      obtain ⟨hmark, rfl⟩ := h
      exact .inr (.inr ⟨now, rfl, hmark, rfl⟩)
    · exact .inl rfl

/-! ## Statements in a row -/

/-- What was asked to stop stays so. -/
theorem flag?_after_of_true {s : Store} {id : String} (h : s.flag? id = some true)
    (sts : List Statement) : (s.after sts).flag? id = some true := by
  induction sts generalizing s with
  | nil => exact h
  | cons st sts ih =>
    refine ih ?_
    rcases st.flag?_apply s id with hsame | ⟨hnone, -⟩ | ⟨_, -, -, htrue⟩
    · rw [hsame, h]
    · rw [h] at hnone
      cases hnone
    · exact htrue

/-- **If a campaign has come to be asked for a stop, a request succeeded.** -/
theorem exists_request {s : Store} {id : String} {sts : List Statement}
    (hbefore : s.flag? id ≠ some true) (hafter : (s.after sts).flag? id = some true) :
    ∃ earlier now later, sts = earlier ++ .markCancelled id now :: later ∧
      ((s.after earlier).markCancelled id now).1 = true := by
  induction sts generalizing s with
  | nil => exact absurd hafter hbefore
  | cons st sts ih =>
    have hrest : (st.apply s).flag? id ≠ some true →
        ∃ earlier now later, st :: sts = earlier ++ .markCancelled id now :: later ∧
          ((s.after earlier).markCancelled id now).1 = true := fun hnot => by
      obtain ⟨earlier, now, later, rfl, hmark⟩ := ih hnot hafter
      exact ⟨st :: earlier, now, later, rfl, hmark⟩
    rcases st.flag?_apply s id with hsame | ⟨-, hfalse⟩ | ⟨now, rfl, hmark, -⟩
    · exact hrest (hsame ▸ hbefore)
    · refine hrest ?_
      rw [hfalse]
      exact fun h => by cases h
    · exact ⟨[], now, sts, rfl, hmark⟩

/-- A campaign that can be claimed has not been asked to stop. -/
theorem Sound.flag?_of_claim {s : Store} (hs : s.Sound) {id now : String}
    (h : (s.claim id now).1 = true) : s.flag? id ≠ some true := by
  intro hflag
  obtain ⟨r, hr, hcancelled⟩ := Option.map_eq_some_iff.1 hflag
  have hstatus := (s.claim_fst id now).1 h
  rw [status?, hr] at hstatus
  have hlater := (hs.campaigns.of_find? hr).1.cancelled hcancelled
  rcases hstatus with heq | heq <;> rcases hlater with hr' | hr' <;>
    · rw [Option.map_some, hr', Option.some.injEq, Status.name_inj] at heq
      cases heq

/-- **A campaign for which a request succeeded is to stop from then on, and nobody claims it.** -/
theorem claim_after_request {s : Store} {id now : String} (h : (s.markCancelled id now).1 = true)
    (sts : List Statement) :
    (s.after (.markCancelled id now :: sts)).flag? id = some true ∧
      ∀ later, ((s.after (.markCancelled id now :: sts)).claim id later).1 = false := by
  have hstatus : s.status? id = some Status.sending.name := (s.markCancelled_fst id now).1 h
  constructor
  · refine flag?_after_of_true ?_ sts
    show (s.markCancelled id now).2.flag? id = some true
    rw [flag?_markCancelled, if_pos ⟨h, rfl⟩]
  · -- a campaign never comes back to where it can be claimed
    have hprogress := s.progress_le_after id (.markCancelled id now :: sts)
    rw [progress_of_status? hstatus] at hprogress
    refine fun later => Bool.eq_false_iff.2 fun hclaim => ?_
    rcases (claim_fst _ id later).1 hclaim with heq | heq <;>
      · rw [progress_of_status? heq] at hprogress
        exact absurd hprogress (by decide)

end Store
end Mailshot
