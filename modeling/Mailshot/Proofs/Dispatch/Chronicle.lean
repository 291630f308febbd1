import Mailshot.Proofs.Dispatch.Completion
import Mailshot.Proofs.Dispatch.Lifetime
import Mailshot.Proofs.Store.Request

/-!
# What happens, in order

`Reaches` knows the deeds of all calls in order, and of what others do to the store only what comes
of it.  To say what comes before what, everything has to be in one list: a `Chronicle` is a system
together with all that happened, the deeds of the calls, what they were told when they asked whether
to stop, and the statements by which the store was changed, whoever carried them out.

Every system that can be reached has a chronicle (`Reaches.exists_chronicle`), and its deeds are
those in the chronicle (`Chronicle.reaches`).  At any moment the store is what the statements before
have made of it (`Chronicle.store_eq`).
-/

set_option autoImplicit false

namespace Mailshot
namespace Dispatch

/-! ## Events -/

/-- What may happen. -/
inductive Event where
  /-- The call in a place asked whether to stop, and this was the answer. -/
  | told (i : Nat) (answer : Except CampaignError Bool)
  /-- The call in a place did something. -/
  | did (i : Nat) (d : Deed)
  /-- A statement was carried out or refused. -/
  | statement (st : Store.Statement)

namespace Event

/-- What was done, and by whom. -/
@[simp] def deed? : Event → Option (Nat × Deed)
  | did i d => some (i, d)
  | _ => none

/-- What was told, and to whom. -/
@[simp] def told? : Event → Option (Nat × Except CampaignError Bool)
  | told i answer => some (i, answer)
  | _ => none

/-- The statement. -/
@[simp] def statement? : Event → Option Store.Statement
  | statement st => some st
  | _ => none

end Event

/-- What was done, in order. -/
def traceOf (events : List Event) : Trace := events.filterMap Event.deed?

/-- What calls were told, in order. -/
def toldIn (events : List Event) : List (Nat × Except CampaignError Bool) :=
  events.filterMap Event.told?

/-- The statements, in order. -/
def statementsIn (events : List Event) : List Store.Statement :=
  events.filterMap Event.statement?

@[simp] theorem traceOf_append (l l' : List Event) :
    traceOf (l ++ l') = traceOf l ++ traceOf l' := List.filterMap_append

@[simp] theorem statementsIn_append (l l' : List Event) :
    statementsIn (l ++ l') = statementsIn l ++ statementsIn l' := List.filterMap_append

@[simp] theorem traceOf_map_statement (sts : List Store.Statement) :
    traceOf (sts.map .statement) = [] :=
  List.filterMap_eq_nil_iff.2 fun event hevent => by
    obtain ⟨st, -, rfl⟩ := List.mem_map.1 hevent
    rfl

@[simp] theorem statementsIn_map_statement (sts : List Store.Statement) :
    statementsIn (sts.map .statement) = sts := by
  rw [statementsIn, List.filterMap_map]
  exact List.filterMap_some

theorem mem_traceOf {events : List Event} {i : Nat} {d : Deed} :
    (i, d) ∈ traceOf events ↔ .did i d ∈ events := by
  rw [traceOf, List.mem_filterMap]
  constructor
  · rintro ⟨event, hevent, heq⟩
    cases event with
    | did i' d' =>
      cases heq
      exact hevent
    | _ => cases heq
  · exact fun h => ⟨_, h, rfl⟩

namespace Engine

variable {σ : Type} (e : Engine σ)

/-- The answer that a dispatch gets in a step if it asks whether to stop. -/
def told? (turn : Turn) (stage : Stage) (s : σ) : Option (Except CampaignError Bool) :=
  match stage, turn with
  | .sending r, .dispatcher =>
    r.next.map fun _ => (e.campaigns.cancelRequested r.job.campaign.id s).1
  | _, _ => none

/-- What can be seen of a step of the call in a place, but for what it does to the store. -/
def shown (i : Nat) (turn : Turn) (stage : Stage) (s : σ) : List Event :=
  (e.told? turn stage s).toList.map (.told i) ++ (e.deed turn stage s).toList.map (.did i)

variable {e}

@[simp] theorem traceOf_shown (i : Nat) (turn : Turn) (stage : Stage) (s : σ) :
    traceOf (e.shown i turn stage s) = (e.deed turn stage s).toList.map fun d => (i, d) := by
  rw [shown]
  cases e.told? turn stage s <;> cases e.deed turn stage s <;> rfl

@[simp] theorem statementsIn_shown (i : Nat) (turn : Turn) (stage : Stage) (s : σ) :
    statementsIn (e.shown i turn stage s) = [] := by
  rw [shown]
  cases e.told? turn stage s <;> cases e.deed turn stage s <;> rfl

theorem mem_shown_of_told {i : Nat} {turn : Turn} {stage : Stage} {s : σ}
    {answer : Except CampaignError Bool} (h : e.told? turn stage s = some answer) :
    .told i answer ∈ e.shown i turn stage s := by
  rw [shown, h]
  exact List.mem_cons_self

/-- What a call does in a step. -/
theorem doneBy_step (i j : Nat) (turn : Turn) (stage : Stage) (s : σ)
    (sts : List Store.Statement) :
    doneBy i (traceOf (e.shown j turn stage s ++ sts.map .statement)) =
      if j = i then (e.deed turn stage s).toList else [] := by
  rw [traceOf_append, traceOf_shown, traceOf_map_statement, List.append_nil, doneBy_map]

/-- What a call is told in a step. -/
theorem toldIn_step (i : Nat) (turn : Turn) (stage : Stage) (s : σ)
    (sts : List Store.Statement) :
    toldIn (e.shown i turn stage s ++ sts.map .statement) =
      (e.told? turn stage s).toList.map (i, ·) := by
  have hnone : toldIn (sts.map .statement) = [] :=
    List.filterMap_eq_nil_iff.2 fun event hevent => by
      obtain ⟨st, -, rfl⟩ := List.mem_map.1 hevent
      rfl
  rw [toldIn, List.filterMap_append, ← toldIn, ← toldIn, hnone, List.append_nil, shown]
  cases e.told? turn stage s <;> cases e.deed turn stage s <;> rfl

end Engine

/-! ## Chronicles -/

variable {σ : Type} {view : σ → Connection} {s₀ : σ} {events : List Event} {sys : System σ}

/-- What a system may come to from a state, and all that happened on the way.  What a step does to
the store comes after the deed of the step. -/
inductive Chronicle (view : σ → Connection) (s₀ : σ) : List Event → System σ → Prop
  /-- There is no call yet. -/
  | init : Chronicle view s₀ [] ⟨s₀, []⟩
  /-- A call comes in. -/
  | enter {events : List Event} {sys : System σ} (h : Chronicle view s₀ events sys)
      {engine : Engine σ} (hlawful : engine.Lawful view) (id : String) (recipients : Recipients) :
      Chronicle view s₀ events
        { sys with calls := sys.calls ++ [⟨engine, id, recipients, .loading id recipients⟩] }
  /-- A call has a turn. -/
  | turn {events : List Event} {sys : System σ} (h : Chronicle view s₀ events sys) {i : Nat}
      {call : Call σ} (hcall : sys.calls[i]? = some call) (turn : Engine.Turn)
      {sts : List Store.Statement}
      (hsts : (view (call.engine.step turn call.stage sys.state).2).store =
        (view sys.state).store.after sts) :
      Chronicle view s₀
        (events ++ (call.engine.shown i turn call.stage sys.state ++ sts.map .statement))
        { state := (call.engine.step turn call.stage sys.state).2
          calls := sys.calls.set i
            { call with stage := (call.engine.step turn call.stage sys.state).1 } }
  /-- Others have a turn. -/
  | others {events : List Event} {sys : System σ} (h : Chronicle view s₀ events sys) {s : σ}
      {sts : List Store.Statement} (helse : ∀ st ∈ sts, st.isElsewhere = true)
      (hsts : (view s).store = (view sys.state).store.after sts) :
      Chronicle view s₀ (events ++ sts.map .statement) { sys with state := s }

namespace Chronicle

/-- The deeds in a chronicle are those of its system. -/
theorem reaches (h : Chronicle view s₀ events sys) : Reaches view s₀ (traceOf events) sys := by
  induction h with
  | init => exact .init
  | enter _ hlawful id recipients ih => exact ih.enter hlawful id recipients
  | turn _ hcall turn _ ih =>
    rw [traceOf_append, traceOf_append, Engine.traceOf_shown, traceOf_map_statement,
      List.append_nil]
    exact ih.turn hcall turn
  | @others events sys h s sts helse hsts ih =>
    rw [traceOf_append, traceOf_map_statement, List.append_nil]
    refine ih.others ?_
    rw [hsts]
    exact Store.elsewhere_after _ helse

/-- **The store is what the statements have made of it.** -/
theorem store_eq (h : Chronicle view s₀ events sys) :
    (view sys.state).store = (view s₀).store.after (statementsIn events) := by
  induction h with
  | init => rfl
  | enter _ _ _ _ ih => exact ih
  | turn _ _ _ hsts ih | others _ _ hsts ih =>
    rw [hsts, ih, ← Store.after_append]
    simp

theorem sound (h : Chronicle view s₀ events sys) (hs : (view s₀).store.Sound) :
    (view sys.state).store.Sound := by
  rw [h.store_eq]
  exact hs.after _

end Chronicle

/-- **Whatever can be reached has a chronicle.** -/
theorem Reaches.exists_chronicle {trace : Trace} (h : Reaches view s₀ trace sys) :
    ∃ events, Chronicle view s₀ events sys ∧ traceOf events = trace := by
  induction h with
  | init => exact ⟨[], .init, rfl⟩
  | enter _ hlawful id recipients ih =>
    obtain ⟨events, hevents, rfl⟩ := ih
    exact ⟨events, hevents.enter hlawful id recipients, rfl⟩
  | @turn trace sys h i call hcall turn ih =>
    obtain ⟨events, hevents, rfl⟩ := ih
    obtain ⟨sts, hsts⟩ := (h.path hcall).1.exists_after turn call.stage sys.state
    exact ⟨_, hevents.turn hcall turn hsts, by simp⟩
  | others _ helse ih =>
    obtain ⟨events, hevents, rfl⟩ := ih
    obtain ⟨sts, hsts, hall⟩ := helse.exists_after
    exact ⟨_, hevents.others hall hsts, by simp⟩

/-! ## Given turns -/

/-- What calls are told when turns are had in an order. -/
def System.tellings (sys : System σ) :
    List (Nat × Engine.Turn) → List (Nat × Except CampaignError Bool)
  | [] => []
  | (i, turn) :: rest =>
    let answer? := sys.calls[i]?.bind fun call => call.engine.told? turn call.stage sys.state
    answer?.toList.map (i, ·) ++ (sys.turn i turn).2.tellings rest

/-- Turns may be had as they are listed. -/
theorem Chronicle.play (h : Chronicle view s₀ events sys) (turns : List (Nat × Engine.Turn)) :
    ∃ more, Chronicle view s₀ (events ++ more) (sys.play turns).2 ∧
      traceOf more = (sys.play turns).1 ∧ toldIn more = sys.tellings turns := by
  induction turns generalizing events sys with
  | nil => exact ⟨[], by rwa [List.append_nil], rfl, rfl⟩
  | cons p rest ih =>
    obtain ⟨i, turn⟩ := p
    rw [System.play, System.tellings, System.turn]
    cases hcall : sys.calls[i]? with
    | none => exact ih h
    | some call =>
      obtain ⟨sts, hsts⟩ := (h.reaches.path hcall).1.exists_after turn call.stage sys.state
      obtain ⟨more, hmore, htrace, htold⟩ := ih (h.turn hcall turn hsts)
      refine ⟨_, by rwa [List.append_assoc] at hmore, ?_, ?_⟩
      · simp [htrace]
      · rw [toldIn, List.filterMap_append, ← toldIn, ← toldIn, htold, Engine.toldIn_step]
        rfl

/-! ## Before and after -/

/-- Where a list that is put together from two is cut, one of the two is cut. -/
theorem cut_append {α : Type} {a b l r : List α} {x : α} (h : a ++ b = l ++ x :: r) :
    (∃ r', a = l ++ x :: r' ∧ r = r' ++ b) ∨ ∃ l', l = a ++ l' ∧ b = l' ++ x :: r := by
  rcases List.append_eq_append_iff.1 h with ⟨l', hl, hb⟩ | ⟨c, ha, hc⟩
  · exact .inr ⟨l', hl, hb⟩
  · cases c with
    | nil => exact .inr ⟨[], by rw [List.append_nil, ha, List.append_nil], hc.symm⟩
    | cons y c =>
      obtain ⟨rfl, rfl⟩ := List.cons.inj hc
      exact .inl ⟨c, ha, rfl⟩

/-- A statement is carried out before a step, or in it; then only statements come after it. -/
theorem cut_statement {l shown before later : List Event} {sts : List Store.Statement}
    {st : Store.Statement} (hshown : statementsIn shown = [])
    (h : l ++ (shown ++ sts.map .statement) = before ++ .statement st :: later) :
    (∃ later', l = before ++ .statement st :: later' ∧
        later = later' ++ (shown ++ sts.map .statement)) ∨
      ∃ sts' : List Store.Statement, later = sts'.map .statement := by
  rcases cut_append h with hold | ⟨l', -, hnew⟩
  · exact .inl hold
  · rcases cut_append hnew with ⟨r', hr, -⟩ | ⟨l'', -, hsts⟩
    · rw [hr, statementsIn_append] at hshown
      cases (List.append_eq_nil_iff.1 hshown).2
    · obtain ⟨sts₁, sts₂, -, -, hsts₂⟩ := List.map_eq_append_iff.1 hsts
      obtain ⟨st', sts', -, -, hlater⟩ := List.map_eq_cons_iff.1 hsts₂
      exact .inr ⟨sts', hlater.symm⟩

/-- A deed is done before a step, or in it; then no statement of the step comes before it. -/
theorem cut_did {l shown before later : List Event} {sts : List Store.Statement} {i : Nat}
    {d : Deed} (hshown : statementsIn shown = [])
    (h : l ++ (shown ++ sts.map .statement) = before ++ .did i d :: later) :
    (∃ later', l = before ++ .did i d :: later') ∨
      (i, d) ∈ traceOf shown ∧ statementsIn before = statementsIn l := by
  rcases cut_append h with ⟨later', hold, -⟩ | ⟨l', rfl, hnew⟩
  · exact .inl ⟨later', hold⟩
  · rcases cut_append hnew with ⟨r', rfl, -⟩ | ⟨l'', -, hsts⟩
    · rw [statementsIn_append] at hshown
      rw [statementsIn_append, (List.append_eq_nil_iff.1 hshown).1, List.append_nil]
      exact .inr ⟨mem_traceOf.2 (List.mem_append_right _ List.mem_cons_self), rfl⟩
    · have hmem : Event.did i d ∈ sts.map Event.statement := by
        rw [hsts]
        exact List.mem_append_right _ List.mem_cons_self
      obtain ⟨st, -, heq⟩ := List.mem_map.1 hmem
      cases heq

/-- The place of a statement among events. -/
theorem exists_cut {events : List Event} {earlier later : List Store.Statement}
    {st : Store.Statement} (h : statementsIn events = earlier ++ st :: later) :
    ∃ before after, events = before ++ .statement st :: after ∧ statementsIn before = earlier := by
  obtain ⟨l, r, rfl, hl, hr⟩ := List.filterMap_eq_append_iff.1 h
  obtain ⟨skipped, event, rest, rfl, hnone, hevent, -⟩ := List.filterMap_eq_cons_iff.1 hr
  cases event with
  | statement st' =>
    cases hevent
    refine ⟨l ++ skipped, rest, by rw [List.append_assoc], ?_⟩
    have hskipped : statementsIn skipped = [] := List.filterMap_eq_nil_iff.2 hnone
    rw [statementsIn_append, hskipped, List.append_nil]
    exact hl
  | _ => cases hevent

namespace Chronicle

/-- **A campaign that a call got could be claimed at that moment.** -/
theorem claim_of_asked (h : Chronicle view s₀ events sys) {before later : List Event} {i : Nat}
    {q : String} (hcut : events = before ++ .did i (.asked q (.ok true)) :: later) (now : String) :
    (((view s₀).store.after (statementsIn before)).claim q now).1 = true := by
  induction h generalizing later with
  | init => cases (List.append_eq_nil_iff.1 hcut.symm).2
  | enter _ _ _ _ ih => exact ih hcut
  | @turn events sys h j call hcall turn sts hsts ih =>
    rcases cut_did (Engine.statementsIn_shown ..) hcut with ⟨later', hold⟩ | ⟨hmem, hbefore⟩
    · exact ih hold
    · rw [Engine.traceOf_shown, List.mem_map] at hmem
      obtain ⟨d, hd, heq⟩ := hmem
      cases heq
      have heffect := (h.reaches.path hcall).1.effect_step turn call.stage sys.state
      rw [Option.mem_toList.1 hd] at heffect
      rw [hbefore, ← h.store_eq]
      cases heffect with
      | ask hask =>
        rcases Connection.claim_cases hask with ⟨-, hwon, -⟩ | ⟨hlost, -⟩
        · exact (Store.claim_fst _ q now).2 ((Store.claim_fst _ q _).1 hwon)
        · exact absurd rfl hlost
      | mind hguard => cases hguard _ rfl
  | others h helse hsts ih =>
    have hnone : statementsIn [] = [] := rfl
    rcases cut_did hnone hcut with ⟨later', hold⟩ | ⟨hmem, -⟩
    · exact ih hold
    · cases hmem

end Chronicle

end Dispatch
end Mailshot
