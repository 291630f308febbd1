import Mailshot.Proofs.Dispatch.Lawful

/-!
# Dispatches side by side

A `System` is a state and the calls that work on it.  Any call may have the next turn, new calls may
come in at any time, and in between others may do to the store what they like, as long as they
neither claim nor complete a campaign.  `Reaches` collects what may come of it, together with the
deeds of all calls in the order in which they were done, each with the place of its call.

What one call does is on a path of its own (`Reaches.path`), because a path leaves open what others
do between two steps; so all the results about paths carry over (`Reaches.since`).  What the store
has to say is known from the deeds alone, by `Engine.Lawful.effect_step`.
-/

set_option autoImplicit false

namespace Mailshot
namespace Dispatch

/-- A call for a campaign to be dispatched. -/
structure Call (σ : Type) where
  /-- What it works with. -/
  engine : Engine σ
  /-- The campaign. -/
  id : String
  /-- Whom the campaign is dispatched to. -/
  recipients : Recipients
  /-- What it does next. -/
  stage : Stage

/-- Calls that work on one state. -/
structure System (σ : Type) where
  /-- The state. -/
  state : σ
  /-- The calls, in the order in which they came. -/
  calls : List (Call σ)

/-- What calls did, each deed with the place of its call. -/
abbrev Trace := List (Nat × Deed)

variable {σ : Type} {view : σ → Connection} {s₀ : σ} {trace : Trace} {sys : System σ}

/-- What a system may come to from a state, and what was done on the way. -/
inductive Reaches (view : σ → Connection) (s₀ : σ) : Trace → System σ → Prop
  /-- There is no call yet. -/
  | init : Reaches view s₀ [] ⟨s₀, []⟩
  /-- A call comes in. -/
  | enter {trace : Trace} {sys : System σ} (h : Reaches view s₀ trace sys) {engine : Engine σ}
      (hlawful : engine.Lawful view) (id : String) (recipients : Recipients) :
      Reaches view s₀ trace
        { sys with calls := sys.calls ++ [⟨engine, id, recipients, .loading id recipients⟩] }
  /-- A call has a turn. -/
  | turn {trace : Trace} {sys : System σ} (h : Reaches view s₀ trace sys) {i : Nat} {call : Call σ}
      (hcall : sys.calls[i]? = some call) (turn : Engine.Turn) :
      Reaches view s₀
        (trace ++ (call.engine.deed turn call.stage sys.state).toList.map fun d => (i, d))
        { state := (call.engine.step turn call.stage sys.state).2
          calls := sys.calls.set i
            { call with stage := (call.engine.step turn call.stage sys.state).1 } }
  /-- Others have a turn. -/
  | others {trace : Trace} {sys : System σ} (h : Reaches view s₀ trace sys) {s : σ}
      (helse : Store.Elsewhere (view sys.state).store (view s).store) :
      Reaches view s₀ trace { sys with state := s }

/-! ## The deeds of one call -/

/-- What was done by the call in a place. -/
def doneBy (i : Nat) (trace : Trace) : List Deed := (trace.filter fun p => p.1 = i).map (·.2)

theorem mem_doneBy {i : Nat} {d : Deed} : d ∈ doneBy i trace ↔ (i, d) ∈ trace := by
  simp [doneBy]

theorem doneBy_append (i : Nat) (trace trace' : Trace) :
    doneBy i (trace ++ trace') = doneBy i trace ++ doneBy i trace' := by
  rw [doneBy, List.filter_append, List.map_append]
  rfl

theorem doneBy_map (i j : Nat) (ds : List Deed) :
    doneBy i (ds.map fun d => (j, d)) = if j = i then ds else [] := by
  rw [doneBy, List.filter_map, List.map_map]
  split
  · next h => simp [Function.comp_def, h]
  · next h => simp [Function.comp_def, h]

/-- When a call has come in, the call in a place is one that was there, or it is the new one. -/
theorem getElem?_concat_cases {α : Type} {calls : List α} {new call : α} {i : Nat}
    (h : (calls ++ [new])[i]? = some call) :
    calls[i]? = some call ∨ ¬ i < calls.length ∧ call = new := by
  rw [List.getElem?_append] at h
  split at h
  · exact .inl h
  · next hge =>
    rw [List.getElem?_singleton] at h
    split at h
    · exact .inr ⟨hge, (Option.some.inj h).symm⟩
    · cases h

/-- When a call had a turn, the call in a place is this one, or it is as it was. -/
theorem getElem?_set_cases {α : Type} {calls : List α} {new call : α} {i j : Nat}
    (h : (calls.set j new)[i]? = some call) :
    j = i ∧ call = new ∨ j ≠ i ∧ calls[i]? = some call := by
  rw [List.getElem?_set] at h
  split at h
  · next heq =>
    split at h
    · exact .inl ⟨heq, (Option.some.inj h).symm⟩
    · cases h
  · next hne => exact .inr ⟨hne, h⟩

/-- Each call is on a path of its own, with an engine of some kind, and deeds are done by calls that
came. -/
structure System.Paths (P : Engine σ → Prop) (trace : Trace) (sys : System σ) : Prop where
  /-- Deeds are done by calls that came. -/
  known : ∀ p ∈ trace, p.1 < sys.calls.length
  /-- A call is on the path on which its deeds are done. -/
  path : ∀ i (call : Call σ), sys.calls[i]? = some call → P call.engine ∧
    call.engine.Path (.loading call.id call.recipients) (doneBy i trace) call.stage

namespace System.Paths

variable {P : Engine σ → Prop}

/-- A call that did not come did nothing. -/
theorem doneBy_eq_nil (h : sys.Paths P trace) {i : Nat} (hi : sys.calls.length ≤ i) :
    doneBy i trace = [] := by
  rw [List.eq_nil_iff_forall_not_mem]
  intro d hd
  exact Nat.not_lt_of_le hi (h.known _ (mem_doneBy.1 hd))

theorem enter (h : sys.Paths P trace) {engine : Engine σ} (hengine : P engine) (id : String)
    (recipients : Recipients) :
    System.Paths P trace
      { sys with calls := sys.calls ++ [⟨engine, id, recipients, .loading id recipients⟩] } where
  known p hp := by
    rw [List.length_append]
    exact Nat.lt_add_right _ (h.known p hp)
  path i call hcall := by
    rcases getElem?_concat_cases hcall with hcall | ⟨hge, rfl⟩
    · exact h.path i call hcall
    · rw [h.doneBy_eq_nil (Nat.le_of_not_lt hge)]
      exact ⟨hengine, .refl⟩

theorem turn (h : sys.Paths P trace) {i : Nat} {call : Call σ} (hcall : sys.calls[i]? = some call)
    (turn : Engine.Turn) :
    System.Paths P
      (trace ++ (call.engine.deed turn call.stage sys.state).toList.map fun d => (i, d))
      { state := (call.engine.step turn call.stage sys.state).2
        calls := sys.calls.set i
          { call with stage := (call.engine.step turn call.stage sys.state).1 } } where
  known p hp := by
    rw [List.length_set]
    rcases List.mem_append.1 hp with hp | hp
    · exact h.known p hp
    · obtain ⟨d, -, rfl⟩ := List.mem_map.1 hp
      exact (List.getElem?_eq_some_iff.1 hcall).1
  path j other hother := by
    rw [doneBy_append, doneBy_map]
    rcases getElem?_set_cases hother with ⟨rfl, rfl⟩ | ⟨hij, hother⟩
    · rw [if_pos rfl]
      exact ⟨(h.path i call hcall).1, (h.path i call hcall).2.step turn sys.state⟩
    · rw [if_neg hij, List.append_nil]
      exact h.path j other hother

end System.Paths

namespace Reaches

theorem paths (h : Reaches view s₀ trace sys) : sys.Paths (·.Lawful view) trace := by
  induction h with
  | init => exact ⟨fun _ hp => absurd hp List.not_mem_nil, fun i _ hcall => by cases hcall⟩
  | enter _ hlawful id recipients ih => exact ih.enter hlawful id recipients
  | turn _ hcall turn ih => exact ih.turn hcall turn
  | others _ _ ih => exact ⟨ih.known, ih.path⟩

/-- Deeds are done by calls that came. -/
theorem lt_of_mem (h : Reaches view s₀ trace sys) {p : Nat × Deed} (hp : p ∈ trace) :
    p.1 < sys.calls.length :=
  h.paths.known p hp

/-- **Each call is on a path of its own.** -/
theorem path (h : Reaches view s₀ trace sys) {i : Nat} {call : Call σ}
    (hcall : sys.calls[i]? = some call) :
    call.engine.Lawful view ∧
      call.engine.Path (.loading call.id call.recipients) (doneBy i trace) call.stage :=
  h.paths.path i call hcall

/-- What was done was done by a call. -/
theorem exists_call (h : Reaches view s₀ trace sys) {i : Nat} {d : Deed} (hd : (i, d) ∈ trace) :
    ∃ call, sys.calls[i]? = some call :=
  ⟨_, List.getElem?_eq_getElem (h.lt_of_mem hd)⟩

/-- **A call that did anything has asked for its campaign**, on behalf of an audience in which no
identifier comes twice, and went on from there in one of the ways there are. -/
theorem since (h : Reaches view s₀ trace sys) {i : Nat} {call : Call σ}
    (hcall : sys.calls[i]? = some call) :
    (doneBy i trace = [] ∧ call.engine.Early call.id call.stage) ∨
      ∃ campaign audience tenant, campaign.id = call.id ∧ audience.Indexed ∧
        call.engine.Since campaign audience tenant (doneBy i trace) call.stage := by
  obtain ⟨hlawful, hpath⟩ := h.path hcall
  rcases hpath.through_claiming with
    hearly | ⟨campaign, audience, tenant, hreads, hindexed, -, hafter⟩
  · exact .inl hearly
  · exact .inr ⟨campaign, audience, tenant, hlawful.id_eq hreads, hindexed, hafter.since⟩

end Reaches

/-! ## Given turns -/

namespace System

/-- A turn of the call in a place, and what is done in it. -/
def turn (sys : System σ) (i : Nat) (turn : Engine.Turn) : Trace × System σ :=
  match sys.calls[i]? with
  | none => ([], sys)
  | some call =>
    ((call.engine.deed turn call.stage sys.state).toList.map fun d => (i, d),
      { state := (call.engine.step turn call.stage sys.state).2
        calls := sys.calls.set i
          { call with stage := (call.engine.step turn call.stage sys.state).1 } })

/-- Turns in an order, and what is done in them. -/
def play (sys : System σ) : List (Nat × Engine.Turn) → Trace × System σ
  | [] => ([], sys)
  | (i, turn) :: rest =>
    let next := sys.turn i turn
    let later := next.2.play rest
    (next.1 ++ later.1, later.2)

end System

theorem Reaches.play (h : Reaches view s₀ trace sys) (turns : List (Nat × Engine.Turn)) :
    Reaches view s₀ (trace ++ (sys.play turns).1) (sys.play turns).2 := by
  induction turns generalizing trace sys with
  | nil => rwa [System.play, List.append_nil]
  | cons p rest ih =>
    obtain ⟨i, turn⟩ := p
    have hnext : Reaches view s₀ (trace ++ (sys.turn i turn).1) (sys.turn i turn).2 := by
      rw [System.turn]
      split
      · rwa [List.append_nil]
      · next call hcall => exact h.turn hcall turn
    rw [System.play, ← List.append_assoc]
    exact ih hnext

namespace Sample

theorem lawful_engine (concurrency : Nat) : (engine .console concurrency).Lawful id := by
  refine Engine.lawful_ofStore _ _ _ _ _ (fun channel hchannel email => ?_) (minds_pure _)
  cases List.mem_singleton.1 hchannel
  exact minds_pure _

/-- A call for the draft to be dispatched, with room for so many workers. -/
def call (concurrency : Nat) : Call Connection :=
  ⟨engine .console concurrency, campaign.id, .list contacts, .loading campaign.id (.list contacts)⟩

/-- Two calls come in. -/
theorem reaches_calls (m n : Nat) :
    Reaches id connection [] ⟨connection, [call m, call n]⟩ :=
  (Reaches.init.enter (lawful_engine m) campaign.id (.list contacts)).enter (lawful_engine n)
    campaign.id (.list contacts)

end Sample

end Dispatch
end Mailshot
