import Mailshot.Proofs.Store.Lifecycle

/-!
# Calls of two statements

Some calls look and then act, or act and then look why they could not: two statements, between which
others have their turns.  `Callers` is a connection and the calls that work on it, any of which may
have the next turn; a call that has its two turns without a break does what the call of that name
does (`run_schedule`, `run_requestCancel`, `run_complete`).  At most one of the two statements notes
the time, so that it is known of each call what the clock of the database shows for it.

A turn does to the store what one statement does, or nothing (`store_turn`), so a status that has
changed in the course of some turns was changed by the statement of one of them (`exists_moved`).
A call that fails changes nothing (`connection_turn_of_error`), and what an answer was given for is
what the call saw in its own two turns (`two_turns`).
-/

set_option autoImplicit false

namespace Mailshot

open Store (Statement)

namespace Callers

/-! ## One call -/

/-- What somebody wants of the store. -/
inductive Call where
  /-- A draft is to be set a moment. -/
  | schedule (id now : String) (time : Instant)
  /-- Sending is to stop. -/
  | requestCancel (id now : String)
  /-- A campaign is to be completed. -/
  | complete (id now : String)
  /-- A statement is to be carried out. -/
  | single (st : Statement)

/-- How far a call is. -/
inductive Stage where
  /-- It had no turn yet. -/
  | begun
  /-- It needs a second statement. -/
  | halfway
  /-- It has its answer. -/
  | ended (answer : Except CampaignError Unit)
  /-- It is done, and what it was told is not looked at. -/
  | done

namespace Stage

/-- Whether nothing is left to do. -/
def isOver : Stage → Bool
  | begun | halfway => false
  | ended _ | done => true

/-- A call that looks first goes on if it may. -/
def ofCheck : Except CampaignError Unit → Stage
  | .ok () => halfway
  | .error e => ended (.error e)

/-- A call that acts first is done if that had an effect. -/
def ofHit : Bool → Stage
  | true => ended (.ok ())
  | false => halfway

theorem eq_ok_of_ofCheck {answer : Except CampaignError Unit} (h : ofCheck answer = halfway) :
    answer = .ok () := by
  cases answer with
  | ok => rfl
  | error => cases h

/-- To look is never enough. -/
theorem ofCheck_ne (answer : Except CampaignError Unit) : ofCheck answer ≠ ended (.ok ()) := by
  cases answer <;> exact fun h => by cases h

theorem eq_false_of_ofHit {hit : Bool} (h : ofHit hit = halfway) : hit = false := by
  cases hit with
  | false => rfl
  | true => cases h

end Stage

namespace Call

/-- The next statement of a call, and how far the call is then. -/
def act : Call → Stage → Store → Stage × Store
  | schedule id _ _, .begun, s => (.ofCheck (s.checkSchedulable id), s)
  | schedule id now time, .halfway, s => (.ended (.ok ()), (s.markScheduled id now time).2)
  | requestCancel id now, .begun, s =>
    (.ofHit (s.markCancelled id now).1, (s.markCancelled id now).2)
  | requestCancel id _, .halfway, s => (.ended (.error (s.explainCancel id)), s)
  | complete id now, .begun, s => (.ofHit (s.markCompleted id now).1, (s.markCompleted id now).2)
  | complete id _, .halfway, s => (.ended (.error (s.explainComplete id)), s)
  | single st, .begun, s => (.done, st.apply s)
  | _, stage, s => (stage, s)

/-- The next turn of a call. -/
def turn (call : Call) (stage : Stage) : StateM Connection Stage := fun c =>
  if stage.isOver then (stage, c)
  else if c.isOpen then
    ((call.act stage c.store).1, { c with store := (call.act stage c.store).2 })
  else (.ended (.error (.store .closed)), c)

/-- The statement that may change the store in the next turn of a call. -/
def statement? : Call → Stage → Option Statement
  | schedule id now time, .halfway => some (.markScheduled id now time)
  | requestCancel id now, .begun => some (.markCancelled id now)
  | complete id now, .begun => some (.markCompleted id now)
  | single st, .begun => some st
  | _, _ => none

theorem turn_of_not_isOver {stage : Stage} (h : stage.isOver = false) (call : Call)
    (c : Connection) :
    call.turn stage c =
      if c.isOpen then
        ((call.act stage c.store).1, { c with store := (call.act stage c.store).2 })
      else (.ended (.error (.store .closed)), c) := by
  rw [turn, h, if_neg Bool.false_ne_true]

/-- A turn that is not refused is the next statement of the call. -/
theorem turn_of_ne_closed {stage : Stage} (h : stage.isOver = false) {call : Call} {c : Connection}
    (hne : (call.turn stage c).1 ≠ .ended (.error (.store .closed))) :
    call.turn stage c =
      ((call.act stage c.store).1, { c with store := (call.act stage c.store).2 }) := by
  rw [turn_of_not_isOver h] at hne ⊢
  split
  · rfl
  · next hclosed =>
    rw [if_neg hclosed] at hne
    exact absurd rfl hne

theorem statement?_of_isOver {stage : Stage} (h : stage.isOver = true) (call : Call) :
    call.statement? stage = none := by
  cases stage with
  | begun | halfway => cases h
  | ended | done => cases call <;> rfl

theorem act_snd (call : Call) (stage : Stage) (s : Store) :
    (call.act stage s).2 = match call.statement? stage with
      | some st => st.apply s
      | none => s := by
  cases call <;> cases stage <;> rfl

/-- A statement that leads to no answer, or to an error, changes nothing. -/
theorem act_cases (call : Call) (stage : Stage) (s : Store) :
    (call.act stage s).2 = s ∨ (call.act stage s).1 = .ended (.ok ()) ∨
      (call.act stage s).1 = .done := by
  have hmiss (id : String) (statuses : List Status) (f : CampaignRow → CampaignRow) :
      (s.setWhere id statuses f).2 = s ∨
        Stage.ofHit (s.setWhere id statuses f).1 = .ended (.ok ()) := by
    cases h : (s.setWhere id statuses f).1 with
    | true => exact .inr rfl
    | false => exact .inl (s.setWhere_snd id statuses f h)
  cases stage with
  | begun =>
    cases call with
    | schedule => exact .inl rfl
    | requestCancel id now => exact (hmiss id _ _).imp_right .inl
    | complete id now => exact (hmiss id _ _).imp_right .inl
    | single => exact .inr (.inr rfl)
  | halfway =>
    cases call with
    | schedule => exact .inr (.inl rfl)
    | _ => exact .inl rfl
  | ended | done => cases call <;> exact .inl rfl

/-- A turn changes nothing, or it is the last one and no error. -/
theorem turn_cases (call : Call) (stage : Stage) (c : Connection) :
    (call.turn stage c).2 = c ∨ (call.turn stage c).1 = .ended (.ok ()) ∨
      (call.turn stage c).1 = .done := by
  rw [turn]
  split
  · exact .inl rfl
  · split
    · refine (call.act_cases stage c.store).imp_left fun hsame => ?_
      rw [hsame]
    · exact .inl rfl

/-- A call that had a turn is not where it began. -/
theorem turn_begun_ne (call : Call) (c : Connection) : (call.turn .begun c).1 ≠ .begun := by
  have hcheck (answer : Except CampaignError Unit) : Stage.ofCheck answer ≠ .begun := by
    cases answer <;> exact fun h => by cases h
  have hhit (hit : Bool) : Stage.ofHit hit ≠ .begun := by
    cases hit <;> exact fun h => by cases h
  rw [turn_of_not_isOver rfl]
  split
  · cases call with
    | schedule => exact hcheck _
    | requestCancel | complete => exact hhit _
    | single => exact fun h => by cases h
  · exact fun h => by cases h

/-- A second turn is the last one. -/
theorem isOver_turn_halfway {call : Call} (h : ∀ st, call ≠ single st) (c : Connection) :
    (call.turn .halfway c).1.isOver = true := by
  rw [turn_of_not_isOver rfl]
  split
  · cases call with
    | single st => exact absurd rfl (h st)
    | _ => rfl
  · rfl

/-! ### Without a break -/

/-- A call without a break. -/
def run (call : Call) : StateM Connection Stage := call.turn .begun >>= call.turn

/-- Over a connection that was closed there is only one answer, so it is enough to know what a call
does over one that is open. -/
theorem run_eq {call : Call} {f : Store → Except CampaignError Unit × Store}
    (h : ∀ s, call.turn (call.act .begun s).1 ⟨(call.act .begun s).2, true⟩ =
      (.ended (f s).1, ⟨(f s).2, true⟩)) :
    call.run = .ended <$> Connection.call .store f := by
  funext ⟨s, isOpen⟩
  cases isOpen with
  | false => rfl
  | true => exact h s

theorem run_schedule (id now : String) (time : Instant) :
    (schedule id now time).run = .ended <$> Connection.schedule id now time := by
  refine run_eq fun s => ?_
  rw [act, Store.schedule]
  cases s.checkSchedulable id <;> rfl

theorem run_requestCancel (id now : String) :
    (requestCancel id now).run = .ended <$> Connection.requestCancel id now := by
  refine run_eq fun s => ?_
  rw [act, Store.requestCancel_eq]
  cases (s.markCancelled id now).1 <;> rfl

theorem run_complete (id now : String) :
    (complete id now).run = .ended <$> Connection.complete id now := by
  refine run_eq fun s => ?_
  rw [act, Store.complete_eq]
  cases (s.markCompleted id now).1 <;> rfl

end Call

/-! ## Many calls -/

/-- Who has the next turn. -/
inductive Turn where
  /-- The call in a place. -/
  | call (i : Nat)
  /-- Somebody who closes the connection. -/
  | close
deriving DecidableEq

end Callers

/-- Calls that work on one connection. -/
structure Callers where
  /-- The connection. -/
  connection : Connection
  /-- The calls, and how far each of them is. -/
  calls : List (Callers.Call × Callers.Stage)

namespace Callers

/-- What is stored. -/
def store (cs : Callers) : Store := cs.connection.store

/-- Where a campaign stands, as it is written. -/
def status? (cs : Callers) (id : String) : Option String := cs.store.status? id

/-- After one turn. -/
def turn (cs : Callers) : Turn → Callers
  | .close => { cs with connection := (Connection.close cs.connection).2 }
  | .call i =>
    match cs.calls[i]? with
    | none => cs
    | some (call, stage) =>
      { connection := (call.turn stage cs.connection).2
        calls := cs.calls.set i (call, (call.turn stage cs.connection).1) }

/-- After some turns. -/
def play (cs : Callers) (turns : List Turn) : Callers := turns.foldl turn cs

/-- The statement that may change the store in a turn. -/
def statement? (cs : Callers) : Turn → Option Statement
  | .close => none
  | .call i =>
    match cs.calls[i]? with
    | none => none
    | some (call, stage) => if cs.connection.isOpen then call.statement? stage else none

variable {cs : Callers} {i : Nat} {call : Call} {stage : Stage}

theorem play_append (cs : Callers) (turns turns' : List Turn) :
    cs.play (turns ++ turns') = (cs.play turns).play turns' := List.foldl_append

theorem play_cons (cs : Callers) (who : Turn) (turns : List Turn) :
    cs.play (who :: turns) = (cs.turn who).play turns := rfl

theorem turn_call (h : cs.calls[i]? = some (call, stage)) :
    cs.turn (.call i) = { connection := (call.turn stage cs.connection).2
                          calls := cs.calls.set i (call, (call.turn stage cs.connection).1) } := by
  rw [turn, h]

theorem store_turn_call (h : cs.calls[i]? = some (call, stage)) :
    (cs.turn (.call i)).store = (call.turn stage cs.connection).2.store := by
  rw [turn_call h, store]

/-- **A turn does to the store what its statement does.** -/
theorem store_turn (cs : Callers) (who : Turn) :
    (cs.turn who).store = match cs.statement? who with
      | some st => st.apply cs.store
      | none => cs.store := by
  cases who with
  | close => rfl
  | call i =>
    cases h : cs.calls[i]? with
    | none => rw [turn, statement?, h]
    | some p =>
      obtain ⟨call, stage⟩ := p
      rw [store_turn_call h, statement?, h, Call.turn, store]
      dsimp only
      by_cases hover : stage.isOver = true
      · rw [if_pos hover, call.statement?_of_isOver hover, ite_self]
      · rw [if_neg hover]
        split
        · exact call.act_snd stage cs.connection.store
        · rfl

/-! ### How far a call has come -/

/-- A turn of somebody else leaves a call as far as it is. -/
theorem calls_turn_of_ne {who : Turn} (h : who ≠ .call i) :
    (cs.turn who).calls[i]? = cs.calls[i]? := by
  cases who with
  | close => rfl
  | call j =>
    have hne : j ≠ i := fun heq => h (congrArg Turn.call heq)
    rw [turn]
    split
    · rfl
    · exact List.getElem?_set_ne hne

theorem calls_turn_self (h : cs.calls[i]? = some (call, stage)) :
    (cs.turn (.call i)).calls[i]? = some (call, (call.turn stage cs.connection).1) := by
  rw [turn_call h]
  exact List.getElem?_set_self (List.getElem?_eq_some_iff.1 h).1

theorem calls_play_of_notMem {turns : List Turn} (h : .call i ∉ turns) :
    (cs.play turns).calls[i]? = cs.calls[i]? := by
  induction turns generalizing cs with
  | nil => rfl
  | cons who turns ih =>
    obtain ⟨hne, hrest⟩ := List.ne_and_not_mem_of_not_mem_cons h
    rw [play_cons, ih hrest, calls_turn_of_ne (Ne.symm hne)]

/-- A call never becomes another one. -/
theorem calls_play (h : cs.calls[i]? = some (call, stage)) (turns : List Turn) :
    ∃ stage', (cs.play turns).calls[i]? = some (call, stage') := by
  induction turns generalizing cs stage with
  | nil => exact ⟨stage, h⟩
  | cons who turns ih =>
    by_cases hwho : who = .call i
    · subst hwho
      exact ih (calls_turn_self h)
    · exact ih ((calls_turn_of_ne hwho).trans h)

/-- A call that is over stays so. -/
theorem calls_play_of_isOver (h : cs.calls[i]? = some (call, stage)) (hover : stage.isOver = true)
    (turns : List Turn) : (cs.play turns).calls[i]? = some (call, stage) := by
  induction turns generalizing cs with
  | nil => exact h
  | cons who turns ih =>
    refine ih ?_
    by_cases hwho : who = .call i
    · subst hwho
      rw [calls_turn_self h, Call.turn, if_pos hover]
    · exact (calls_turn_of_ne hwho).trans h

/-- A call that has come further had a turn. -/
theorem exists_turn {turns : List Turn} {p : Call × Stage} (h : cs.calls[i]? = some p)
    (hne : (cs.play turns).calls[i]? ≠ some p) :
    ∃ earlier later, turns = earlier ++ .call i :: later ∧ .call i ∉ earlier ∧
      (cs.play earlier).calls[i]? = some p := by
  have hmem : Turn.call i ∈ turns :=
    Decidable.byContradiction fun hnot => hne ((calls_play_of_notMem hnot).trans h)
  obtain ⟨earlier, later, rfl, hfirst⟩ := List.eq_append_cons_of_mem hmem
  exact ⟨earlier, later, rfl, hfirst, (calls_play_of_notMem hfirst).trans h⟩

/-- A call had two turns, with those of others around them. -/
structure TwoTurns (cs : Callers) (i : Nat) (call : Call)
    (turns earlier between later : List Turn) : Prop where
  /-- These are all the turns. -/
  eq : turns = earlier ++ .call i :: (between ++ .call i :: later)
  /-- In between others had theirs. -/
  others : .call i ∉ between
  /-- The first turn is the first one of the call. -/
  begun : (cs.play earlier).calls[i]? = some (call, .begun)
  /-- It was not enough. -/
  first : (call.turn .begun (cs.play earlier).connection).1 = .halfway
  /-- The second turn goes on from there. -/
  halfway : (cs.play (earlier ++ .call i :: between)).calls[i]? = some (call, .halfway)

/-- **A call is answered in its first turn or in its second one.** -/
theorem two_turns {turns : List Turn} {answer : Except CampaignError Unit}
    (hcall : ∀ st, call ≠ .single st) (hbegun : cs.calls[i]? = some (call, .begun))
    (hended : (cs.play turns).calls[i]? = some (call, .ended answer)) :
    (∃ earlier later, turns = earlier ++ .call i :: later ∧
        (call.turn .begun (cs.play earlier).connection).1 = .ended answer) ∨
      ∃ earlier between later, cs.TwoTurns i call turns earlier between later ∧
        (call.turn .halfway (cs.play (earlier ++ .call i :: between)).connection).1 =
          .ended answer := by
  obtain ⟨earlier, rest, rfl, -, hbefore⟩ := exists_turn hbegun (by
    rw [hended]
    exact fun h => by cases h)
  have hstage := calls_turn_self hbefore
  rw [play_append, play_cons] at hended
  generalize hnext : (call.turn .begun (cs.play earlier).connection).1 = next at hstage
  cases next with
  | begun => exact absurd hnext (call.turn_begun_ne _)
  | ended answer' =>
    rw [calls_play_of_isOver hstage rfl] at hended
    cases hended
    exact .inl ⟨earlier, rest, rfl, hnext⟩
  | done =>
    rw [calls_play_of_isOver hstage rfl] at hended
    cases hended
  | halfway =>
    obtain ⟨between, later, rfl, hothers, hbefore'⟩ := exists_turn hstage (by
      rw [hended]
      exact fun h => by cases h)
    rw [play_append, play_cons,
      calls_play_of_isOver (calls_turn_self hbefore') (Call.isOver_turn_halfway hcall _)] at hended
    have hplay : cs.play (earlier ++ .call i :: between) =
        ((cs.play earlier).turn (.call i)).play between := by
      rw [play_append, play_cons]
    rw [← hplay] at hbefore' hended
    exact .inr ⟨earlier, between, later, ⟨rfl, hothers, hbefore, hnext, hbefore'⟩,
      (Prod.mk.inj (Option.some.inj hended)).2⟩

/-- What a turn of a call leaves, unless it is refused. -/
theorem store_concat {turns : List Turn} (h : (cs.play turns).calls[i]? = some (call, stage))
    (hstage : stage.isOver = false)
    (hne : (call.turn stage (cs.play turns).connection).1 ≠ .ended (.error (.store .closed))) :
    (cs.play (turns ++ [.call i])).store = (call.act stage (cs.play turns).store).2 := by
  rw [play_append, play_cons]
  show ((cs.play turns).turn (.call i)).store = _
  rw [store_turn_call h, Call.turn_of_ne_closed hstage hne, store]

/-- **A call that fails changes nothing.** -/
theorem connection_turn_of_error {turns : List Turn} {err : CampaignError}
    (hcall : cs.calls[i]? = some (call, stage))
    (hended : (cs.play turns).calls[i]? = some (call, .ended (.error err)))
    {earlier later : List Turn} (hturns : turns = earlier ++ .call i :: later) :
    (cs.play (earlier ++ [.call i])).connection = (cs.play earlier).connection := by
  obtain ⟨stage', hbefore⟩ := calls_play hcall earlier
  have hstage := calls_turn_self hbefore
  rw [hturns, play_append, play_cons] at hended
  rw [play_append, play_cons, turn_call hbefore]
  rcases call.turn_cases stage' (cs.play earlier).connection with hsame | hok | hover
  · exact hsame
  · rw [hok] at hstage
    rw [calls_play_of_isOver hstage rfl] at hended
    cases hended
  · rw [hover] at hstage
    rw [calls_play_of_isOver hstage rfl] at hended
    cases hended

/-! ### What others do to a campaign -/

/-- In the course of some turns a statement moves a campaign on. -/
def Moved (cs : Callers) (turns : List Turn) (id : String) (st : Statement)
    (source target : Option String) : Prop :=
  ∃ earlier who later, turns = earlier ++ who :: later ∧
    (cs.play earlier).statement? who = some st ∧ (cs.play earlier).status? id = source ∧
    (cs.play (earlier ++ [who])).status? id = target ∧ st.Moves id source target

/-- **If it is different after some turns where a campaign stands, then one of them moved it.** -/
theorem exists_moved {turns : List Turn} {id : String} {P : Option String → Prop}
    (hbefore : P (cs.status? id)) (hafter : ¬ P ((cs.play turns).status? id)) :
    ∃ st source target, cs.Moved turns id st source target ∧ P source ∧ ¬ P target := by
  induction turns generalizing cs with
  | nil => exact absurd hbefore hafter
  | cons who turns ih =>
    by_cases hnext : P ((cs.turn who).status? id)
    · obtain ⟨st, source, target, ⟨earlier, who', later, rfl, hmoved⟩, h⟩ := ih hnext hafter
      exact ⟨st, source, target, ⟨who :: earlier, who', later, rfl, hmoved⟩, h⟩
    · have hstore := cs.store_turn who
      cases hst : cs.statement? who with
      | none =>
        rw [hst] at hstore
        rw [status?, hstore] at hnext
        exact absurd hbefore hnext
      | some st =>
        rw [hst] at hstore
        have hmoves : st.Moves id (cs.status? id) ((cs.turn who).status? id) := by
          rw [status?, status?, hstore]
          rcases st.status?_apply cs.store id with hsame | hmoves
          · rw [status?, hstore, hsame] at hnext
            exact absurd hbefore hnext
          · exact hmoves
        exact ⟨st, _, _, ⟨[], who, turns, rfl, hst, rfl, rfl, hmoves⟩, hbefore, hnext⟩

/-- So did somebody between two turns of a call. -/
theorem exists_moved_between {earlier between : List Turn} {who : Turn} {id : String}
    {P : Option String → Prop} (hbefore : P ((cs.play (earlier ++ [who])).status? id))
    (hafter : ¬ P ((cs.play (earlier ++ who :: between)).status? id)) :
    ∃ st source target, (cs.play (earlier ++ [who])).Moved between id st source target ∧
      P source ∧ ¬ P target := by
  rw [List.append_cons, play_append] at hafter
  exact exists_moved hbefore hafter

namespace TwoTurns

variable {turns earlier between later : List Turn}

/-- What a call does in the first of two turns. -/
theorem act_begun (h : cs.TwoTurns i call turns earlier between later) :
    (call.act .begun (cs.play earlier).store).1 = .halfway ∧
      (cs.play (earlier ++ [.call i])).store = (call.act .begun (cs.play earlier).store).2 := by
  have hne : (call.turn .begun (cs.play earlier).connection).1 ≠
      .ended (.error (.store .closed)) := by
    rw [h.first]
    exact fun heq => by cases heq
  have hfirst := h.first
  rw [Call.turn_of_ne_closed rfl hne] at hfirst
  exact ⟨hfirst, store_concat h.begun rfl hne⟩

end TwoTurns
end Callers
end Mailshot
