import Mailshot.Dispatch.Engine

/-!
# Running a dispatch

`Engine.execute` lets a dispatch go on until it is over, nobody else having a turn.  Workers come
before the dispatcher, so that every message is settled before the next contact has its turn.

Every step in this order brings the end nearer (`nearer_step`).  The measure counts the stages that
are ahead, and inside sending what is left to do: contacts that wait, channels that a worker has not
tried, events that are not recorded.
-/

set_option autoImplicit false

namespace Mailshot
namespace Dispatch

/-- What a worker has left to do, with so many channels. -/
def Worker.rank (channels : Nat) : Worker → Nat
  | .calling _ _ tried => channels - tried + 2
  | .recording _ => 1

/-- What a dispatch that is sending has left to do. -/
def Run.rank (channels : Nat) (r : Run) : Nat :=
  r.waiting.length * (channels + 4) + (if r.next.isSome then channels + 3 else 0) +
    r.workers.foldr (fun w n => w.rank channels + n) 0

/-- The stages ahead, and what is left to do in this one. -/
def Stage.rank (channels : Nat) : Stage → Nat × Nat
  | .loading _ _ => (7, 0)
  | .linking _ _ => (6, 0)
  | .resolving _ _ groups => (5, groups.length)
  | .identifying _ _ => (4, 0)
  | .claiming _ _ _ => (3, 0)
  | .sending r => (2, r.rank channels)
  | .completing _ => (1, 0)
  | .ended _ => (0, 0)

/-- How a dispatch ended, if it is over. -/
def Stage.ending? : Stage → Option Ending
  | .ended ending => some ending
  | _ => none

/-- Whose turn it is when workers come first. -/
def Stage.turn : Stage → Engine.Turn
  | .sending r => if r.workers.isEmpty then .dispatcher else .worker 0
  | _ => .dispatcher

namespace Engine

variable {σ : Type} (e : Engine σ)

/-- The rank of a stage for the channels of an engine. -/
def rankOf (s : Stage) : Nat × Nat := s.rank e.failover.channels.length

/-! ## Every step counts -/

/-- Whatever the state, an action has a result of a kind. -/
def Yields {α : Type} (P : α → Prop) (m : StateM σ α) : Prop := ∀ s, P (m s).1

theorem yields_pure {α : Type} {P : α → Prop} {a : α} (h : P a) :
    Yields P (pure a : StateM σ α) := fun _ => h

theorem yields_bind {α β : Type} {P : β → Prop} (m : StateM σ α) {f : α → StateM σ β}
    (h : ∀ a, Yields P (f a)) : Yields P (m >>= f) := fun s => h (m s).1 (m s).2

/-- A stage is nearer to the end than another. -/
def Nearer (a b : Stage) : Prop := Prod.Lex (· < ·) (· < ·) (e.rankOf a) (e.rankOf b)

theorem nearer_sending {a b : Run}
    (h : a.rank e.failover.channels.length < b.rank e.failover.channels.length) :
    e.Nearer (.sending a) (.sending b) := .right _ h

theorem nearer_dispatcherStep (r : Run) (h : r.workers = []) :
    Yields (e.Nearer · (.sending r)) (e.dispatcherStep r) := by
  unfold dispatcherStep
  split
  · next contact address hn =>
    refine yields_bind _ fun answer => ?_
    split
    · refine yields_pure (e.nearer_sending ?_)
      simp only [Run.rank, hn, List.length_nil, Nat.zero_mul, Option.isSome_some,
        Option.isSome_none, if_true, Bool.false_eq_true, if_false]
      omega
    · refine yields_pure (e.nearer_sending ?_)
      simp [Run.rank, hn, h, Worker.rank]
  · next hn =>
    split
    · next contact rest hw =>
      split
      · refine yields_pure (e.nearer_sending ?_)
        simp [Run.rank, hn, hw, Nat.add_mul]
      · rw [if_pos (by rw [h, List.length_nil, limit]; omega)]
        refine yields_pure (e.nearer_sending ?_)
        simp [Run.rank, hn, hw, Nat.add_mul]
    · rw [if_pos (by rw [h]; rfl)]
      exact yields_pure (.left _ _ (by decide))

theorem nearer_workerStep (r : Run) (w : Worker) (ws : List Worker) (h : r.workers = w :: ws) :
    Yields (e.Nearer · (.sending r)) (e.workerStep r 0) := by
  unfold workerStep
  split
  · simp_all
  · next event he =>
    refine yields_bind _ fun _ => yields_pure (e.nearer_sending ?_)
    simp only [h, List.getElem?_cons_zero, Option.some.injEq] at he
    simp [Run.rank, h, he, Worker.rank]
  · next contact email tried he =>
    simp only [h, List.getElem?_cons_zero, Option.some.injEq] at he
    split
    · refine yields_bind _ fun _ => yields_pure (e.nearer_sending ?_)
      simp [Run.rank, afterCall, h, he, Worker.rank]
    · next channel hc =>
      have hlt := (List.getElem?_eq_some_iff.1 hc).1
      refine yields_bind _ fun attempt => yields_bind _ fun time =>
        yields_pure (e.nearer_sending ?_)
      unfold afterCall
      split <;> simp [Run.rank, h, he, Worker.rank]
      omega

/-- A step of whoever has the turn brings the end nearer. -/
theorem nearer_step (stage : Stage) (h : stage.ending? = none) :
    Yields (e.Nearer · stage) (e.step stage.turn stage) := by
  have ahead {m n i j : Nat} (h : m < n) : Prod.Lex (· < ·) (· < ·) (m, i) (n, j) := .left _ _ h
  cases stage with
  | sending r =>
    cases hw : r.workers with
    | nil => simpa [Stage.turn, hw, step] using e.nearer_dispatcherStep r hw
    | cons w ws => simpa [Stage.turn, hw, step] using e.nearer_workerStep r w ws hw
  | ended ending => simp [Stage.ending?] at h
  | loading id recipients =>
    refine yields_bind _ fun answer => ?_
    split
    · exact yields_pure (ahead (by decide))
    · split
      · split <;> exact yields_pure (ahead (by decide))
      · exact yields_pure (ahead (by decide))
  | linking id campaign =>
    refine yields_bind _ fun answer => ?_
    split <;> exact yields_pure (ahead (by decide))
  | resolving campaign audience groups =>
    cases groups with
    | nil => exact yields_pure (ahead (by decide))
    | cons g gs =>
      refine yields_bind _ fun answer => ?_
      split
      · exact yields_pure (ahead (by decide))
      · exact yields_pure (.right _ (by simp))
  | identifying campaign audience =>
    refine yields_bind _ fun answer => ?_
    split <;> exact yields_pure (ahead (by decide))
  | claiming campaign audience tenant =>
    refine yields_bind _ fun answer => ?_
    split
    · exact yields_pure (ahead (by decide))
    · exact yields_pure (ahead (by decide))
    · refine yields_pure ?_
      unfold start
      split <;> exact ahead (by decide)
  | completing report =>
    refine yields_bind _ fun answer => ?_
    split <;> exact yields_pure (ahead (by decide))

/-- Lets a dispatch go on until it is over. -/
def finish (stage : Stage) (s : σ) : Ending × σ :=
  match _h : stage.ending? with
  | some ending => (ending, s)
  | none =>
    let next := e.step stage.turn stage s
    finish next.1 next.2
termination_by e.rankOf stage
decreasing_by exact e.nearer_step stage _h s

/-- Dispatches a campaign. -/
def execute (id : String) (recipients : Recipients) : StateM σ Ending :=
  e.finish (.loading id recipients)

end Engine

end Dispatch
end Mailshot
