/-!
# The life of a campaign

A campaign is a draft, may be scheduled, is sending once it has been claimed, and is completed in
the end.  `Status.canBecome` holds the four steps there are; a campaign never goes back.
-/

set_option autoImplicit false

namespace Mailshot

/-- Where a campaign stands. -/
inductive Status where
  /-- It is being written. -/
  | draft
  /-- It waits for a moment that was set. -/
  | scheduled
  /-- It is being sent. -/
  | sending
  /-- It was sent. -/
  | completed
deriving DecidableEq, Inhabited

namespace Status

/-- All of them, in the order in which they are reached. -/
def all : List Status := [draft, scheduled, sending, completed]

/-- How a status is written. -/
def name : Status → String
  | draft => "draft"
  | scheduled => "scheduled"
  | sending => "sending"
  | completed => "completed"

/-- The status of a name. -/
def ofName? (s : String) : Option Status :=
  if s = "draft" then some draft
  else if s = "scheduled" then some scheduled
  else if s = "sending" then some sending
  else if s = "completed" then some completed
  else none

/-- A status is read back from its name. -/
theorem ofName?_name (s : Status) : ofName? s.name = some s := by
  cases s <;> rfl

/-- Only the name of a status reads as that status. -/
theorem eq_name_of_ofName? {s : String} {status : Status} (h : ofName? s = some status) :
    s = status.name := by
  unfold ofName? at h
  split at h
  · simp_all [name]; subst h; rfl
  · split at h
    · simp_all; subst h; rfl
    · split at h
      · simp_all; subst h; rfl
      · split at h
        · simp_all; subst h; rfl
        · simp at h

/-- Whether a campaign may go from one status to another. -/
def canBecome : Status → Status → Bool
  | draft, scheduled | draft, sending | scheduled, sending | sending, completed => true
  | _, _ => false

/-- Whether sending may begin from a status. -/
def isSendable (s : Status) : Bool := s.canBecome sending

end Status

end Mailshot
