import Mailshot.Store.Campaigns
import Mailshot.Store.Contacts
import Mailshot.Store.Events
import Mailshot.Store.Rows

/-!
# Connections

A `Connection` gives access to a store until it is closed; after that every statement fails and the
store stays as it is.  The calls of a connection are those of the store behind that one check.
-/

set_option autoImplicit false

namespace Mailshot

/-- Access to a store. -/
structure Connection where
  /-- The store. -/
  store : Store
  /-- Whether it can still be reached. -/
  isOpen : Bool
deriving DecidableEq, Inhabited

namespace Connection

variable {ε α : Type}

/-- A new connection to a store. -/
def ofStore (s : Store) : Connection := ⟨s, true⟩

/-- Reads from the store; `refuse` says what a fault of the store is to the caller. -/
def read (refuse : StoreFault → ε) (f : Store → Except ε α) : StateM Connection (Except ε α) :=
  fun c => if c.isOpen then (f c.store, c) else (.error (refuse .closed), c)

/-- Carries out a call that may change the store whatever it answers. -/
def call (refuse : StoreFault → ε) (f : Store → Except ε α × Store) :
    StateM Connection (Except ε α) := fun c =>
  if c.isOpen then
    let (answer, store) := f c.store
    (answer, { c with store })
  else (.error (refuse .closed), c)

/-- Carries out a call that changes the store unless it fails. -/
def change (refuse : StoreFault → ε) (f : Store → Except StoreFault Store) :
    StateM Connection (Except ε Unit) :=
  call refuse fun s =>
    match f s with
    | .ok s => (.ok (), s)
    | .error fault => (.error (refuse fault), s)

/-- Closes the connection. -/
def close : StateM Connection Unit := fun c => ((), { c with isOpen := false })

/-! ## Calls -/

/-- The campaign with an identifier. -/
def load (id : String) : StateM Connection (Except CampaignError Campaign) :=
  read .store (·.load id)

/-- The tenant with an identifier. -/
def tenant (id : String) : StateM Connection (Except CampaignError Tenant) :=
  read .store (·.tenant id)

/-- The rule groups of the segments that a campaign goes to. -/
def linkedRuleGroups (id : String) : StateM Connection (Except CampaignError (List RuleGroup)) :=
  read .store fun s => .ok (s.linkedRuleGroups id)

/-- Whether someone asked for sending to stop. -/
def cancelRequested (id : String) : StateM Connection (Except CampaignError Bool) :=
  read .store (·.cancelRequested id)

/-- Claims a campaign for sending. -/
def claim (id now : String) : StateM Connection (Except CampaignError Bool) :=
  call .store fun s => (.ok (s.claim id now).1, (s.claim id now).2)

/-- Completes a campaign. -/
def complete (id now : String) : StateM Connection (Except CampaignError Unit) :=
  call .store (·.complete id now)

/-- Sets a moment for a draft. -/
def schedule (id now : String) (time : Instant) : StateM Connection (Except CampaignError Unit) :=
  call .store (·.schedule id now time)

/-- Asks for sending to stop. -/
def requestCancel (id now : String) : StateM Connection (Except CampaignError Unit) :=
  call .store (·.requestCancel id now)

/-- Appends an event. -/
def append (e : SendEvent) : StateM Connection (Except CampaignError Unit) :=
  change .store fun s => .ok (s.append e)

/-- The contacts of the store, as a source for audiences.  The store is not asked for a predicate
that means nobody. -/
def contactSource : ContactSource Connection ContactError where
  matching p tenant :=
    if p.isNever then pure (.ok [])
    else read .store fun s => (s.answerOn tenant (s.matching p tenant)).mapError .store
  count p tenant :=
    if p.isNever then pure (.ok 0)
    else read .store fun s => (s.answerOn tenant (s.countMatching p tenant)).mapError .store

end Connection

end Mailshot
