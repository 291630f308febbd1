import Mailshot.Audience.Predicate
import Mailshot.Audience.Set

/-!
# From rule groups to an audience

Contacts are kept somewhere: a `ContactSource` answers which contacts of a tenant a predicate means.
Its answer may depend on a state `σ` and change it, and nothing is assumed about it: it may repeat
contacts, hand out those of other tenants, or fail.  `resolve` asks it for one group after the
other, leaves out the groups that mean nobody, keeps the contacts of the one tenant, and stops at
the first failure.
-/

set_option autoImplicit false

namespace Mailshot

/-- Where contacts are kept, over a state `σ`, failing with an `ε`. -/
structure ContactSource (σ ε : Type) where
  /-- The contacts of a tenant that a predicate means. -/
  matching : Predicate → String → StateM σ (Except ε (List Contact))
  /-- How many these are. -/
  count : Predicate → String → StateM σ (Except ε Nat)

namespace ContactSource

variable {σ ε : Type}

/-- Adds the contacts that one group means to an audience; contacts of other tenants are left
out.  A group that means nobody is not asked for. -/
def addGroup (source : ContactSource σ ε) (tenant : String) (audience : Audience) (g : RuleGroup) :
    StateM σ (Except ε Audience) :=
  let predicate := g.compile
  if predicate.isNever then pure (.ok audience)
  else do
    match ← source.matching predicate tenant with
    | .error e => return .error e
    | .ok contacts => return .ok (audience.insertAll (contacts.filter (·.tenant = tenant)))

/-- Adds the contacts that any of the groups means, up to the first failure. -/
def addGroups (source : ContactSource σ ε) (tenant : String) (audience : Audience) :
    List RuleGroup → StateM σ (Except ε Audience)
  | [] => pure (.ok audience)
  | g :: gs => do
    match ← source.addGroup tenant audience g with
    | .error e => return .error e
    | .ok audience => source.addGroups tenant audience gs

/-- The contacts of a tenant that any of the groups means. -/
def resolve (source : ContactSource σ ε) (groups : List RuleGroup) (tenant : String) :
    StateM σ (Except ε Audience) :=
  source.addGroups tenant .empty groups

/-- How many contacts of a tenant a group means; zero if the source fails. -/
def preview (source : ContactSource σ ε) (g : RuleGroup) (tenant : String) : StateM σ Nat := do
  match ← source.count g.compile tenant with
  | .ok n => return n
  | .error _ => return 0

end ContactSource

end Mailshot
