import Mailshot.Campaign.Status
import Mailshot.Store.Fault
import Mailshot.Text.Quoted
import Mailshot.Time.Reader

/-!
# What goes wrong with campaigns and contacts

The causes, and for each the text that is shown.
-/

set_option autoImplicit false

namespace Mailshot

/-- Why a stored row cannot be read. -/
inductive RowFault where
  /-- There is no such kind of event. -/
  | eventType (text : String)
  /-- The time of an event cannot be read. -/
  | timestamp (text : String) (fault : TimeFault)
  /-- A reason that a collaborator gives in its own words. -/
  | reported (reason : String)
deriving DecidableEq

/-- A row fault in words. -/
def RowFault.message : RowFault → String
  | .eventType text => "event type " ++ quoted text
  | .timestamp text fault => "created_at " ++ quoted text ++ ": " ++ fault.message
  | .reported reason => reason

/-- Why a campaign could not be read or changed. -/
inductive CampaignError where
  /-- The store refused. -/
  | store (fault : StoreFault)
  /-- There is no such campaign. -/
  | notFound (id : String)
  /-- There is no such tenant. -/
  | tenantNotFound (id : String)
  /-- A stored status has no meaning. -/
  | invalidStatus (text : String)
  /-- A stored row cannot be read. -/
  | invalidRow (fault : RowFault)
  /-- Only a campaign that is being sent can be cancelled, and this one is not. -/
  | notCancellable (id : String) (status : Status)
  /-- A campaign does not go from one of these to the other. -/
  | invalidTransition (source target : Status)
deriving DecidableEq

/-- A campaign error in words. -/
def CampaignError.message : CampaignError → String
  | .store fault => "database error: " ++ fault.message
  | .notFound id => "campaign not found: " ++ id
  | .tenantNotFound id => "tenant not found: " ++ id
  | .invalidStatus text => "invalid campaign status: " ++ quoted text
  | .invalidRow fault => "invalid stored row: " ++ fault.message
  | .notCancellable id status =>
    "campaign " ++ id ++ " is " ++ status.name ++ ", only a sending campaign can be cancelled"
  | .invalidTransition source target =>
    "invalid state transition: " ++ source.name ++ " -> " ++ target.name

/-- Why contacts could not be read. -/
inductive ContactError where
  /-- The store refused. -/
  | store (fault : StoreFault)
  /-- The contacts are out of reach, for a reason in the words of whoever keeps them. -/
  | unavailable (reason : String)
deriving DecidableEq

/-- A contact error in words. -/
def ContactError.message : ContactError → String
  | .store fault => "database error: " ++ fault.message
  | .unavailable reason => "contact repository unavailable: " ++ reason

/-- The status of a text that ought to be a name. -/
def Status.parse (s : String) : Except CampaignError Status :=
  match Status.ofName? s with
  | some status => .ok status
  | none => .error (.invalidStatus s)

end Mailshot
