import Mailshot.Store.Fault
import Mailshot.Store.Table

/-!
# The tables

What is stored, as it is stored: texts in columns.  Tenants always have an identifier; contacts,
segments and campaigns are kept in a `Table`, where rows are read in the order of their identifiers.
Links between campaigns and segments form a set, and events a list to which rows are only ever
appended.

The columns of a contact may also hold bytes that are no text (`Datum`).  Nothing in this library
writes them, but others who have access to the tables may.

References between tables are checked by whoever inserts a row; `Store.hasTenant` and its kin are
these checks.
-/

set_option autoImplicit false

namespace Mailshot

/-- What stands in a column that is not empty. -/
inductive Datum where
  /-- A text. -/
  | text (s : String)
  /-- Bytes that are kept as such, or that are not the UTF-8 form of a text. -/
  | bytes (b : List UInt8)
deriving DecidableEq, Inhabited

namespace Datum

/-- The text in a column. -/
def text? : Datum → Option String
  | text s => some s
  | bytes _ => none

/-- The text in a column that may be empty. -/
def optional? : Option Datum → Option (Option String)
  | none => some none
  | some c => c.text?.map some

end Datum

/-- A contact. -/
structure ContactRow where
  /-- The tenant that it belongs to. -/
  tenant : String
  /-- Given name. -/
  firstName : Option Datum
  /-- Family name. -/
  lastName : Option Datum
  /-- Address. -/
  email : Option Datum
  /-- Phone number. -/
  phone : Option Datum
  /-- Company. -/
  company : Option Datum
  /-- The free text fields, in JSON. -/
  attributes : Datum
  /-- The free number fields, in JSON. -/
  metrics : Datum
  /-- The labels, in JSON. -/
  tags : Datum
deriving DecidableEq, Inhabited

namespace ContactRow

/-- What stands in the columns that are not empty. -/
def contents (r : ContactRow) : List Datum :=
  [r.firstName, r.lastName, r.email, r.phone, r.company].filterMap id ++
    [r.attributes, r.metrics, r.tags]

/-- Whether there is a column without a text. -/
def holdsBytes (r : ContactRow) : Bool := r.contents.any (·.text?.isNone)

end ContactRow

/-- A rule group that is kept under a name. -/
structure SegmentRow where
  /-- The tenant that it belongs to. -/
  tenant : String
  /-- The name. -/
  name : String
  /-- The rule group, in JSON. -/
  rules : String
  /-- When it was made. -/
  createdAt : String
deriving DecidableEq, Inhabited

/-- A campaign. -/
structure CampaignRow where
  /-- The tenant that it belongs to. -/
  tenant : String
  /-- The name for the tenant's own use. -/
  name : String
  /-- The template of the subject line. -/
  subject : String
  /-- The template of the text. -/
  body : String
  /-- The name that messages come from. -/
  fromName : Option String
  /-- The address that answers go to. -/
  replyTo : Option String
  /-- Where it stands. -/
  status : String
  /-- The moment that was set for sending. -/
  scheduledAt : Option String
  /-- Whether someone asked for sending to stop. -/
  cancelRequested : Bool
  /-- When it was made. -/
  createdAt : String
  /-- When it was made, or changed by one of the statements that look at where it stands. -/
  updatedAt : String
deriving DecidableEq, Inhabited

/-- An event. -/
structure EventRow where
  /-- The tenant of the campaign. -/
  tenant : String
  /-- The campaign. -/
  campaign : String
  /-- The contact. -/
  contact : String
  /-- How sending ended. -/
  kind : String
  /-- The identifier that the channel gave the message. -/
  messageId : Option String
  /-- Details, in JSON. -/
  metadata : Option String
  /-- When sending ended. -/
  createdAt : String
deriving DecidableEq, Inhabited

/-- All that is stored. -/
structure Store where
  /-- The names of tenants. -/
  tenants : Dictionary String
  /-- Contacts. -/
  contacts : Table ContactRow
  /-- Segments. -/
  segments : Table SegmentRow
  /-- Campaigns. -/
  campaigns : Table CampaignRow
  /-- Which campaigns go to which segments. -/
  links : List (String × String)
  /-- Events, the oldest first. -/
  events : List EventRow
deriving DecidableEq

namespace Store

/-- Nothing is stored. -/
def empty : Store := ⟨.empty, .empty, .empty, .empty, [], []⟩

instance : Inhabited Store := ⟨empty⟩

/-- Whether there is a tenant to refer to. -/
def hasTenant (s : Store) (id : String) : Bool := s.tenants.contains id

/-- Whether there is a campaign to refer to. -/
def hasCampaign (s : Store) (id : String) : Bool := s.campaigns.contains id

/-- Whether there is a segment to refer to. -/
def hasSegment (s : Store) (id : String) : Bool := s.segments.contains id

end Store

end Mailshot
