import Mailshot.Campaign.Basic

/-!
# What a dispatch comes to

A dispatch ends with a report or with the reason why there is none.
-/

set_option autoImplicit false

namespace Mailshot
namespace Dispatch

/-- How a dispatch ended. -/
inductive Outcome where
  /-- Every contact had its turn. -/
  | completed
  /-- Someone asked for it to stop, and the contacts that were left had no turn. -/
  | cancelled
  /-- Nothing was sent, since the campaign stood here. -/
  | skipped (status : Status)
deriving DecidableEq

/-- The numbers of a dispatch. -/
structure Report where
  /-- The campaign. -/
  campaign : String
  /-- How the dispatch ended. -/
  outcome : Outcome
  /-- How many contacts were meant. -/
  audienceSize : Nat
  /-- Messages that a channel took. -/
  sent : Nat
  /-- Messages that no channel took. -/
  failed : Nat
  /-- Contacts without an address. -/
  skipped : Nat
deriving DecidableEq

/-- The report on a campaign from which nothing is sent. -/
def Report.ofSkipped (campaign : String) (status : Status) : Report :=
  ⟨campaign, .skipped status, 0, 0, 0, 0⟩

/-- Whether the dispatch was asked to stop. -/
def Report.cancelled (r : Report) : Bool := r.outcome = .cancelled

/-- An outcome in JSON. -/
def Outcome.toJson : Outcome → Json
  | .completed => .string "completed"
  | .cancelled => .string "cancelled"
  | .skipped status => .object [("skipped", .string status.name)]

/-- A report in JSON, its members in the order in which they are read. -/
def Report.toJson (r : Report) : Json :=
  let count (n : Nat) : Json := .number (.ofNat n)
  .object [("campaign_id", .string r.campaign), ("outcome", r.outcome.toJson),
    ("audience_size", count r.audienceSize), ("sent", count r.sent), ("failed", count r.failed),
    ("skipped", count r.skipped)]

/-- Why a dispatch has no report, or one that is not final. -/
inductive Error where
  /-- The campaign or its tenant could not be read or changed. -/
  | campaign (e : CampaignError)
  /-- The audience could not be found. -/
  | resolution (e : ContactError)
  /-- Another dispatch claimed the campaign first. -/
  | alreadyInProgress (campaign : String)
  /-- Messages went out, but the campaign could not be completed. -/
  | finalize (report : Report) (e : CampaignError)
deriving DecidableEq

/-- A dispatch error in words. -/
def Error.message : Error → String
  | .campaign e => e.message
  | .resolution e => "audience resolution failed: " ++ e.message
  | .alreadyInProgress id => "campaign " ++ id ++ " is already being dispatched"
  | .finalize report e =>
    "campaign " ++ report.campaign ++ " dispatched but not finalized: " ++ e.message

end Dispatch
end Mailshot
