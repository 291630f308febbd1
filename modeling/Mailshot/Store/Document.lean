import Mailshot.Json.Printer
import Mailshot.Json.Reader
import Mailshot.Store.Tables

/-!
# Stores as documents

A store that is kept in a file is written as one JSON document: an object with a list of rows for
each table, where a row is the list of its cells, and a cell is a string or `null`.  The bytes in a
cell of a contact that is no text are written as the list of one string, a character for each.
-/

set_option autoImplicit false

namespace Mailshot

/-- The cells of a row. -/
abbrev Cells := List (Option String)

/-! ## Rows -/

/-- What stands in a cell, as JSON. -/
def Datum.toJson : Datum → Json
  | text s => .string s
  | bytes b => .array [.string (String.ofList (b.map fun byte => Char.ofNat byte.toNat))]

/-- What stands in a cell of a document. -/
def Datum.ofJson? : Json → Option Datum
  | .string s => some (.text s)
  | .array [.string s] => some (.bytes (s.toList.map fun c => c.toNat.toUInt8))
  | _ => none

namespace ContactRow

/-- The cells of a contact. -/
def cells (id : Option String) (r : ContactRow) : List (Option Datum) :=
  [id.map .text, some (.text r.tenant), r.firstName, r.lastName, r.email, r.phone, r.company,
    some r.attributes, some r.metrics, some r.tags]

/-- The contact of cells. -/
def ofCells? : List (Option Datum) → Option (Option String × ContactRow)
  | [id, some (.text tenant), firstName, lastName, email, phone, company, some attributes,
      some metrics, some tags] => do
    return (← Datum.optional? id,
      ⟨tenant, firstName, lastName, email, phone, company, attributes, metrics, tags⟩)
  | _ => none

end ContactRow

namespace SegmentRow

/-- The cells of a segment. -/
def cells (id : Option String) (r : SegmentRow) : Cells :=
  [id, some r.tenant, some r.name, some r.rules, some r.createdAt]

/-- The segment of cells. -/
def ofCells? : Cells → Option (Option String × SegmentRow)
  | [id, some tenant, some name, some rules, some createdAt] =>
    some (id, ⟨tenant, name, rules, createdAt⟩)
  | _ => none

end SegmentRow

namespace CampaignRow

/-- The cells of a campaign. -/
def cells (id : Option String) (r : CampaignRow) : Cells :=
  [id, some r.tenant, some r.name, some r.subject, some r.body, r.fromName, r.replyTo,
    some r.status, r.scheduledAt, if r.cancelRequested then some "1" else none, some r.createdAt,
    some r.updatedAt]

/-- The campaign of cells. -/
def ofCells? : Cells → Option (Option String × CampaignRow)
  | [id, some tenant, some name, some subject, some body, fromName, replyTo, some status,
      scheduledAt, cancel, some createdAt, some updatedAt] =>
    some (id, ⟨tenant, name, subject, body, fromName, replyTo, status, scheduledAt, cancel.isSome,
      createdAt, updatedAt⟩)
  | _ => none

end CampaignRow

namespace EventRow

/-- The cells of an event. -/
def cells (r : EventRow) : Cells :=
  [some r.tenant, some r.campaign, some r.contact, some r.kind, r.messageId, r.metadata,
    some r.createdAt]

/-- The event of cells. -/
def ofCells? : Cells → Option EventRow
  | [some tenant, some campaign, some contact, some kind, messageId, metadata, some createdAt] =>
    some ⟨tenant, campaign, contact, kind, messageId, metadata, createdAt⟩
  | _ => none

end EventRow

/-! ## Documents -/

namespace Store

/-- Two texts that belong together. -/
def pairOfCells? : Cells → Option (String × String)
  | [some a, some b] => some (a, b)
  | _ => none

/-- A table as JSON. -/
def tableToJson {α : Type} (toJson : α → Json) (rows : List (List (Option α))) : Json :=
  .array (rows.map fun cells => .array (cells.map fun c => (c.map toJson).getD .null))

/-- The document of a store. -/
def toJson (s : Store) : Json := .object [
  ("campaigns", tableToJson .string (s.campaigns.rows.map fun e => e.2.cells e.1)),
  ("contacts", tableToJson Datum.toJson (s.contacts.rows.map fun e => e.2.cells e.1)),
  ("events", tableToJson .string (s.events.map (·.cells))),
  ("links", tableToJson .string (s.links.map fun e => [some e.1, some e.2])),
  ("segments", tableToJson .string (s.segments.rows.map fun e => e.2.cells e.1)),
  ("tenants", tableToJson .string (s.tenants.entries.map fun e => [some e.1, some e.2]))]

/-- A cell of a document. -/
def cellOfJson? {α : Type} (ofJson? : Json → Option α) : Json → Option (Option α)
  | .null => some none
  | item => (ofJson? item).map some

/-- The items of a list. -/
def itemsOfJson? : Json → Option (List Json)
  | .array items => some items
  | _ => none

/-- The rows of the table under a key. -/
def tableOfJson? {α β : Type} (ofJson? : Json → Option α) (document : Json) (key : String)
    (read : List (Option α) → Option β) : Option (List β) := do
  let rows ← itemsOfJson? (← document.member? key)
  rows.mapM fun row => do read (← (← itemsOfJson? row).mapM (cellOfJson? ofJson?))

/-- The store of a document. -/
def ofJson? (document : Json) : Option Store := do
  return {
    tenants := .ofList (← tableOfJson? Json.text? document "tenants" pairOfCells?)
    contacts := .ofRows (← tableOfJson? Datum.ofJson? document "contacts" ContactRow.ofCells?)
    segments := .ofRows (← tableOfJson? Json.text? document "segments" SegmentRow.ofCells?)
    campaigns := .ofRows (← tableOfJson? Json.text? document "campaigns" CampaignRow.ofCells?)
    links := ← tableOfJson? Json.text? document "links" pairOfCells?
    events := ← tableOfJson? Json.text? document "events" EventRow.ofCells? }

/-- The store of a text; an empty one is a new store. -/
def ofText? (text : String) : Option Store :=
  if text.isEmpty then some empty else (Json.ofText? text).bind ofJson?

end Store

end Mailshot
