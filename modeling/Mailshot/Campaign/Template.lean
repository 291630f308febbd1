import Mailshot.Audience.Contact
import Mailshot.Campaign.Basic

/-!
# Templates

A template is text with tokens in double braces, such as `{{firstName}}`.  It is cut into segments
by the text alone, in one pass from left to right: a token reaches from the leftmost opening to the
first closing behind it, and an opening that is never closed is text together with all that follows
it.  Then every token that has a meaning is replaced, and nothing that was put in is looked at
again.
-/

set_option autoImplicit false

namespace Mailshot

/-- A part of a template. -/
inductive Segment where
  /-- Text. -/
  | plain (cs : List Char)
  /-- A token, without its braces. -/
  | token (name : List Char)
  /-- All that follows an opening that is never closed. -/
  | unclosed (cs : List Char)
deriving DecidableEq

namespace Template

/-- Cuts the rest of a template.  `inside` says whether a token is open, and `read` holds what was
read of the current segment, in reverse. -/
def cutFrom : Bool → List Char → List Char → List Segment
  | false, read, [] => [.plain read.reverse]
  | true, read, [] => [.unclosed read.reverse]
  | false, read, '\x7b' :: '\x7b' :: cs => .plain read.reverse :: cutFrom true [] cs
  | true, read, '\x7d' :: '\x7d' :: cs => .token read.reverse :: cutFrom false [] cs
  | inside, read, c :: cs => cutFrom inside (c :: read) cs

/-- The segments of a template. -/
def cut (cs : List Char) : List Segment := cutFrom false [] cs

/-- What a token stands for; a value that the contact lacks is empty. -/
def tokenValue? (contact : Contact) (tenant : Tenant) (name : String) : Option String :=
  if name = "firstName" then some (contact.firstName.getD "")
  else if name = "lastName" then some (contact.lastName.getD "")
  else if name = "email" then some (contact.email.getD "")
  else if name = "phone" then some (contact.phone.getD "")
  else if name = "brokerName" ∨ name = "companyName" ∨ name = "tenantName" then some tenant.name
  else none

/-- What a segment becomes.  A token without a meaning stays as it is. -/
def fill (contact : Contact) (tenant : Tenant) : Segment → List Char
  | .plain cs => cs
  | .token name =>
    match tokenValue? contact tenant (String.ofList name) with
    | some value => value.toList
    | none => '\x7b' :: '\x7b' :: (name ++ ['\x7d', '\x7d'])
  | .unclosed cs => '\x7b' :: '\x7b' :: cs

/-- The text of a template for one contact. -/
def personalize (template : String) (contact : Contact) (tenant : Tenant) : String :=
  String.ofList ((cut template.toList).flatMap (fill contact tenant))

end Template

end Mailshot
