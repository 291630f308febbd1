import Mailshot.Http.MediaType
import Mailshot.Url.Basic

/-!
# Requests and answers

A `Network` answers a request, or leaves it without a usable answer.  `send` follows the answers
that name another place, ten times at most; what it returns in the end is an answer that names none,
or the reason why there is no such answer.
-/

set_option autoImplicit false

namespace Mailshot
namespace Http

/-- What a request asks for. -/
inductive Method where
  /-- To take a document. -/
  | post
  /-- To give one. -/
  | get
deriving DecidableEq

/-- A request. -/
structure Request where
  /-- What is asked for. -/
  method : Method
  /-- Where to. -/
  url : Url
  /-- The key that is shown. -/
  authorization : Option String
  /-- The JSON document that is handed over. -/
  document : Option String
  /-- How long an answer is waited for, in milliseconds.  The time that it takes to visit other
  places and to read the body counts. -/
  timeout : Nat
deriving DecidableEq

/-- The body of an answer. -/
inductive Body where
  /-- All of it. -/
  | whole (bytes : List UInt8)
  /-- It could not be read to its end. -/
  | broken
deriving DecidableEq

/-- An answer. -/
structure Response where
  /-- The status. -/
  status : Nat
  /-- The other place that the answer names. -/
  location : Option String
  /-- The media type of the body. -/
  contentType : Option String
  /-- The body. -/
  body : Body
deriving DecidableEq

/-- Answers requests; nothing stands for a refused, closed, unreadable or late answer. -/
abbrev Network (σ : Type) := Request → StateM σ (Option Response)

/-- Why there is no final answer. -/
inductive Fault where
  /-- A request cannot be made of its parts. -/
  | unbuildable (url : Option Url)
  /-- There was no usable answer from here. -/
  | unanswered (url : Url)
  /-- Too many answers named another place; this one was the last. -/
  | tooManyPlaces (url : Url)
deriving DecidableEq

/-- A fault in words. -/
def Fault.message : Fault → String
  | .unbuildable none => "builder error"
  | .unbuildable (some url) => "builder error for url (" ++ url.text ++ ")"
  | .unanswered url => "error sending request for url (" ++ url.text ++ ")"
  | .tooManyPlaces url => "error following redirect for url (" ++ url.text ++ ")"

/-- How many other places are visited. -/
def maxRedirects : Nat := 10

/-- The request that an answer leads to, if it names another place in a way that is followed.  Some
statuses ask for the same request again, others for a look at what is there.  The key is shown to
the same host only, and no other time is set. -/
def nextRequest? (r : Request) (a : Response) : Option Request := do
  let url ← (r.url.resolve (← a.location)).toOption
  let authorization :=
    if url.host = r.url.host ∧ url.effectivePort = r.url.effectivePort then r.authorization
    else none
  if a.status = 301 ∨ a.status = 302 ∨ a.status = 303 then
    return { r with method := .get, url, authorization, document := none }
  else if a.status = 307 ∨ a.status = 308 then return { r with url, authorization }
  else none

/-- Sends a request; so many other places may still be visited. -/
def sendWith {σ : Type} (network : Network σ) :
    Nat → Request → StateM σ (Except Fault Response)
  | 0, r => do
    match ← network r with
    | none => return .error (.unanswered r.url)
    | some a =>
      if (nextRequest? r a).isSome then return .error (.tooManyPlaces r.url) else return .ok a
  | left + 1, r => do
    match ← network r with
    | none => return .error (.unanswered r.url)
    | some a =>
      match nextRequest? r a with
      | none => return .ok a
      | some next =>
        if next.url.isWeb then sendWith network left next
        else return .error (.unbuildable (some next.url))

/-- Sends a request and follows the answers that name another place. -/
def send {σ : Type} (network : Network σ) (r : Request) : StateM σ (Except Fault Response) :=
  sendWith network maxRedirects r

/-- The text of an answer: its body as its media type says, or nothing if it was cut off. -/
def Response.text (a : Response) : String :=
  match a.body with
  | .whole bytes => ((a.contentType.map MediaType.charset).getD .utf8).text bytes
  | .broken => ""

/-- Whether the status says that the request was carried out. -/
def Response.isSuccess (a : Response) : Bool := decide (200 ≤ a.status ∧ a.status < 300)

end Http
end Mailshot
