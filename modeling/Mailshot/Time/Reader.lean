import Mailshot.Text.Blank
import Mailshot.Time.Instant

/-!
# Reading instants

Two readers, for two sources.  `Instant.ofText` is strict: the text must be what RFC 3339 allows,
and if it is not, the answer says what the first fault is.  `Instant.ofLooseText?` reads the
instants of documents: it lets blanks stand between the parts, takes numbers with fewer digits and
years with a sign, and the word `UTC` for an offset.

The strict reader looks at the form of a date or a time before it asks whether there is one, and a
text that is too short for both has no other fault.
-/

set_option autoImplicit false

namespace Mailshot

/-- Why a text is not that of an instant. -/
inductive TimeFault where
  /-- A character stands where another one has to be. -/
  | invalid
  /-- The text ends too early. -/
  | short
  /-- A number is out of range, or there is no such date. -/
  | range
  /-- More text follows. -/
  | trailing
deriving DecidableEq

/-- A fault in words. -/
def TimeFault.message : TimeFault → String
  | .invalid => "input contains invalid characters"
  | .short => "premature end of input"
  | .range => "input is out of range"
  | .trailing => "trailing input"

namespace Instant
namespace Reader

/-- A scan takes characters off a text, or finds a fault. -/
abbrev Scan := StateT (List Char) (Except TimeFault)

/-- The number of bytes of a text. -/
def byteCount (cs : List Char) : Nat := cs.foldl (fun n c => n + c.utf8Size) 0

/-- A number of at least `min` and at most `max` digits.  A text that is too short for it counts in
bytes. -/
def number (min max : Nat) : Scan Nat := fun cs =>
  if byteCount cs < min then .error .short
  else
    let ds := (cs.take max).takeWhile Char.isDigit
    if ds.length < min then .error .invalid
    else .ok (Decimal.ofDigits ds, cs.drop ds.length)

/-- One of some characters. -/
def oneOf (allowed : List Char) : Scan Unit := fun cs =>
  match cs with
  | [] => .error .short
  | c :: rest => if c ∈ allowed then .ok ((), rest) else .error .invalid

/-- A number that has to lie in a range. -/
def within (low high : Nat) (read : Scan Nat) : Scan Nat := do
  let n ← read
  if low ≤ n ∧ n ≤ high then return n else throw .range

/-- A fraction of a second, if there is one, in nanoseconds; digits behind the ninth are dropped. -/
def fraction : Scan Nat := fun cs =>
  match cs with
  | '.' :: rest => do
    let ds := rest.takeWhile Char.isDigit
    if rest.isEmpty then .error .short
    else if ds.isEmpty then .error .invalid
    else
      let kept := ds.take 9
      .ok (Decimal.ofDigits kept * Nat.pow 10 (9 - kept.length), rest.drop ds.length)
  | _ => .ok (0, cs)

/-- An offset from universal time, in minutes.  Hours and minutes take two digits each; `separator`
reads what stands between them. -/
def offset (separator : Scan Unit) : Scan Int := fun cs =>
  match cs with
  | [] => .error .short
  | 'Z' :: rest => .ok (0, rest)
  | 'z' :: rest => .ok (0, rest)
  | '+' :: rest => amount rest
  | '-' :: rest => (amount rest).map fun (m, cs) => (-m, cs)
  | '−' :: rest => (amount rest).map fun (m, cs) => (-m, cs)
  | _ => .error .invalid
where
  /-- The offset without its sign. -/
  amount (cs : List Char) : Except TimeFault (Int × List Char) := do
    let (hours, cs) ← number 2 2 cs
    let (_, cs) ← separator cs
    let (minutes, cs) ← within 0 59 (number 2 2) cs
    return ((60 * hours + minutes : Nat), cs)

/-- The parts of an instant as they are written. -/
structure Parts where
  /-- The date. -/
  date : Date
  /-- The hour of the day. -/
  hour : Nat
  /-- The minute of the hour. -/
  minute : Nat
  /-- The second of the minute, up to 60. -/
  second : Nat
  /-- The nanoseconds of the second. -/
  nano : Nat
  /-- The minutes that the written time is ahead of universal time. -/
  offset : Int

/-- The instant of its parts.  The 61st second of a minute prolongs the one before it. -/
def Parts.toInstant? (p : Parts) : Option Instant := do
  let day ← p.date.toDay?
  let (second, nano) := if p.second = 60 then (59, 1000000000 + p.nano) else (p.second, p.nano)
  let total : Int := 86400 * day + (3600 * p.hour + 60 * p.minute + second : Nat) - 60 * p.offset
  if p.date.year < firstYear ∨ lastYear < p.date.year ∨ 1440 ≤ p.offset.natAbs then none
  else ofParts? (total / 86400) (total % 86400).toNat nano

/-- Nothing, of a text with so many bytes at least. -/
def atLeast (bytes : Nat) : Scan Unit := fun cs =>
  if byteCount cs < bytes then .error .short else .ok ((), cs)

/-- Nothing, of a text that is read to its end. -/
def ending : Scan Unit := fun cs => if cs.isEmpty then .ok ((), cs) else .error .trailing

/-- Nothing, if a condition on what was read holds. -/
def require (inRange : Bool) : Scan Unit := if inRange then pure () else throw .range

/-- The parts of a text that keeps to RFC 3339.  The date, the time and the offset are each read in
full before it is asked whether they exist, and the offset only counts at the end of the text. -/
def strict : Scan Parts := do
  atLeast 19
  let year ← number 4 4
  oneOf ['-']
  let month ← number 2 2
  oneOf ['-']
  let day ← number 2 2
  let date : Date := ⟨year, month, day⟩
  require date.toDay?.isSome
  oneOf ['T', 't', ' ']
  let hour ← number 2 2
  oneOf [':']
  let minute ← number 2 2
  oneOf [':']
  let second ← number 2 2
  let nano ← fraction
  require (hour < 24 && minute < 60 && second ≤ 60)
  let offset ← offset (oneOf [':'])
  ending
  require (offset.natAbs < 1440)
  return ⟨date, hour, minute, second, nano, offset⟩

/-- Passes over blanks. -/
def blanks : Scan Unit := fun cs => .ok ((), trimLeft cs)

/-- A year, which may have a sign and then any number of digits. -/
def signedYear : Scan Int := fun cs =>
  match cs with
  | '-' :: rest => (number 1 rest.length rest).map fun (n, cs) => (-(n : Int), cs)
  | '+' :: rest => (number 1 rest.length rest).map fun (n, cs) => ((n : Int), cs)
  | _ => (number 1 4 cs).map fun (n, cs) => ((n : Int), cs)

/-- The offset of a loose text. -/
def looseOffset : Scan Int := fun cs =>
  match cs with
  | u :: t :: c :: rest =>
    if (u = 'U' ∨ u = 'u') ∧ (t = 'T' ∨ t = 't') ∧ (c = 'C' ∨ c = 'c') then .ok (0, rest)
    else offset separator cs
  | _ => offset separator cs
where
  /-- Colons and blanks, or nothing. -/
  separator : Scan Unit := fun cs => .ok ((), cs.dropWhile fun c => c == ':' || isBlank c)

/-- The parts of a loose text. -/
def loose : Scan Parts := do
  blanks
  let year ← signedYear
  blanks
  oneOf ['-']
  blanks
  let month ← within 1 12 (number 1 2)
  blanks
  oneOf ['-']
  blanks
  let day ← within 1 31 (number 1 2)
  oneOf ['T', 't', ' ']
  blanks
  let hour ← within 0 23 (number 1 2)
  blanks
  oneOf [':']
  blanks
  let minute ← within 0 59 (number 1 2)
  blanks
  oneOf [':']
  blanks
  let second ← within 0 60 (number 1 2)
  let nano ← fraction
  blanks
  let offset ← looseOffset
  return ⟨⟨year, month, day⟩, hour, minute, second, nano, offset⟩

end Reader

/-- The instant of a text that keeps to RFC 3339, or the first fault of the text. -/
def ofText (s : String) : Except TimeFault Instant := do
  let (parts, _) ← Reader.strict s.toList
  match parts.toInstant? with
  | some t => return t
  | none => throw .range

/-- The instant of a loose text. -/
def ofLooseText? (s : String) : Option Instant :=
  match Reader.loose s.toList with
  | .ok (parts, rest) => if (trimLeft rest).isEmpty then parts.toInstant? else none
  | .error _ => none

end Instant

end Mailshot
