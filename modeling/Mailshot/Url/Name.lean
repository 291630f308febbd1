import Mailshot.Text.Composition
import Mailshot.Text.Direction
import Mailshot.Text.Joining
import Mailshot.Url.Address
import Mailshot.Url.NameData
import Mailshot.Url.Punycode

/-!
# Names of hosts

A name consists of labels with dots between them.  `asciiName?` writes it in small letters and in
ASCII: other ways to write a character are resolved first, and a label that still has characters
beyond ASCII is encoded and marked with `xn--` in front.  A label that comes with this mark has to
be what some label is written as.

Not every text is a name.  Some characters stand in none; a label does not start with a mark; the
invisible joiners stand only where they change what is seen; and in a name with letters from right
to left every label must keep its order whatever it stands next to.
-/

set_option autoImplicit false

namespace Mailshot
namespace Url

/-- Whether a character cannot stand in any host. -/
def forbiddenInHost (c : Char) : Bool :=
  c ∈ ['\x00', '\t', '\n', '\r', ' ', '#', '/', ':', '<', '>', '?', '@', '[', '\\', ']', '^', '|']

/-- Whether a character cannot stand in a name. -/
def forbiddenInName (c : Char) : Bool :=
  forbiddenInHost c || decide (c.toNat < 0x20) || c == '%' || c == '\x7f'

/-- Whether a character belongs to ASCII. -/
def isAscii (c : Char) : Bool := decide (c.toNat < 128)

/-! ## Spelling -/

/-- How a character is spelled in a name; nothing if it cannot stand there. -/
def spell? (c : Char) : Option (List Char) :=
  if isAscii c then some [c.toLower]
  else if inRanges excludedRanges c.toNat then none
  else if inRanges ignoredRanges c.toNat then some []
  else some ((Substitution.lookup spellings c).getD [c])

/-- How a text is spelled in a name. -/
def spellAll? (cs : List Char) : Option (List Char) :=
  (cs.mapM spell?).map fun parts => Composition.composed parts.flatten

/-! ## Joiners -/

/-- Whether a character joins the letters around it into one. -/
def isVirama (c : Char) : Bool := Composition.markClass c == 9

/-- Whether the next of some characters that letters do not join across is one that joins. -/
def nextJoins (joins : Char → Bool) (cs : List Char) : Bool :=
  (cs.dropWhile isTransparent).head?.any joins

/-- Whether every joiner changes what is seen, behind characters that are given in reverse. -/
def joinersFit (before : List Char) : List Char → Bool
  | [] => true
  | c :: cs =>
    let fits :=
      if c = '\u200d' then before.head?.any isVirama
      else if c = '\u200c' then
        before.head?.any isVirama || (nextJoins joinsAfter before && nextJoins joinsBefore cs)
      else true
    fits && joinersFit (c :: before) cs

/-! ## Directions -/

/-- Whether characters keep their order next to others, with these directions. -/
def keepsOrder : List Direction → Bool
  | [] => true
  | first :: rest =>
    let last := (rest.reverse.dropWhile (· = .mark)).head?
    match first with
    | .leftToRight =>
      last.all (· ∈ [Direction.leftToRight, .number]) &&
        rest.all (· ∈ [Direction.leftToRight, .number, .neutral, .mark])
    | .rightToLeft =>
      last.all (· ∈ [Direction.rightToLeft, .number, .arabicNumber]) &&
        rest.all (· ≠ .leftToRight) && !(rest.contains .number && rest.contains .arabicNumber)
    | _ => false

/-- Whether characters with these directions go from right to left. -/
def goesLeft (ds : List Direction) : Bool :=
  ds.any fun d => d = .rightToLeft || d = .arabicNumber

/-! ## Labels -/

/-- A label. -/
structure Label where
  /-- The label in its own characters. -/
  full : List Char
  /-- The label in ASCII. -/
  ascii : List Char
deriving DecidableEq, Inhabited

/-- The greatest length of a label with characters beyond ASCII. -/
def longestFull : Nat := 1000

/-- The greatest length of what stands behind the mark of a label that is encoded. -/
def longestEncoded : Nat := 2000

/-- The mark of labels that are encoded. -/
def encodedMark : List Char := ['x', 'n', '-', '-']

/-- Reads what stands behind the mark of a label that is encoded. -/
def readEncoded? (cs : List Char) : Option Label := do
  if longestEncoded < cs.length then none
  let full ← Punycode.decode? cs
  if full.all isAscii || longestFull < full.length || spellAll? full ≠ some full then none
  else some ⟨full, encodedMark ++ cs⟩

/-- Reads a label that is spelled as it should be. -/
def readLabel? (cs : List Char) : Option Label := do
  let label ←
    if encodedMark.isPrefixOf cs then
      if cs.all isAscii then readEncoded? (cs.drop encodedMark.length) else none
    else if cs.all isAscii then some ⟨cs, cs⟩
    else if cs.length ≤ longestFull then some ⟨cs, encodedMark ++ Punycode.encode cs⟩
    else none
  if label.full.head?.any isMark || !joinersFit [] label.full then none
  else some label

/-- A name in ASCII; nothing if a text is no name. -/
def asciiName? (cs : List Char) : Option (List Char) := do
  let labels ← (splitAt '.' (← spellAll? cs)).mapM readLabel?
  let directions := labels.map fun l => l.full.map Direction.ofChar
  if directions.any goesLeft && !directions.all keepsOrder then none
  else
    let name := ['.'].intercalate (labels.map (·.ascii))
    if name.any forbiddenInName then none else some name

end Url
end Mailshot
