/-!
# Finding text in text

`occursIn` says whether one list of characters stands somewhere inside another; `splitFirst?` cuts a
list at the first place where a pattern stands.
-/

set_option autoImplicit false

namespace Mailshot

/-- Whether `needle` is a contiguous part of the list. -/
def occursIn (needle : List Char) : List Char → Bool
  | [] => needle.isEmpty
  | c :: cs => needle.isPrefixOf (c :: cs) || occursIn needle cs

/-- The test decides the relation "is a contiguous part of". -/
theorem occursIn_iff (needle hay : List Char) : occursIn needle hay = true ↔ needle <:+: hay := by
  induction hay with
  | nil => simp [occursIn]
  | cons c cs ih =>
    rw [occursIn, Bool.or_eq_true, ih, List.infix_cons_iff, List.isPrefixOf_iff_prefix]

/-- What stands before and after the first occurrence of `pattern`. -/
def splitFirst? (pattern : List Char) : List Char → Option (List Char × List Char)
  | [] => if pattern.isEmpty then some ([], []) else none
  | c :: cs =>
    if pattern.isPrefixOf (c :: cs) then some ([], (c :: cs).drop pattern.length)
    else (splitFirst? pattern cs).map fun p => (c :: p.1, p.2)

/-- Whether a text stands somewhere inside another. -/
def containsText (hay needle : String) : Bool := occursIn needle.toList hay.toList

end Mailshot
