/-!
# Paths

A path is a text whose segments stand between slashes; one that starts with a slash starts at the
root.  These functions work on the text alone, so a path keeps the spelling that it came with.
`Path.place` alone resolves dots: it gives the names that lead to a path from the root.
-/

set_option autoImplicit false

namespace Mailshot
namespace Path

/-- Whether a path starts at the root. -/
def isAbsolute (path : String) : Bool := path.toList.head? = some '/'

/-- The segments of a path; an empty one stands in front of a leading slash. -/
def segments (path : String) : List String := path.splitOn "/"

/-- The path that a second one names, seen from the first. -/
def join (base path : String) : String :=
  if isAbsolute path || base.isEmpty then path
  else if base.toList.getLast? = some '/' then base ++ path
  else base ++ "/" ++ path

/-- Drops segments that name nothing from the end of a path, whose last segment comes first here.
A dot counts only at the start of a path that does not start at the root. -/
def dropIdle (rooted : Bool) : List String → List String
  | [] => []
  | segment :: before =>
    if segment = "" || (segment = "." && (rooted || !before.isEmpty)) then dropIdle rooted before
    else segment :: before

/-- The path without its last segment; the root and the empty path have none. -/
def parent? (path : String) : Option String :=
  let rooted := isAbsolute path
  let all := if rooted then (segments path).drop 1 else segments path
  match dropIdle rooted all.reverse with
  | [] => none
  | _ :: before =>
    let kept := "/".intercalate (dropIdle rooted before).reverse
    some (if rooted then "/" ++ kept else kept)

/-- At most so many paths: a path, the path without its last segment, and so on. -/
def ancestorsWithin : Nat → String → List String
  | 0, _ => []
  | n + 1, path =>
    if path = "" then []
    else
      match parent? path with
      | none => []
      | some parent => path :: ancestorsWithin n parent

/-- A path and the paths above it, the longest first, without the root and the empty path.  Each is
shorter than the one in front of it, so the length of the path bounds their number. -/
def ancestors (path : String) : List String := ancestorsWithin (path.length + 1) path

/-- The place that segments name, seen from a place, where a step back takes away whatever name is
in front of it. -/
def placeFrom (place : List String) : List String → List String
  | [] => place
  | segment :: rest =>
    if segment = "" ∨ segment = "." then placeFrom place rest
    else if segment = ".." then placeFrom place.dropLast rest
    else placeFrom (place ++ [segment]) rest

/-- The place that a path names, seen from a place, going by the text alone. -/
def place (here : List String) (path : String) : List String :=
  placeFrom (if isAbsolute path then [] else here) (segments path)

end Path
end Mailshot
