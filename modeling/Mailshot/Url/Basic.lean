import Mailshot.Url.Host

/-!
# URLs

A `Url` in its parts, each already in the form in which it is written; `Url.text` puts them
together.  `Url.resolve` reads a text the way browsers do: blanks around it and line breaks inside
it do not count, backslashes are slashes in the schemes that have hosts, dots in a path are
resolved, and a text without a scheme is relative to a base.
-/

set_option autoImplicit false

namespace Mailshot

/-- The path of a URL. -/
inductive UrlPath where
  /-- Anything, behind a scheme without hosts. -/
  | opaqueText (s : String)
  /-- Segments, each behind a slash. -/
  | segments (l : List String)
deriving DecidableEq

/-- A URL. -/
structure Url where
  /-- The scheme, in small letters. -/
  scheme : String
  /-- The user name; empty if there is none. -/
  username : String
  /-- The password; empty if there is none. -/
  password : String
  /-- The host. -/
  host : Option String
  /-- The port, unless it is the usual one of the scheme. -/
  port : Option Nat
  /-- The path. -/
  path : UrlPath
  /-- What stands behind the question mark. -/
  query : Option String
  /-- What stands behind the number sign. -/
  fragment : Option String
deriving DecidableEq

namespace Url

/-! ## Text -/

/-- A path as it is written. -/
def pathText : UrlPath → String
  | .opaqueText s => s
  | .segments l => String.join (l.map ("/" ++ ·))

/-- User name and password as they are written, with the sign behind them. -/
def userText (u : Url) : String :=
  if u.username.isEmpty && u.password.isEmpty then ""
  else
    u.username ++ (if u.password.isEmpty then "" else ":" ++ u.password) ++ "@"

/-- A URL as it is written. -/
def text (u : Url) : String :=
  u.scheme ++ ":" ++
    (match u.host, u.path with
      | some host, _ =>
        "//" ++ u.userText ++ host ++ (u.port.map fun p => ":" ++ toString p).getD ""
      | none, .segments ("" :: _ :: _) => "/."
      | none, _ => "") ++
    pathText u.path ++ (u.query.map ("?" ++ ·)).getD "" ++ (u.fragment.map ("#" ++ ·)).getD ""

/-- The URL without user name and password. -/
def withoutUser (u : Url) : Url := { u with username := "", password := "" }

/-- Whether the scheme is one of the web. -/
def isWeb (u : Url) : Bool := u.scheme = "http" || u.scheme = "https"

/-! ## Schemes -/

/-- The usual port of a scheme. -/
def usualPort? (scheme : String) : Option Nat :=
  if scheme = "http" ∨ scheme = "ws" then some 80
  else if scheme = "https" ∨ scheme = "wss" then some 443
  else if scheme = "ftp" then some 21
  else none

/-- Whether a scheme has hosts and slashes of both kinds. -/
def isSpecial (scheme : String) : Bool := scheme = "file" || (usualPort? scheme).isSome

/-- The port that the URL leads to. -/
def effectivePort (u : Url) : Option Nat :=
  match u.port with
  | some p => some p
  | none => usualPort? u.scheme

/-- Whether a character is a slash in a scheme. -/
def isSlash (special : Bool) (c : Char) : Bool := c == '/' || (special && c == '\\')

/-- The scheme in front of a colon, and what stands behind. -/
def splitScheme? (cs : List Char) : Option (String × List Char) :=
  let isSchemeChar (c : Char) : Bool := c.isAlphanum || c == '+' || c == '-' || c == '.'
  match cs with
  | [] => none
  | c :: _ =>
    if c.isAlpha then
      match cs.dropWhile isSchemeChar with
      | ':' :: rest => some (String.ofList ((cs.takeWhile isSchemeChar).map Char.toLower), rest)
      | _ => none
    else none

/-! ## Paths -/

/-- Whether a segment stands for the place that it is in. -/
def isSingleDot (s : String) : Bool := Charset.smallAscii s ∈ [".", "%2e"]

/-- Whether a segment stands for the place above. -/
def isDoubleDot (s : String) : Bool := Charset.smallAscii s ∈ ["..", ".%2e", "%2e.", "%2e%2e"]

/-- Whether a segment names a drive: one letter and a colon or a bar. -/
def isDrive (s : String) : Bool :=
  match s.toList with
  | [c, mark] => c.isAlpha && (mark == ':' || mark == '|')
  | _ => false

/-- The place above a path.  Nothing is above a drive. -/
def above (path : List String) : List String :=
  if path.getLast?.any isDrive then path else path.dropLast

/-- A segment behind others.  At the beginning of the path of a file, the name of a drive is written
with a colon. -/
def spelled (file : Bool) (path : List String) (s : String) : String :=
  if file && path.isEmpty && isDrive s then String.ofList (s.toList.take 1) ++ ":" else s

/-- Appends segments to a path, resolving dots; the last segment of the list ends the path. -/
def walk (file : Bool) (path : List String) : List String → List String
  | [] => path
  | [s] =>
    if isDoubleDot s then above path ++ [""]
    else if isSingleDot s then path ++ [""]
    else path ++ [spelled file path s]
  | s :: rest =>
    if isDoubleDot s then walk file (above path) rest
    else if isSingleDot s then walk file path rest
    else walk file (path ++ [spelled file path s]) rest

/-- The parts of a list between the characters of a kind. -/
def splitWhere (kind : Char → Bool) : List Char → List (List Char)
  | [] => [[]]
  | c :: cs =>
    if kind c then [] :: splitWhere kind cs
    else
      match splitWhere kind cs with
      | part :: parts => (c :: part) :: parts
      | [] => [[c]]

/-- Reads segments behind those of a path. -/
def readSegments (special : Bool) (path : List String) (cs : List Char) : List String :=
  walk false path ((splitWhere (isSlash special) cs).map (encode pathSet))

/-- Reads the segments of a file's path. -/
def readFileSegments (cs : List Char) : List String :=
  walk true [] ((splitWhere (isSlash true) cs).map (encode pathSet))

/-- A path without the empty segments in front. -/
def dropEmpty (path : List String) : List String :=
  match path.dropWhile (· = "") with
  | [] => [""]
  | path => path

/-! ## Parts -/

/-- What stands in front of the query and the fragment, and these two. -/
def splitTail (special : Bool) (cs : List Char) :
    List Char × Option String × Option String :=
  let (front, fragment) :=
    match cs.dropWhile (· ≠ '#') with
    | _ :: f => (cs.takeWhile (· ≠ '#'), some (encode fragmentSet f))
    | [] => (cs, none)
  match front.dropWhile (· ≠ '?') with
  | _ :: q =>
    (front.takeWhile (· ≠ '?'),
      some (encode (if special then specialQuerySet else querySet) q), fragment)
  | [] => (front, none, fragment)

/-- A port, with its colon in front, and what stands behind it: nothing, or a text that starts with
a backslash. -/
def readPort (scheme : String) : List Char → Except UrlFault (Option Nat × List Char)
  | [] => .ok (none, [])
  | _ :: cs =>
    let digits := cs.takeWhile Char.isDigit
    let rest := cs.dropWhile Char.isDigit
    let n := Decimal.ofDigits digits
    if 65535 < n ∨ rest.head?.any (· ≠ '\\') then .error .port
    else .ok (if digits.isEmpty || some n = usualPort? scheme then none else some n, rest)

/-- Where the port begins: at the first colon that is not inside brackets. -/
def splitPort (inside : Bool) : List Char → List Char × List Char
  | [] => ([], [])
  | c :: cs =>
    if c = ':' ∧ !inside then ([], c :: cs)
    else
      let inside := if c = '[' then true else if c = ']' then false else inside
      let (host, port) := splitPort inside cs
      (c :: host, port)

/-- What stands in front of the last sign between user and host, and what stands behind. -/
def splitUser (cs : List Char) : Option (List Char) × List Char :=
  let back := cs.reverse
  match back.dropWhile (· ≠ '@') with
  | _ :: user => (some user.reverse, (back.takeWhile (· ≠ '@')).reverse)
  | [] => (none, cs)

/-- User, host and port, and what stands behind the port.  A host may only be empty where neither a
user nor a port belongs to it. -/
def readAuthority (scheme : String) (cs : List Char) :
    Except UrlFault (String × String × String × Option Nat × List Char) := do
  let (user, address) := splitUser cs
  let user := user.getD []
  let username := encode userSet (user.takeWhile (· ≠ ':'))
  let password := encode userSet ((user.dropWhile (· ≠ ':')).drop 1)
  let (name, port) := splitPort false address
  let needed := isSpecial scheme || !username.isEmpty || !password.isEmpty || !port.isEmpty
  if name.isEmpty && needed then throw .emptyHost
  let host ← if isSpecial scheme then readHost name else readOpaqueHost name
  let (port, rest) ← readPort scheme port
  return (username, password, host, port, rest)

/-- A URL from what stands behind the two slashes. -/
def behindSlashes (scheme : String) (cs : List Char) (query fragment : Option String) :
    Except UrlFault Url := do
  let special := isSpecial scheme
  let authority := cs.takeWhile (!isSlash special ·)
  let behind := cs.dropWhile (!isSlash special ·)
  let isLast := behind.isEmpty && query.isNone && fragment.isNone
  if authority = ['@'] && !isLast then throw .emptyHost
  let (username, password, host, port, rest) ← readAuthority scheme authority
  let path := match rest, behind with
    | [], _ :: behind => readSegments special [] behind
    | [], [] => if special then [""] else []
    | rest, behind => readSegments special [] (rest ++ behind)
  return ⟨scheme, username, password, some host, port, .segments path, query, fragment⟩

/-- The host and the path of a file, from what stands behind the colon; the path may have empty
segments in front.  A host that is this machine is left out, and so is any host in front of a
drive. -/
def readFile (cs : List Char) : Except UrlFault (String × List String) :=
  match cs with
  | [] => .ok ("", readFileSegments [])
  | a :: rest =>
    if !isSlash true a then .ok ("", readFileSegments cs)
    else if !rest.head?.any (isSlash true) then .ok ("", readFileSegments rest)
    else
      let cs := rest.drop 1
      let name := cs.takeWhile (!isSlash true ·)
      let behind := cs.dropWhile (!isSlash true ·)
      if isDrive (String.ofList name) then .ok ("", readFileSegments cs)
      else if name.isEmpty then .ok ("", readFileSegments behind)
      else
        match readHost name with
        | .error fault => .error fault
        | .ok host =>
          if host = "localhost" then .ok ("", readFileSegments behind)
          else
            let path := readFileSegments (behind.drop 1)
            .ok (if path.head?.any isDrive then "" else host, path)

/-- A URL of a file, from what stands behind the colon. -/
def fileUrl (cs : List Char) (query fragment : Option String) : Except UrlFault Url := do
  let (host, path) ← readFile cs
  return ⟨"file", "", "", some host, none, .segments (dropEmpty path), query, fragment⟩

/-- A URL without a base, from its scheme and what stands behind the colon. -/
def absolute (scheme : String) (cs : List Char) : Except UrlFault Url :=
  let special := isSpecial scheme
  let (front, query, fragment) := splitTail special cs
  if scheme = "file" then fileUrl front query fragment
  else if special then
    behindSlashes scheme (front.dropWhile (isSlash true)) query fragment
  else
    match front with
    | '/' :: '/' :: rest => behindSlashes scheme rest query fragment
    | '/' :: rest =>
      .ok ⟨scheme, "", "", none, none, .segments (readSegments false [] rest), query, fragment⟩
    | front =>
      .ok ⟨scheme, "", "", none, none, .opaqueText (encode controlSet front), query, fragment⟩

/-- A URL relative to a base. -/
def relative (base : Url) (cs : List Char) : Except UrlFault Url :=
  let special := isSpecial base.scheme
  let (front, query, fragment) := splitTail special cs
  match base.path with
  | .opaqueText _ =>
    if front.isEmpty ∧ query.isNone ∧ fragment.isSome then .ok { base with fragment }
    else .error .opaqueBase
  | .segments path =>
    match front with
    | [] => .ok { base with query := if query.isSome then query else base.query, fragment }
    | a :: rest =>
      if isSlash special a then
        match rest with
        | b :: rest' =>
          if isSlash special b then
            behindSlashes base.scheme (if special then rest'.dropWhile (isSlash true) else rest')
              query fragment
          else .ok { base with path := .segments (readSegments special [] rest), query, fragment }
        | [] => .ok { base with path := .segments (readSegments special [] rest), query, fragment }
      else
        .ok { base with
          path := .segments (readSegments special path.dropLast front), query, fragment }

/-! ## Reading -/

/-- Drops blanks and controls around a text, and tabs and line breaks inside it. -/
def tidy (s : String) : List Char :=
  let isEdge (c : Char) : Bool := decide (c.toNat ≤ 0x20)
  let cs := ((s.toList.dropWhile isEdge).reverse.dropWhile isEdge).reverse
  cs.filter fun c => c ≠ '\t' && c ≠ '\n' && c ≠ '\r'

/-- Reads a URL that has to be complete. -/
def ofText (s : String) : Except UrlFault Url :=
  match splitScheme? (tidy s) with
  | some (scheme, rest) => absolute scheme rest
  | none => .error .noBase

/-- Reads a URL that may be relative to a base. -/
def resolve (base : Url) (s : String) : Except UrlFault Url :=
  let cs := tidy s
  match splitScheme? cs with
  | some (scheme, rest) =>
    let slashes := (rest.takeWhile (isSlash true)).length
    if scheme = base.scheme ∧ isSpecial scheme ∧ scheme ≠ "file" ∧ slashes < 2 then
      relative base rest
    else absolute scheme rest
  | none => relative base cs

end Url

end Mailshot
