import Mailshot.Url.Name

/-!
# Hosts

The host of a URL as it is written: a name, or an address in figures.  What a name may be depends on
the scheme.
-/

set_option autoImplicit false

namespace Mailshot
namespace Url

/-- The host of a scheme that knows hosts by name. -/
def readHost (cs : List Char) : Except UrlFault String :=
  match cs with
  | '[' :: rest =>
    if rest.getLast? = some ']' then
      match ipv6? rest.dropLast with
      | some groups => .ok (ipv6Text groups)
      | none => .error .ipv6
    else .error .ipv6
  | cs =>
    match (Charset.utf8Text? (decodeBytes cs)).bind fun s => asciiName? s.toList with
    | none => .error .domainName
    | some [] => .error .emptyHost
    | some name =>
      if endsInNumber name then
        match ipv4? name with
        | some n => .ok (ipv4Text n)
        | none => .error .ipv4
      else .ok (String.ofList name)

/-- The host of any other scheme: a text that is kept as it is. -/
def readOpaqueHost (cs : List Char) : Except UrlFault String :=
  match cs with
  | '[' :: _ => readHost cs
  | cs =>
    if cs.any forbiddenInHost then .error .hostCharacter else .ok (encode controlSet cs)

end Url
end Mailshot
