/-
**What a request asks for.**

The target of a request is a path with an optional query, an address, or, for a connection, a host with
a number behind it. `Target.path?` finds the path in it, none if the address cannot be one, and replaces
the escapes. An escaped slash or percent sign stays escaped, by upper-case digits. Bytes that are no UTF-8
stay as they are written.
-/

import AlarmFeed.Number.Numeral
import AlarmFeed.Text.Percent

namespace AlarmFeed.Target

/-! ### Escapes -/

/-- A code point that was escaped, as it stands in a path. -/
def unescaped (t : Text) : Text :=
  if t = "/" ∨ t = "%" then t.flatMap Percent.escape else t

/-- A text without its escapes, given the bytes of a code point that is not complete and the escapes
that they were read from. A byte that does not continue them is tried alone. -/
def unescapeFrom (bytes : Bytes) (held : Text) : Text → Text
  | percent :: high :: low :: rest =>
    match Percent.byte? percent high low with
    | none => held ++ percent :: unescapeFrom [] [] (high :: low :: rest)
    | some byte =>
      let here := [percent, high, low]
      match Utf8.decode false (bytes ++ [byte]), Utf8.decode false [byte] with
      | .ok point, _ => unescaped point ++ unescapeFrom [] [] rest
      | .error ⟨_, _, _, .unexpectedEnd⟩, _ => unescapeFrom (bytes ++ [byte]) (held ++ here) rest
      | .error _, .ok point => held ++ unescaped point ++ unescapeFrom [] [] rest
      | .error _, .error ⟨_, _, _, .unexpectedEnd⟩ => held ++ unescapeFrom [byte] here rest
      | .error _, .error _ => held ++ here ++ unescapeFrom [] [] rest
  | rest => held ++ rest

/-- A text without its escapes. -/
def unescape (t : Text) : Text :=
  unescapeFrom [] [] t

/-! ### Addresses -/

/-- Whether a text is empty or a number that can stand behind a host. -/
def isPortNumber (t : Text) : Bool :=
  t = [] ||
    match Numeral.read 10 t with
    | .ok n => 0 ≤ n && n ≤ 65535
    | .error _ => false

/-- What stands between brackets can be a host if it has colons, or a version and a point behind it. -/
def isBracketedHost (t : Text) : Bool :=
  match t with
  | [] => false
  | c :: rest =>
    if c = 'v' then
      let version := rest.takeWhile fun c => c.hexValue?.isSome
      version ≠ [] && (rest.drop version.length).head? == some (CodePoint.ofChar '.')
        && version.length + 1 < rest.length
    else t.contains ':'

/-- Whether what stands between the slashes and the path of an address names a host. -/
def hasHost (authority : Text) : Bool :=
  let host := (authority.reverse.takeWhile fun (c : CodePoint) => c != '@').reverse
  match Text.cutAt? '[' host, Text.cutAt? ']' host with
  | none, none =>
    let name := host.takeWhile fun (c : CodePoint) => c != ':'
    name ≠ [] && isPortNumber (host.drop (name.length + 1))
  | some (_, behind), some _ =>
    match Text.cutAt? ']' behind with
    | some (inner, rest) =>
      isBracketedHost inner && isPortNumber ((rest.dropWhile fun (c : CodePoint) => c != ':').drop 1)
    | none => false
  | _, _ => false

/-- The part of an address that names the resource, none if the address names no host. -/
def behindHost? (address : Text) : Option Text :=
  let authority := address.takeWhile fun (c : CodePoint) => c != '/' && c != '?' && c != '#'
  if hasHost authority then
    some ((address.drop authority.length).takeWhile fun (c : CodePoint) => c != '?' && c != '#')
  else none

/-- The part of a target that names the resource. In a path it goes up to the first question mark, and
only without one up to a hash sign. A connection names a host and no resource. -/
def rawPath? (connecting : Bool) (target : Text) : Option Text :=
  if connecting then
    let behind := target.dropWhile fun (c : CodePoint) => c != ':'
    if isPortNumber (behind.drop 1) then some [] else none
  else if target.head? = some '/' then
    let mark : CodePoint := if target.contains '?' then '?' else '#'
    some (target.takeWhile (· != mark))
  else
    let scheme := target.takeWhile CodePoint.isLetter
    match Text.after? "://" (target.drop scheme.length) with
    | some address => behindHost? address
    | none => some (target.takeWhile fun (c : CodePoint) => c != '?' && c != '#')

/-- The path that a target asks for. -/
def path? (connecting : Bool) (target : Text) : Option Text :=
  (rawPath? connecting target).map unescape

end AlarmFeed.Target
