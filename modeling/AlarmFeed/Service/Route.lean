/-
**Routes.**

A route says which paths are served. A path without braces serves itself, and the empty one the root. In
any other, `{name}` stands for one part without slashes and braces, and `{name:pattern}` for whatever
the pattern matches; what stands between them is escaped as in an address. A request is held against
such a route only if its path leads through the folder that the path in front of the first brace names.
What the groups of a pattern match is not asked for: a path is served also where a group takes no part.

* `Route.read` reads a route from the path that is to be served;
* `Route.serves` says whether a path is served.
-/

import AlarmFeed.Fault
import AlarmFeed.Pattern.Reader
import AlarmFeed.Text.Percent

namespace AlarmFeed

/-- Which paths are served. -/
inductive Route
  | exact (path : Text)
  /-- The paths through a folder that a pattern matches as a whole. -/
  | matching (folder : Text) (whole : Pattern)

namespace Route

/-! ### Parts between braces -/

/-- What stands up to the brace that closes a part, and the rest. A part can hold parts in braces, and
those hold none. -/
def cutBraced (inner : Bool) : Text → Option (Text × Text)
  | [] => none
  | c :: rest =>
    if c = '\x7b' then if inner then none else more c (cutBraced true rest)
    else if c = '\x7d' then if inner then more c (cutBraced false rest) else some ([], rest)
    else more c (cutBraced inner rest)
where
  /-- The same with one code point in front. -/
  more (c : CodePoint) (cut : Option (Text × Text)) : Option (Text × Text) :=
    cut.map fun (part, rest) => (c :: part, rest)

/-- What a name starts with. -/
def startsName (c : CodePoint) : Bool :=
  c.isLetter || c == '_'

/-- One part of a path, and whether it stands between braces. -/
structure Part where
  content : Text
  braced : Bool
  deriving DecidableEq

/-- The parts of a path, given at least as much fuel as it has code points and the text in front of it
that belongs to its first part. -/
def partsFrom : Nat → Text → Text → List Part
  | 0, held, _ => [⟨held, false⟩]
  | _, held, [] => [⟨held, false⟩]
  | fuel + 1, held, c :: rest =>
    match if c = '\x7b' ∧ rest.head?.any startsName then cutBraced false rest else none with
    | some (part, rest) => ⟨held, false⟩ :: ⟨part, true⟩ :: partsFrom fuel [] rest
    | none => partsFrom fuel (held ++ [c]) rest

/-- The parts of a path. -/
def parts (path : Text) : List Part :=
  partsFrom (path.length + 1) [] path

/-! ### Patterns -/

/-- What stands for itself in a path. -/
def isPathPoint (c : CodePoint) : Bool :=
  Percent.isUnreserved c || ("!$'()*,+&=;@:/%" : Text).contains c

/-- A part of a path with its escapes; surrogates are left out. -/
def escaped (part : Text) : Text :=
  (part.filter fun c => !c.isSurrogate).flatMap fun c =>
    if isPathPoint c then [c] else Percent.escape c

/-- The code points that mean something in a pattern. -/
def isSpecial (c : CodePoint) : Bool :=
  ("()[]\x7b\x7d?*+-|^$\\.&~# \t\n\r\x0b\x0c" : Text).contains c

/-- The pattern that matches a text alone. -/
def literally (t : Text) : Text :=
  t.flatMap fun c => if isSpecial c then ['\\', c] else [c]

/-- Whether a text is a name. -/
def isName (t : Text) : Bool :=
  t.head?.any startsName && t.all fun c => startsName c || c.isDigit

/-- A named group of a pattern. -/
def namedGroup (name pattern : Text) : Text :=
  ("(?P<" : Text) ++ name ++ (">" : Text) ++ pattern ++ (")" : Text)

/-- The pattern of a part between braces, if it is one. -/
def bracedPattern? (content : Text) : Option Text :=
  if isName content then some (namedGroup content "[^\x7b\x7d/]+")
  else match Text.cutAt? ':' content with
    | some (name, pattern) =>
      if isName name ∧ pattern ≠ [] ∧ !pattern.contains '\n' then some (namedGroup name pattern)
      else none
    | none => none

/-- The pattern of a part; what is at fault is given back. -/
def partPattern (part : Part) : Except Text Text :=
  if part.braced then
    match bracedPattern? part.content with
    | some pattern => .ok pattern
    | none => .error (("\x7b" : Text) ++ part.content ++ ("\x7d" : Text))
  else if part.content.contains '\x7b' || part.content.contains '\x7d' then .error part.content
  else .ok (literally (escaped part.content))

/-- The folder that a path in front of a brace names: all up to the last slash, without slashes at its
end. -/
def folderOf (start : Text) : Text :=
  let slash : CodePoint := '/'
  let upToSlash := (start.reverse.dropWhile (· != slash)).drop 1
  match (upToSlash.dropWhile (· == slash)).reverse with
  | [] => "/"
  | folder => folder

/-! ### Routes -/

/-- The route of a path with braces. -/
def readBraced (path : Text) : Except Fault Route := do
  let parts := parts path
  let patterns ← (parts.mapM partPattern).mapError fun part =>
    .general .value <|
      ("Invalid path '" : Text) ++ path ++ ("'['" : Text) ++ part ++ ("']" : Text)
  let whole := patterns.flatten
  match Pattern.read whole with
  | .ok pattern =>
    return .matching (folderOf (escaped ((parts.head?.map Part.content).getD []))) pattern
  | .error flaw =>
    match flaw with
    | .tooOften | .tooGreat => throw (.general .overflow (flaw.message whole))
    | .tooLong _ => throw (.general .value (flaw.message whole))
    | _ =>
      throw <| .general .value <|
        ("Bad pattern '" : Text) ++ whole ++ ("': " : Text) ++ flaw.message whole

/-- The route that serves a path. -/
def read (path : Text) : Except Fault Route :=
  match path with
  | [] => .ok (.exact "/")
  | c :: _ =>
    if c ≠ '/' then .error (.general .value "path should be started with / or be empty")
    else if path.contains '\x7b' || path.contains '\x7d' then readBraced path
    else .ok (.exact path)

/-- Whether a path leads through a folder. -/
def leadsThrough (folder path : Text) : Bool :=
  path ≠ [] && (folder == "/" || folder == path || Text.startsWith (folder ++ ("/" : Text)) path)

/-- Whether a path is served. -/
def serves (route : Route) (path : Text) : Bool :=
  match route with
  | .exact served => path == served
  | .matching folder whole => leadsThrough folder path && whole.isWhole path

end Route

end AlarmFeed
