/-
**The head of a request.**

A request starts with a line that names a method, a target and the version of the protocol; behind it
stands a line for each header. `Head.read` takes a head apart. It stops at the first code point that
cannot stand where it stands, and the report shows the line with a mark under that place. A target or a
header that is too long is refused, and so are an address that names no host and a header that is there
twice though there can be only one of its name.
-/

import AlarmFeed.Service.Target
import AlarmFeed.Value

namespace AlarmFeed

/-- What a line fails at. -/
inductive LineFlaw
  | method
  /-- The version, or that the method belongs to another protocol. -/
  | version
  | other
  deriving DecidableEq

/-- Where reading a head stopped. -/
structure Stop where
  flaw : LineFlaw := .other
  reason : Text
  /-- What was not read. -/
  rest : Text

/-- Why a head is refused. -/
inductive HeadFlaw
  /-- Something cannot stand between what was read and the rest. -/
  | stopped (flaw : LineFlaw) (reason before rest : Text)
  /-- A target or a part of a header has too many bytes. -/
  | tooLong (content : Text)
  /-- An address names no host, or no number behind it. -/
  | address (target : Text)
  | repeated (name : Text)

/-- A head that was read. -/
structure Head where
  method : Text
  /-- The path that the target asks for. -/
  path : Text
  headers : List (Text × Text)
  deriving DecidableEq

/-- The most bytes of a target, or of the name or the value of a header. -/
def Head.sizeLimit : Nat := 8190

/-! ### Reports -/

namespace HeadFlaw

/-- What stands in front of the first end of a line, or of a NUL. -/
def firstLine : Text → Text
  | c :: d :: rest =>
    if c.val = 0 ∨ c = '\r' ∧ d = '\n' then [] else c :: firstLine (d :: rest)
  | [c] => if c.val = 0 then [] else [c]
  | [] => []

/-- The code points of the last line in reverse order, given those of all lines in reverse order. -/
def lastLineReversed : Text → Text
  | c :: d :: rest => if c = '\n' ∧ d = '\r' then [] else c :: lastLineReversed (d :: rest)
  | t => t

/-- The last line. -/
def lastLine (t : Text) : Text :=
  (lastLineReversed t.reverse).reverse

/-- A text between quotes as its bytes. -/
def shown (t : Text) : Text :=
  Value.bytesLiteral (Utf8.encode t)

/-- What is wrong with a head, in words. -/
def message : HeadFlaw → Text
  | stopped flaw reason before rest =>
    let before := lastLine before
    let start : Text := if flaw = .version then "Bad status line:\n  " else []
    let space : CodePoint := ' '
    start ++ reason ++ (":\n\n  " : Text) ++ shown (before ++ firstLine rest) ++ ("\n  " : Text)
      ++ List.replicate ((shown before).length - 1) space ++ ("^" : Text)
  | tooLong content =>
    let start : Bytes := (Utf8.encode content).take 100 ++ Utf8.encode "..."
    ("Got more than 8190 bytes when reading: " : Text) ++ Value.bytesLiteral start ++ ("." : Text)
  | address target => target
  | repeated name => ("Duplicate '" : Text) ++ name ++ ("' header found." : Text)

/-- Whether the flaw is that no method is known by the name. -/
def isMethod : HeadFlaw → Bool
  | stopped flaw _ _ _ => flaw == .method
  | _ => false

end HeadFlaw

namespace Head

/-! ### The method -/

/-- The methods of this protocol. -/
def methods : List Text := List.map Text.ofString
  ["DELETE", "GET", "HEAD", "POST", "PUT", "CONNECT", "OPTIONS", "TRACE", "COPY", "LOCK", "MKCOL",
    "MOVE", "PROPFIND", "PROPPATCH", "SEARCH", "UNLOCK", "BIND", "REBIND", "UNBIND", "ACL", "REPORT",
    "MKACTIVITY", "CHECKOUT", "MERGE", "M-SEARCH", "NOTIFY", "SUBSCRIBE", "UNSUBSCRIBE", "PATCH",
    "PURGE", "MKCALENDAR", "LINK", "UNLINK", "SOURCE", "PRI", "QUERY"]

/-- The methods of a protocol for streams that are none of this one. -/
def streamMethods : List Text := List.map Text.ofString
  ["DESCRIBE", "ANNOUNCE", "SETUP", "PLAY", "PAUSE", "TEARDOWN", "GET_PARAMETER", "SET_PARAMETER",
    "REDIRECT", "RECORD", "FLUSH"]

/-- The methods that the two protocols share. -/
def sharedMethods : List Text :=
  List.map Text.ofString ["OPTIONS", "GET", "POST"]

/-- How many code points two texts have in common at their starts. -/
def common : Text → Text → Nat
  | a :: s, b :: t => if a = b then common s t + 1 else 0
  | _, _ => 0

/-- A space. -/
def isSpace (c : CodePoint) : Bool :=
  c == ' '

/-- Reads the longest start of a method; it has to be a method with a space behind it. -/
def readMethod (t : Text) : Except Stop (Text × Text) :=
  let known := methods ++ streamMethods
  let size := (known.map fun method => common method t).foldl max 0
  let rest := t.drop size
  if !known.contains (t.take size) then .error ⟨.method, "Invalid method encountered", rest⟩
  else if rest.head? ≠ some ' ' then .error ⟨.method, "Expected space after method", rest⟩
  else .ok (t.take size, rest.dropWhile isSpace)

/-! ### The target -/

/-- A code point that can stand in any part of a target. -/
def isTargetPoint (c : CodePoint) : Bool :=
  0x80 ≤ c.val || (0x20 < c.val && c.val < 0x7F && c != '?' && c != '#')

/-- A code point that can stand in the host of a target. -/
def isHostPoint (c : CodePoint) : Bool :=
  c.isLetter || c.isDigit || ("-_.!~*'()%;:&=+$,[]" : Text).contains c

/-- A code point that ends a target. -/
def isTargetEnd (c : CodePoint) : Bool :=
  c == ' ' || c == '\r' || c == '\n'

/-- A tab or a form feed. -/
def isTab (c : CodePoint) : Bool :=
  c == '\t' || c.val == 0x0C

/-- The parts of a target behind the host. -/
inductive Zone
  | path
  | query
  | fragment
  deriving DecidableEq

/-- A flaw of a target. -/
def targetFlaw {α : Type} (reason rest : Text) : Except Stop α :=
  .error ⟨.other, reason, rest⟩

/-- A space, a tab or the end of a line in the middle of a target. -/
def blankInTarget {α : Type} (rest : Text) : Except Stop α :=
  targetFlaw "Invalid characters in url" rest

/-- The rest behind a target, from within one of its parts. -/
def skipZone : Zone → Text → Except Stop Text
  | _, [] => .ok []
  | zone, c :: rest =>
    if isTargetEnd c then .ok (c :: rest)
    else if isTab c then blankInTarget rest
    else if isTargetPoint c then skipZone zone rest
    else match zone with
      | .path =>
        if c = '?' then skipZone .query rest
        else if c = '#' then skipZone .fragment rest
        else targetFlaw "Invalid char in url path" (c :: rest)
      | .query =>
        if c = '?' then skipZone .query rest
        else if c = '#' then skipZone .fragment rest
        else targetFlaw "Invalid char in url query" (c :: rest)
      | .fragment =>
        if c = '?' ∨ c = '#' then skipZone .fragment rest
        else targetFlaw "Invalid char in url fragment" (c :: rest)

/-- The rest behind a target, from within its host; two at signs cannot follow each other. -/
def skipHost (behindAt : Bool) : Text → Except Stop Text
  | [] => .ok []
  | c :: rest =>
    if isTargetEnd c then .ok (c :: rest)
    else if isTab c then blankInTarget rest
    else if c = '/' then skipZone .path rest
    else if c = '?' then skipZone .query rest
    else if isHostPoint c then skipHost false rest
    else if c = '@' then
      if behindAt then targetFlaw "Double @ in url" rest else skipHost true rest
    else targetFlaw "Unexpected char in url server" (c :: rest)

/-- The rest behind a target, from within its scheme. -/
def skipScheme : Text → Except Stop Text
  | [] => .ok []
  | c :: rest =>
    if c.isLetter then skipScheme rest
    else if isTargetEnd c || isTab c then blankInTarget rest
    else if c ≠ ':' then targetFlaw "Unexpected char in url schema" (c :: rest)
    else match rest with
      | d :: inner =>
        if isTargetEnd d || isTab d then blankInTarget inner
        else if d ≠ '/' then targetFlaw "Unexpected char in url schema" rest
        else match Text.after? "/" inner with
          | some host => skipHost false host
          | none => targetFlaw "Unexpected char in url schema" inner
      | [] => targetFlaw "Unexpected char in url schema" []

/-- The rest behind a target. -/
def skipTarget (connecting : Bool) (t : Text) : Except Stop Text :=
  if connecting then skipHost false t
  else match t with
    | [] => .ok []
    | c :: rest =>
      if c = '/' ∨ c = '*' then skipZone .path rest
      else if c.isLetter then skipScheme rest
      else if isTargetEnd c || isTab c then blankInTarget rest
      else targetFlaw "Unexpected start char in url" (c :: rest)

/-! ### The version -/

/-- A flaw of a version. -/
def versionFlaw {α : Type} (reason rest : Text) : Except Stop α :=
  .error ⟨.version, reason, rest⟩

/-- The rest behind the number of a version and the end of its line. -/
def skipVersion (t : Text) : Except Stop Text :=
  match t with
  | major :: rest =>
    if !major.isDigit then versionFlaw "Invalid major version" t
    else match rest with
      | point :: inner =>
        if point ≠ '.' then versionFlaw "Expected dot" rest
        else match inner with
          | minor :: rest =>
            if !minor.isDigit then versionFlaw "Invalid minor version" inner
            else if !known.contains (major.digitValue, minor.digitValue) then
              versionFlaw "Invalid HTTP version" rest
            else match Text.after? "\r\n" rest with
              | some rest => .ok rest
              | none => versionFlaw "Expected CRLF after version" (rest.drop (common "\r\n" rest))
          | [] => versionFlaw "Invalid minor version" []
      | [] => versionFlaw "Expected dot" []
  | [] => versionFlaw "Invalid major version" []
where
  /-- The versions that are known. -/
  known : List (Nat × Nat) := [(0, 9), (1, 0), (1, 1), (2, 0)]

/-- The protocols, each with its methods and what is said of any other. -/
def protocols : List (Text × List Text × Text) :=
  [("HTTP/", methods, "Invalid method for HTTP/x.x request"),
    ("RTSP/", sharedMethods ++ streamMethods, "Invalid method for RTSP/x.x request"),
    ("ICE/", ["SOURCE"], "Expected SOURCE method for ICE/x.x request")]

/-- The rest behind the name and the version of a protocol that has the method. -/
def skipProtocol (method t : Text) : Except Stop Text :=
  let named (protocol : Text × List Text × Text) : Option (Text × List Text × Text) :=
    (Text.after? protocol.1 t).map fun rest => (rest, protocol.2)
  match protocols.findSome? named with
  | some (rest, known, reason) =>
    if known.contains method then skipVersion rest else versionFlaw reason rest
  | none =>
    let size := (protocols.map fun protocol => common protocol.1 t).foldl max 0
    versionFlaw "Expected HTTP/, RTSP/ or ICE/" (t.drop size)

/-- The rest behind a line, from behind its target; a line may end there. -/
def skipLine (method t : Text) : Except Stop Text :=
  match t.dropWhile isSpace with
  | [] => .ok []
  | c :: rest =>
    if c = '\n' then .ok rest
    else if c = '\r' then .ok (if rest.head? = some '\n' then rest.drop 1 else rest)
    else skipProtocol method (c :: rest)

/-! ### Headers -/

/-- A code point of a header's name. -/
def isNamePoint (c : CodePoint) : Bool :=
  c.isLetter || c.isDigit || ("!#$%&'*+-.^_`|~" : Text).contains c

/-- A code point of a header's value. -/
def isValuePoint (c : CodePoint) : Bool :=
  c == '\t' || (0x20 ≤ c.val && c.val != 0x7F)

/-- A space or a tab. -/
def isBlank (c : CodePoint) : Bool :=
  c == ' ' || c == '\t'

/-- The headers that say how the rest of the exchange is read. -/
def framing : List Text := List.map Text.ofString
  ["connection", "content-length", "proxy-connection", "transfer-encoding", "upgrade"]

/-- Reads the name of a header and the colon behind it. -/
def readName (t : Text) : Except Stop (Text × Text) :=
  let (name, rest) := t.span isNamePoint
  if name ≠ [] ∧ rest.head? = some ':' then .ok (name, rest.drop 1)
  else if framing.contains (Text.lower name) ∧ rest.head? = some ' ' then
    .error ⟨.other, "Invalid header field char", rest⟩
  else .error ⟨.other, "Invalid header token", rest⟩

/-- Reads a header's value up to the end of its line. -/
def readValue (t : Text) : Except Stop (Text × Text) :=
  let (value, rest) := (t.dropWhile isBlank).span isValuePoint
  match Text.after? "\r\n" rest with
  | some behind => .ok (value, behind)
  | none =>
    if rest.head? = some '\r' then
      .error ⟨.other, "Missing expected LF after header value", rest.drop 1⟩
    else if rest.head? = some '\n' then
      .error ⟨.other, "Missing expected CR after header value", rest.drop 1⟩
    else .error ⟨.other, "Invalid header value char", rest⟩

/-- Whether the length of a body can be announced by the value at the start of a text, and that but
once. -/
def checkLength (known : List (Text × Text)) (t : Text) : Except Stop Unit :=
  let value := t.dropWhile isBlank
  let behind := (value.dropWhile CodePoint.isDigit).dropWhile isSpace
  if value.head? = some '\r' then .error ⟨.other, "Empty Content-Length", value⟩
  else if known.any fun header => header.1.lower == "content-length" then
    .error ⟨.other, "Content-Length already present", value⟩
  else if behind.head? ≠ some '\r' ∨ value.head?.any (!·.isDigit) then
    .error ⟨.other, "Invalid character in Content-Length", behind⟩
  else .ok ()

/-- A line cannot go on from the one in front of it. -/
def checkStart (known : List (Text × Text)) (t : Text) : Except Stop Unit :=
  match known.getLast? with
  | none =>
    if t.head? = some ' ' then .error ⟨.other, "Unexpected space after start line", t.drop 1⟩
    else .ok ()
  | some (_, value) =>
    if !t.head?.any isBlank then .ok ()
    else if value = [] then .error ⟨.other, "Invalid header value char", t.drop 1⟩
    else .error ⟨.other, "Unexpected whitespace after header value", t⟩

/-- A part that is not too long. -/
def checkSize (part : Text) : Except HeadFlaw Unit :=
  if sizeLimit < Utf8.length part then .error (.tooLong part) else .ok ()

/-- The headers of which there can be only one. -/
def singletons : List Text := List.map Text.ofString
  ["Content-Length", "Content-Location", "Content-Range", "Content-Type", "ETag", "Host",
    "Max-Forwards", "Server", "Transfer-Encoding", "User-Agent"]

/-- Whether each of those headers is there but once. -/
def checkSingletons (headers : List (Text × Text)) : Except HeadFlaw Unit :=
  let count (name : Text) : Nat := headers.countP fun header => header.1.lower == Text.lower name
  match singletons.find? fun name => decide (1 < count name) with
  | some name => .error (.repeated name)
  | none => .ok ()

/-! ### The whole head -/

/-- What a step says of a whole head. -/
def within {α : Type} (head : Text) : Except Stop α → Except HeadFlaw α
  | .ok a => .ok a
  | .error stop =>
    .error (.stopped stop.flaw stop.reason (head.take (head.length - stop.rest.length)) stop.rest)

/-- Reads headers up to an empty line, given those in front of them and at least as much fuel as there
are code points. -/
def readHeaders (head : Text) :
    Nat → List (Text × Text) → Text → Except HeadFlaw (List (Text × Text))
  | 0, known, _ => .ok known
  | fuel + 1, known, t => do
    within head (checkStart known t)
    if (Text.after? "\r\n" t).isSome || t.isEmpty then return known
    let (name, rest) ← within head (readName t)
    checkSize name
    if name.lower = "content-length" then within head (checkLength known rest)
    let (value, rest) ← within head (readValue rest)
    checkSize value
    readHeaders head fuel (known ++ [(name, Text.trimEnd isBlank value)]) rest

/-- The name by which a method goes on: a younger one is not known by its own. -/
def knownAs (method : Text) : Text :=
  if method = "QUERY" then "<unknown>" else method

/-- Reads a head. -/
def read (head : Text) : Except HeadFlaw Head := do
  let (method, rest) ← within head (readMethod (head.dropWhile fun c => c == '\r' || c == '\n'))
  let connecting := method == "CONNECT"
  let behind ← within head (skipTarget connecting rest)
  let target := rest.take (rest.length - behind.length)
  checkSize target
  let rest ← within head (skipLine method behind)
  let some path := Target.path? connecting target | throw (.address target)
  let headers ← readHeaders head (rest.length + 1) [] rest
  checkSingletons headers
  return ⟨knownAs method, path, headers⟩

end Head

end AlarmFeed
