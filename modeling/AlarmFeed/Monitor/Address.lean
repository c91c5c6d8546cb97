/-
**Addresses.**

The address of the monitor is a text made of a scheme, who asks, a host with a number behind it, a path,
a query and a fragment. `Address.read` takes the text apart, puts each part in its normal form and says
what is wrong with it; `Address.text` puts the parts together again, and that text is what a request is
sent to. In its normal form a part has escapes where it needs them, a path has no single or double
points, and the number that goes without saying is left out.

An address without a scheme or a host is relative: of it only the path and the query are sent.
-/

import AlarmFeed.Fault
import AlarmFeed.Monitor.HostName
import AlarmFeed.Number.Numeral
import AlarmFeed.Text.Base64

namespace AlarmFeed

/-- The parts of an address, each in its normal form. -/
structure Address where
  scheme : Text := []
  /-- Who asks: a name, or a name and a password with a colon between them. -/
  userinfo : Text := []
  host : Text := []
  portNumber : Option Int := none
  path : Text := []
  query : Option Text := none
  fragment : Option Text := none
  deriving DecidableEq

/-- Why a text is no address. -/
inductive AddressFlaw
  | tooLong
  | unprintable (c : CodePoint) (position : Nat)
  /-- A surrogate stands where an escape would have to stand for it. -/
  | surrogate (c : CodePoint)
  | host (flaw : HostFlaw) (t : Text)
  | portNumber (t : Text)
  /-- The path of an address without a scheme and a host starts like a host, or like its number. -/
  | relativePath (start : Text)
  /-- A part is too long once it has its escapes. -/
  | partTooLong (part : Text)

/-- The fault that a flaw of the monitor's address is. -/
def AddressFlaw.fault : AddressFlaw → Fault
  | .surrogate c => .unencodable ⟨.utf8, 0, c, 0⟩
  | .tooLong => .general .address "URL too long"
  | .unprintable c position =>
    .general .address <|
      ("Invalid non-printable ASCII character in URL, " : Text) ++ Text.quoted [c]
        ++ (" at position " : Text) ++ Decimal.digits position ++ ("." : Text)
  | .host flaw t =>
    let kind : Text := match flaw with
      | .fourParts => "IPv4 address"
      | .eightParts => "IPv6 address"
      | .label => "IDNA hostname"
    .general .address (("Invalid " : Text) ++ kind ++ (": " : Text) ++ t.quoted)
  | .portNumber t => .general .address (("Invalid port: " : Text) ++ t.quoted)
  | .relativePath start =>
    .general .address (("Relative URLs cannot have a path starting with " : Text) ++ start.quoted)
  | .partTooLong part =>
    .general .address (("URL component " : Text) ++ part.quoted ++ (" too long" : Text))

/-- The kind of fault that a flaw of a label is. -/
def LabelFlaw.kind : LabelFlaw → GeneralFlaw
  | .point .. => .labelPoint
  | .context .. => .labelContext
  | .noDirection .. | .start .. | .leftInRight .. | .rightInLeft .. | .mixedNumbers | .finish =>
    .labelDirection
  | _ => .label

namespace Address

/-! ### Taking a text apart -/

/-- The most code points of an address, or of a part of one. -/
def sizeLimit : Nat := 65536

/-- Whether a text can be a scheme. -/
def isScheme : Text → Bool
  | [] => true
  | c :: rest =>
    c.isLetter && rest.all fun (c : CodePoint) =>
      c.isLetter || c.isDigit || c == '+' || c == '.' || c == '-'

/-- The scheme in front of the first colon, if it is one, and the rest. -/
def cutScheme (t : Text) : Text × Text :=
  match Text.cutAt? ':' t with
  | some (scheme, rest) => if isScheme scheme then (scheme, rest) else ([], t)
  | none => ([], t)

/-- What stands between two slashes and the path, and the rest. -/
def cutAuthority (t : Text) : Text × Text :=
  match Text.after? "//" t with
  | some rest => rest.span fun (c : CodePoint) => c != '/' && c != '?' && c != '#'
  | none => ([], t)

/-- What stands in front of a mark, and behind it if it is there. -/
def cutBehind (mark : CodePoint) (t : Text) : Text × Option Text :=
  match Text.cutAt? mark t with
  | some (before, behind) => (before, some behind)
  | none => (t, none)

/-- What stands in front of the last at sign, and the rest. -/
def cutUserinfo (authority : Text) : Text × Text :=
  let host := (authority.reverse.takeWhile fun (c : CodePoint) => c != '@').reverse
  (authority.take (authority.length - host.length - 1), host)

/-- The host, which may stand between brackets, and the number behind a colon. -/
def cutHost (t : Text) : Text × Text :=
  let behind := (t.reverse.takeWhile fun (c : CodePoint) => c != ']').reverse
  let (host, rest) :=
    if t.head? = some '[' ∧ behind.length < t.length then
      (t.take (t.length - behind.length), behind)
    else t.span fun (c : CodePoint) => c != ':' && c != '@'
  (host, if rest.head? = some ':' then rest.drop 1 else rest)

/-! ### Normal forms -/

/-- A printable code point of ASCII. -/
def isPlain (c : CodePoint) : Bool :=
  0x20 < c.val && c.val < 0x7F

/-- What a fragment holds without an escape. -/
def isFragmentPoint (c : CodePoint) : Bool :=
  isPlain c && !("\"<>`" : Text).contains c

/-- What a query holds without an escape. -/
def isQueryPoint (c : CodePoint) : Bool :=
  isPlain c && !("\"#<>" : Text).contains c

/-- What a path holds without an escape. -/
def isPathPoint (c : CodePoint) : Bool :=
  isQueryPoint c && !("?`\x7b\x7d" : Text).contains c

/-- What is held without an escape by who asks. -/
def isUserinfoPoint (c : CodePoint) : Bool :=
  isPathPoint c && !("/;=@[\\]^|" : Text).contains c

/-- A part with its escapes. -/
def normal (isPoint : CodePoint → Bool) (part : Text) : Except AddressFlaw Text :=
  match part.find? CodePoint.isSurrogate with
  | some c => .error (.surrogate c)
  | none => .ok (Percent.quote isPoint part)

/-- The number that goes without saying for a scheme. -/
def usualNumber? (scheme : Text) : Option Int :=
  if scheme = "http" ∨ scheme = "ws" then some 80
  else if scheme = "https" ∨ scheme = "wss" then some 443
  else if scheme = "ftp" then some 21
  else none

/-- The number behind the host that a text says, if it does not go without saying. -/
def readPortNumber (scheme t : Text) : Except AddressFlaw (Option Int) :=
  if t = [] then .ok none
  else match Numeral.read 10 t with
    | .ok n => .ok (if some n = usualNumber? scheme then none else some n)
    | .error _ => .error (.portNumber t)

/-- Adds one part of a path to those in front of it: a single point adds none, and two take the last
away, but not the empty one that stands in front of the first slash. -/
def step (before : List Text) (part : Text) : List Text :=
  if part = "." then before
  else if part = ".." then if before = [[]] then before else before.dropLast
  else before ++ [part]

/-- A path without single and double points. -/
def normalPath (path : Text) : Text :=
  Text.joinWith "/" ((Text.splitOn '/' path).foldl step [])

/-- Whether a path can stand alone. -/
def checkRelative (path : Text) : Except AddressFlaw Unit :=
  if Text.startsWith "//" path then .error (.relativePath "//")
  else if Text.startsWith ":" path then .error (.relativePath ":")
  else .ok ()

/-- The first control character of ASCII, with its position. -/
def unprintable? (t : Text) : Option (CodePoint × Nat) :=
  let isControl (c : CodePoint) : Bool := c.val < 0x20 || c.val = 0x7F
  (t.find? isControl).map fun c => (c, t.findIdx isControl)

/-- The address that a text says. -/
def read (t : Text) : Except AddressFlaw Address := do
  if sizeLimit < t.length then throw .tooLong
  if let some (c, position) := unprintable? t then throw (.unprintable c position)
  let (scheme, rest) := cutScheme t
  let (authority, rest) := cutAuthority rest
  let (rest, fragment) := cutBehind '#' rest
  let (path, query) := cutBehind '?' rest
  let (userinfo, hostText) := cutUserinfo authority
  let (host, numberText) := cutHost hostText
  let userinfo ← normal isUserinfoPoint userinfo
  let name ← (HostName.read host).mapError fun flaw => .host flaw host
  let portNumber ← readPortNumber scheme numberText
  let alone := scheme = [] ∧ userinfo = [] ∧ name = [] ∧ portNumber = none
  if alone then checkRelative path
  let path ← normal isPathPoint (if alone then path else normalPath path)
  let query ← query.mapM (normal isQueryPoint)
  let fragment ← fragment.mapM (normal isFragmentPoint)
  return ⟨scheme.lower, userinfo, name, portNumber, path, query, fragment⟩

/-! ### Putting parts together -/

/-- The host and the number behind it. -/
def hostText (address : Address) : Text :=
  let bracketed := ("[" : Text) ++ address.host ++ ("]" : Text)
  let host := if address.host.contains ':' then bracketed else address.host
  match address.portNumber with
  | some n => host ++ (":" : Text) ++ Decimal.ofInt n
  | none => host

/-- The text of an address. -/
def text (address : Address) : Text :=
  let asking := if address.userinfo = [] then [] else address.userinfo ++ ("@" : Text)
  let authority := asking ++ address.hostText
  let behind (mark : CodePoint) : Option Text → Text
    | some part => mark :: part
    | none => []
  (if address.scheme = [] then [] else address.scheme ++ (":" : Text))
    ++ (if authority = [] then [] else ("//" : Text) ++ authority)
    ++ address.path ++ behind '?' address.query ++ behind '#' address.fragment

/-- Whether an address has no scheme or no host. -/
def isRelative (address : Address) : Bool :=
  address.scheme = [] || address.host = []

/-- What is sent of a relative address: its path behind one slash, and its query. -/
def pathAlone (address : Address) : Except AddressFlaw Address :=
  let slash : CodePoint := '/'
  let path := slash :: address.path.dropWhile fun c => c == slash
  if sizeLimit < path.length then .error (.partTooLong "path")
  else if (address.query.getD []).length > sizeLimit then .error (.partTooLong "query")
  else .ok { path := path, query := address.query }

/-- The address that a request to what a text says is sent to. -/
def toSend (t : Text) : Except AddressFlaw Address := do
  let address ← read t
  if address.isRelative then address.pathAlone else return address

/-- Whether a request can name its host: what stands behind the labels of the name has to be labels,
and the host has to be ASCII. -/
def checkHost (address : Address) : Except Fault Unit :=
  let named := if Text.startsWith Label.mark address.host then Label.checkHost address.host else .ok ()
  match named, Charset.ascii.unencodable? address.hostText with
  | .error flaw, _ => .error (.general flaw.kind flaw.message)
  | .ok (), some run => .error (.unencodable run)
  | .ok (), none => .ok ()

/-! ### Who asks -/

/-- The authorization of who asks: the name and the password in base 64; none if both are empty. -/
def authorization (address : Address) : Option Text :=
  let (name, password) := cutBehind ':' address.userinfo
  let name := Percent.unquote name
  let password := Percent.unquote (password.getD [])
  if name = [] ∧ password = [] then none
  else some (("Basic " : Text) ++ Base64.encode (Utf8.encode (name ++ (":" : Text) ++ password)))

end Address

end AlarmFeed
