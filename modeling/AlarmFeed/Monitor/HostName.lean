/-
**Host names.**

The host of an address is a numeric address of four or, between brackets, of eight parts, or a name. A
name in ASCII is put in lower case and escaped where it has to be; any other name travels label by label
in Punycode. What has the look of a numeric address has to be one: four runs of digits with any code
point between neighbours have the look of the first kind, and brackets that of the second.
-/

import AlarmFeed.Monitor.HostName.Label
import AlarmFeed.Text.Percent

namespace AlarmFeed

/-- Why a text is no host. -/
inductive HostFlaw
  | fourParts
  | eightParts
  | label
  deriving DecidableEq

namespace HostName

/-! ### Four parts -/

/-- Whether a text is made of four runs of digits with one code point between neighbours, which may be
a digit itself: a run of digits can be parted by every second digit inside it. -/
def looksLikeFour (t : Text) : Bool :=
  let runs := Text.splitWhen (fun c => !c.isDigit) t
  let parting := runs.foldl (fun parts run => parts + (run.length - 1) / 2) 0
  runs.all (!·.isEmpty) && runs.length ≤ 4 && 4 ≤ runs.length + parting

/-- A number from 0 to 255 without zeros in front. -/
def isOctet (t : Text) : Bool :=
  t ≠ [] && t.all CodePoint.isDigit && t.length ≤ 3 && Decimal.value t ≤ 255
    && (t.length == 1 || t.head? != some (CodePoint.ofChar '0'))

/-- Whether a text is a numeric address of four parts. -/
def isFour (t : Text) : Bool :=
  let parts := Text.splitOn '.' t
  parts.length == 4 && parts.all isOctet

/-! ### Eight parts -/

/-- A number of one to four hexadecimal digits. -/
def isHextet (t : Text) : Bool :=
  t ≠ [] && t.length ≤ 4 && t.all fun c => c.hexValue?.isSome

/-- The parts between colons, where a last part in four parts counts for two; none if the last part has
dots and is no numeric address. -/
def hextets? (t : Text) : Option (List Text) :=
  let parts := Text.splitOn ':' t
  match parts.getLast? with
  | some last =>
    if !last.contains '.' then some parts
    else if isFour last then
      let half : Text := "0"
      some (parts.dropLast ++ [half, half])
    else none
  | none => none

/-- The positions of the empty parts between two others. -/
def gaps (parts : List Text) : List Nat :=
  (List.range parts.length).filter fun i =>
    0 < i && i + 1 < parts.length && parts[i]? == some []

/-- Whether parts are those of a numeric address: eight, or fewer on both sides of one gap, where the
side of the gap at an end of the address is empty. -/
def areEight (parts : List Text) : Bool :=
  match gaps parts with
  | [] => parts.length == 8 && parts.all isHextet
  | [gap] =>
    let side (parts : List Text) : List Text := if parts = [[]] then [] else parts
    let before := side (parts.take gap)
    let behind := side (parts.drop (gap + 1))
    before.length + behind.length < 8 && before.all isHextet && behind.all isHextet
  | _ => false

/-- Whether a text is a numeric address of eight parts. The name of a zone may stand behind a percent
sign. -/
def isEight (t : Text) : Bool :=
  let (address, zoneFits) := match Text.cutAt? '%' t with
    | none => (t, true)
    | some (address, zone) => (address, zone ≠ [] && !zone.contains '%')
  zoneFits && (Text.splitOn ':' address).length ≥ 3 && (hextets? address).any areEight

/-! ### Names -/

/-- The code points that parts of a name in ASCII may hold without an escape. -/
def isSafe (c : CodePoint) : Bool :=
  ("!$&'()*+,;=\"`\x7b\x7d%|\\" : Text).contains c

/-- A dot of any width. -/
def isDot (c : CodePoint) : Bool :=
  c == '.' || [0x3002, 0xFF0E, 0xFF61].contains c.val

/-- The most code points of a name, without a last dot. -/
def sizeLimit : Nat := 253

/-- A name label by label; a last dot stays. -/
def ofLabels (name : Text) : Except HostFlaw Text :=
  let (labels, dotted) := Label.split isDot name
  match labels.mapM Label.toAscii with
  | .error _ => .error .label
  | .ok labels =>
    let joined := Text.joinWith "." labels
    if sizeLimit < joined.length then .error .label
    else .ok (if dotted then joined ++ ("." : Text) else joined)

/-- Whether a text stands between brackets. -/
def isBracketed (t : Text) : Bool :=
  2 ≤ t.length && t.head? == some (CodePoint.ofChar '[') && t.getLast? == some (CodePoint.ofChar ']')

/-- The host that a text says, without brackets. -/
def read (t : Text) : Except HostFlaw Text :=
  if t = [] then .ok []
  else if looksLikeFour t then if isFour t then .ok t else .error .fourParts
  else if isBracketed t then
    let inner := (t.drop 1).dropLast
    if isEight inner then .ok inner else .error .eightParts
  else if Label.isAscii t then .ok (Percent.quote isSafe t.lower)
  else ofLabels t.lowercase

end HostName

end AlarmFeed
