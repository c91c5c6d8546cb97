/-
**Tokens of a YAML text.**

Besides the marks that stand in the text there are three that its indentation says: the start of a
block sequence, the start of a block mapping, and the end of either.

An anchor is a name. A tag is a name with a handle, a full name between angle brackets, or a lone
exclamation mark; its suffix may escape bytes by a percent sign. A directive gives the version of YAML
or the meaning of a handle; others are skipped.
-/

import AlarmFeed.Number.Numeral
import AlarmFeed.Text.Basic
import AlarmFeed.Yaml.Cursor

namespace AlarmFeed.Yaml

/-- The name of a type: a handle, if one is used, and a suffix. -/
structure TagName where
  handle : Option Text
  suffix : Text
  deriving DecidableEq

/-- What stands in front of a document. -/
inductive Directive
  | version (major minor : Nat)
  | tag (handle start : Text)
  | other
  deriving DecidableEq

/-- The parts of a YAML text. -/
inductive Token
  | directive (content : Directive)
  | documentStart
  | documentEnd
  | streamEnd
  | blockSequenceStart
  | blockMappingStart
  | blockEnd
  | flowSequenceStart
  | flowSequenceEnd
  | flowMappingStart
  | flowMappingEnd
  | blockEntry
  | flowEntry
  | key
  | value
  | reference (anchor : Text)
  | anchor (name : Text)
  | tag (name : TagName)
  /-- A scalar; a plain one has no quotes and is no block. -/
  | scalar (content : Text) (plain : Bool)
  deriving DecidableEq

end AlarmFeed.Yaml

namespace AlarmFeed.Yaml.Scan

/-! ### Anchors, tags and directives -/

/-- The name behind an anchor's or a reference's mark. -/
def anchorName : Scan Text := do
  advance 1
  let name ← takeWhile isNamePoint
  require (!name.isEmpty)
  let next ← peek
  require (endsToken next || next.any (isOneOf "?:,]\x7d%@`"))
  return name

/-- Some bytes, each escaped by a percent sign and two digits. -/
def escapedBytes : Nat → Scan Bytes
  | 0 => return []
  | fuel + 1 => do
    if ← sees '%' then
      advance 1
      let digits := (← get).rest.take 2
      match Text.hexNumber? digits with
      | some byte =>
        require (digits.length == 2)
        advance 2
        return UInt8.ofNat byte :: (← escapedBytes fuel)
      | none => fail
    else return []

/-- The code points of a suffix. -/
def isSuffixPoint (c : CodePoint) : Bool :=
  c.isDigit || c.isLetter || isOneOf "-;/?:@&=+$,_.!~*'()[]" c

/-- A suffix with its escapes read. -/
def suffixFrom : Nat → Scan Text
  | 0 => return []
  | fuel + 1 => do
    let run ← takeWhile isSuffixPoint
    if ← sees '%' then
      let bytes ← escapedBytes fuel
      match Utf8.decode false bytes with
      | .ok t => return run ++ t ++ (← suffixFrom fuel)
      | .error _ => fail
    else return run

/-- A suffix, which is not empty. -/
def suffix : Scan Text := do
  let start := (← get).index
  let t ← suffixFrom ((← get).rest.length + 1)
  require ((← get).index != start)
  return t

/-- A handle: one exclamation mark, or a name between two. -/
def handle : Scan Text := do
  require (← sees '!')
  advance 1
  if ← sees ' ' then return "!"
  let name ← takeWhile isNamePoint
  require (← sees '!')
  advance 1
  return '!' :: (name ++ [CodePoint.ofChar '!'])

/-- A tag. -/
def tag : Scan TagName := do
  let next ← peekAt 1
  let name ←
    if next == some (CodePoint.ofChar '<') then do
      advance 2
      let full ← suffix
      require (← sees '>')
      advance 1
      pure ⟨none, full⟩
    else if endsToken next then do
      advance 1
      pure ⟨none, "!"⟩
    else do
      let word := ((← get).rest.drop 1).takeWhile fun c => !endsWord (some c)
      if word.contains '!' then do
        let handle ← handle
        pure ⟨some handle, ← suffix⟩
      else do
        advance 1
        pure ⟨some "!", ← suffix⟩
  require (endsWord (← peek))
  return name

/-- A number of a version. -/
def versionNumber : Scan Nat := do
  let digits ← takeWhile CodePoint.isDigit
  require (!digits.isEmpty)
  if Decimal.digitLimit < digits.length then
    throw (.general .value (Numeral.tooLongMessage digits.length))
  return Decimal.value digits

/-- A directive, from its percent sign to the end of its line. -/
def directive : Scan Directive := do
  advance 1
  let name ← takeWhile isNamePoint
  require (!name.isEmpty)
  require (endsWord (← peek))
  let content ←
    if name = "YAML" then do
      skipSpaces
      let major ← versionNumber
      require (← sees '.')
      advance 1
      let minor ← versionNumber
      require (endsWord (← peek))
      pure (Directive.version major minor)
    else if name = "TAG" then do
      skipSpaces
      let handle ← handle
      require (← sees ' ')
      skipSpaces
      let start ← suffix
      require (endsWord (← peek))
      pure (Directive.tag handle start)
    else do
      skipLine
      pure Directive.other
  restOfLine
  return content

end AlarmFeed.Yaml.Scan
