/-
**A place in a YAML text.**

A cursor knows the rest of the text, how far it has come, and its line and column. `Scan` is a reader
that moves a cursor and fails with the fault of a malformed document. Line ends are line feeds, next
line characters, and the line and paragraph separators.
-/

import AlarmFeed.Fault

namespace AlarmFeed.Yaml

/-- What ends a line. -/
def isBreak (c : CodePoint) : Bool :=
  c == '\n' || c.val == 0x85 || c.val == 0x2028 || c.val == 0x2029

/-- A space or a tab. -/
def isSpacing (c : CodePoint) : Bool :=
  c == ' ' || c == '\t'

/-- Whether a line ends here: with a line end or with the text. -/
def endsLine : Option CodePoint → Bool
  | none => true
  | some c => isBreak c

/-- Whether a line ends here or a space follows. -/
def endsWord : Option CodePoint → Bool
  | none => true
  | some c => c == ' ' || isBreak c

/-- Whether a line ends here or a space or a tab follows. -/
def endsToken : Option CodePoint → Bool
  | none => true
  | some c => isSpacing c || isBreak c

/-- The code points of anchors, handles and directive names. -/
def isNamePoint (c : CodePoint) : Bool :=
  c.isDigit || c.isLetter || c == '-' || c == '_'

/-- Whether a code point is one of those of a string. -/
def isOneOf (points : String) (c : CodePoint) : Bool :=
  (points : Text).contains c

/-- A place in a text. -/
structure Cursor where
  rest : Text
  index : Nat := 0
  line : Nat := 0
  column : Nat := 0

namespace Cursor

/-- One code point further; a byte order mark takes no column. -/
def step (cursor : Cursor) : Cursor :=
  match cursor.rest with
  | [] => cursor
  | c :: rest =>
    if isBreak c then ⟨rest, cursor.index + 1, cursor.line + 1, 0⟩
    else
      let width := if c.val = 0xFEFF then 0 else 1
      ⟨rest, cursor.index + 1, cursor.line, cursor.column + width⟩

/-- Some code points further. -/
def advance : Nat → Cursor → Cursor
  | 0, cursor => cursor
  | count + 1, cursor => advance count cursor.step

end Cursor

/-- A reader that moves a cursor. -/
abbrev Scan := StateT Cursor (Except Fault)

namespace Scan

/-- The text is malformed. -/
def fail {α : Type} : Scan α :=
  throw .document

/-- Fails unless a condition holds. -/
def require (condition : Bool) : Scan Unit :=
  if condition then pure () else fail

/-- The code point at some distance, if the text is that long. -/
def peekAt (distance : Nat) : Scan (Option CodePoint) := do
  return (← get).rest[distance]?

/-- The next code point. -/
def peek : Scan (Option CodePoint) :=
  peekAt 0

/-- Whether the next code point is a given one. -/
def sees (c : CodePoint) : Scan Bool := do
  return (← peek) == some c

/-- Moves on. -/
def advance (count : Nat) : Scan Unit :=
  modify (Cursor.advance count)

/-- The longest run of a class, and moves behind it. -/
def takeWhile (accept : CodePoint → Bool) : Scan Text := do
  let run := (← get).rest.takeWhile accept
  advance run.length
  return run

/-- Moves behind spaces. -/
def skipSpaces : Scan Unit := do
  let _ ← takeWhile (· == ' ')

/-- Moves to the end of the line. -/
def skipLine : Scan Unit := do
  let _ ← takeWhile fun c => !isBreak c

/-- Moves behind a line end, if there is one, and returns it; ends that are not separators are line
feeds. -/
def lineBreak : Scan Text := do
  match ← peek with
  | some c =>
    if isBreak c then
      advance 1
      return if c.val = 0x2028 ∨ c.val = 0x2029 then [c] else "\n"
    else return []
  | none => return []

/-- Whether a mark between documents stands here. -/
def atSeparator : Scan Bool := do
  let rest := (← get).rest
  let mark := rest.take 3
  return (mark == "---" || mark == "...") && endsToken rest[3]?

/-- Moves behind spaces and a comment to the end of a line, where nothing else may stand. -/
def restOfLine : Scan Unit := do
  skipSpaces
  if ← sees '#' then skipLine
  require (endsLine (← peek))
  let _ ← lineBreak

end Scan

end AlarmFeed.Yaml
