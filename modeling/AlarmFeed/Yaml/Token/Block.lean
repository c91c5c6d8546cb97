/-
**Block scalars.**

A block scalar goes on as long as its lines are indented. In a literal one every line end counts, in a
folded one the line ends between two lines of text are spaces. What becomes of the line ends behind
the text is said by an indicator: one is kept, or all are, or none is.
-/

import AlarmFeed.Yaml.Cursor

namespace AlarmFeed.Yaml.Scan

/-- What becomes of the line ends behind the text. -/
inductive Chomping
  | clip
  | strip
  | keep
  deriving DecidableEq

/-- The indicator of what becomes of line ends. -/
def chomping? : Scan (Option Chomping) := do
  if ← sees '+' then
    advance 1
    return some .keep
  else if ← sees '-' then
    advance 1
    return some .strip
  else return none

/-- The indicator of the indentation, which is not zero. -/
def indentation? : Scan (Option Nat) := do
  match ← peek with
  | some c =>
    if c.isDigit then
      require (c.digitValue != 0)
      advance 1
      return some c.digitValue
    else return none
  | none => return none

/-- Both indicators, in either order. -/
def indicators : Scan (Chomping × Option Nat) := do
  match ← chomping? with
  | some chomping =>
    let indentation ← indentation?
    require (endsWord (← peek))
    return (chomping, indentation)
  | none =>
    let indentation ← indentation?
    let chomping ← if indentation.isSome then chomping? else pure none
    require (endsWord (← peek))
    return (chomping.getD .clip, indentation)

/-- The line ends in front of the text, and the greatest indentation among them. -/
def leadingBreaks : Nat → Nat → Scan (Text × Nat)
  | 0, _ => fail
  | fuel + 1, greatest => do
    if ← sees ' ' then
      advance 1
      leadingBreaks fuel (max greatest (← get).column)
    else
      let lineEnd ← lineBreak
      if lineEnd.isEmpty then return ([], greatest)
      else
        let (more, greatest) ← leadingBreaks fuel greatest
        return (lineEnd ++ more, greatest)

/-- Moves behind spaces up to a column. -/
def skipIndentation (indentation : Nat) : Scan Unit := do
  let cursor ← get
  let spaces := (cursor.rest.take (indentation - cursor.column)).takeWhile fun (c : CodePoint) => c == ' '
  advance spaces.length

/-- Line ends between lines of text, up to the indentation of the next line. -/
def blockBreaks (indentation : Nat) : Nat → Scan Text
  | 0 => fail
  | fuel + 1 => do
    skipIndentation indentation
    let lineEnd ← lineBreak
    if lineEnd.isEmpty then return []
    else return lineEnd ++ (← blockBreaks indentation fuel)

/-- Whether the next code point is a space or a tab. -/
def seesSpacing : Scan Bool := do
  return (← peek).any isSpacing

/-- The lines of text with the line ends between them; also the line end behind the last line and
those that follow it. -/
def blockLines (fold : Bool) (indentation : Nat) : Nat → Text → Scan (Text × Text × Text)
  | 0, _ => fail
  | fuel + 1, breaks => do
    let cursor ← get
    if cursor.column = indentation ∧ !cursor.rest.isEmpty then
      let indented ← seesSpacing
      let content ← takeWhile fun c => !isBreak c
      let lineEnd ← lineBreak
      let more ← blockBreaks indentation (fuel + 1)
      let cursor ← get
      if cursor.column = indentation ∧ !cursor.rest.isEmpty then
        let joint : Text :=
          if fold && lineEnd == "\n" && !indented && !(← seesSpacing) then
            if more.isEmpty then " " else []
          else lineEnd
        let (text, last, trailing) ← blockLines fold indentation fuel more
        return (breaks ++ content ++ joint ++ text, last, trailing)
      else return (breaks ++ content, lineEnd, more)
    else return ([], [], breaks)

/-- A block scalar inside a given indentation. -/
def block (fold : Bool) (outer : Int) : Scan Text := do
  advance 1
  let (chomping, indentation) ← indicators
  restOfLine
  let least := max (outer + 1).toNat 1
  let fuel := (← get).rest.length + 2
  let (breaks, indentation) ← match indentation with
    | none => do
      let (breaks, greatest) ← leadingBreaks fuel 0
      pure (breaks, max least greatest)
    | some extra => do
      let indentation := least + extra - 1
      pure (← blockBreaks indentation fuel, indentation)
  let (text, last, trailing) ← blockLines fold indentation fuel breaks
  return match chomping with
    | .strip => text
    | .clip => text ++ last
    | .keep => text ++ last ++ trailing

end AlarmFeed.Yaml.Scan
