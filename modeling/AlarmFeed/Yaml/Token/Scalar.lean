/-
**Quoted and plain scalars.**

Between apostrophes only the apostrophe itself is written twice; between double quotes there are
escapes. A line end inside either is folded: alone it is a space, and of several the first is dropped.

A plain scalar goes on until a colon with a space behind it, a comment, or a line that is indented
less; inside brackets also until one of their marks. Line ends inside it are folded.
-/

import AlarmFeed.Yaml.Cursor

namespace AlarmFeed.Yaml.Scan

/-! ### Quoted scalars -/

/-- Line ends with spacing around them; no mark between documents may stand at the start of a line. -/
def quotedBreaks : Nat → Scan Text
  | 0 => fail
  | fuel + 1 => do
    require (!(← atSeparator))
    let _ ← takeWhile isSpacing
    let lineEnd ← lineBreak
    if lineEnd.isEmpty then return []
    else return lineEnd ++ (← quotedBreaks fuel)

/-- Line ends as text: alone a line feed is a space, and otherwise it is dropped. -/
def folded (first more : Text) : Text :=
  if first ≠ "\n" then first ++ more else if more.isEmpty then " " else more

/-- The spacing and line ends between words, as text. -/
def quotedSpaces (fuel : Nat) : Scan Text := do
  let spaces ← takeWhile isSpacing
  require (← peek).isSome
  let first ← lineBreak
  if first.isEmpty then return spaces
  else return folded first (← quotedBreaks fuel)

/-- The escapes of one letter. -/
def escapes : List (Char × Nat) :=
  [('0', 0x00), ('a', 0x07), ('b', 0x08), ('t', 0x09), ('\t', 0x09), ('n', 0x0A), ('v', 0x0B),
    ('f', 0x0C), ('r', 0x0D), ('e', 0x1B), (' ', 0x20), ('"', 0x22), ('\\', 0x5C), ('/', 0x2F),
    ('N', 0x85), ('_', 0xA0), ('L', 0x2028), ('P', 0x2029)]

/-- How many digits follow the letter of an escape by number. -/
def escapeLengths : List (Char × Nat) :=
  [('x', 2), ('u', 4), ('U', 8)]

/-- The number of a letter in a table. -/
def entry? (table : List (Char × Nat)) (c : CodePoint) : Option Nat :=
  (table.find? fun (letter, _) => CodePoint.ofChar letter == c).map Prod.snd

/-- The code point of an escape by number. -/
def numberedEscape (length : Nat) : Scan Text := do
  let digits := (← get).rest.take length
  match Text.hexNumber? digits with
  | some number =>
    require (digits.length == length)
    if number < 0x110000 then
      advance length
      return [CodePoint.ofNat number]
    else if number < 0x80000000 then
      throw (.general .value "chr() arg not in range(0x110000)")
    else throw (.general .overflow "Python int too large to convert to C int")
  | none => fail

/-- What an escape stands for, behind its backslash. -/
def escape (fuel : Nat) : Scan Text := do
  match ← peek with
  | none => fail
  | some c =>
    match entry? escapes c, entry? escapeLengths c with
    | some number, _ =>
      advance 1
      return [CodePoint.ofNat number]
    | none, some length =>
      advance 1
      numberedEscape length
    | none, none =>
      require (isBreak c)
      let _ ← lineBreak
      quotedBreaks fuel

/-- The text up to the next spacing, line end or closing quote. -/
def quotedWord (double : Bool) : Nat → Scan Text
  | 0 => fail
  | fuel + 1 => do
    let run ← takeWhile fun c => !(isOneOf "'\"\\" c || isSpacing c || isBreak c)
    match ← peek with
    | none => return run
    | some c =>
      if !double && c == '\'' && (← peekAt 1) == some c then
        advance 2
        return run ++ c :: (← quotedWord double fuel)
      else if (double && c == '\'') || (!double && isOneOf "\"\\" c) then
        advance 1
        return run ++ c :: (← quotedWord double fuel)
      else if double && c == '\\' then
        advance 1
        let meant ← escape fuel
        return run ++ meant ++ (← quotedWord double fuel)
      else return run

/-- The text up to the closing quote, and moves behind it. -/
def quotedRest (double : Bool) : Nat → Scan Text
  | 0 => fail
  | fuel + 1 => do
    let word ← quotedWord double fuel
    if ← sees (if double then '"' else '\'') then
      advance 1
      return word
    else
      let spaces ← quotedSpaces fuel
      return word ++ spaces ++ (← quotedRest double fuel)

/-- A quoted scalar. -/
def quoted (double : Bool) : Scan Text := do
  advance 1
  quotedRest double ((← get).rest.length + 2)

/-! ### Plain scalars -/

/-- How many code points a word of a plain scalar has. -/
def plainWordLength (flow : Bool) : Text → Nat
  | [] => 0
  | c :: rest =>
    let stops :=
      endsToken (some c)
        || (c == ':' && (endsToken rest.head? || (flow && rest.head?.any (isOneOf ",[]\x7b\x7d"))))
        || (flow && isOneOf ",?[]\x7b\x7d" c)
    if stops then 0 else plainWordLength flow rest + 1

/-- Line ends with spaces between them; none if a mark between documents follows. -/
def plainBreaks : Nat → Scan (Option Text)
  | 0 => fail
  | fuel + 1 => do
    if ← atSeparator then return none
    skipSpaces
    let lineEnd ← lineBreak
    if lineEnd.isEmpty then return some []
    else return (← plainBreaks fuel).map (lineEnd ++ ·)

/-- The space between two words of a plain scalar, and whether a line has ended in it. An empty space
ends the scalar. -/
def plainSpaces (fuel : Nat) : Scan (Text × Bool) := do
  let spaces ← takeWhile (· == ' ')
  let first ← lineBreak
  if first.isEmpty then return (spaces, false)
  else
    match ← plainBreaks fuel with
    | none => return ([], true)
    | some more => return (folded first more, true)

/-- The words of a plain scalar with the spaces between them, and whether a line has ended behind the
last one. -/
def plainWords (flow : Bool) (indentation : Int) : Nat → Text → Bool → Scan (Text × Bool)
  | 0, _, _ => fail
  | fuel + 1, spaces, ended => do
    let comment ← sees '#'
    let rest := (← get).rest
    let length := if comment then 0 else plainWordLength flow rest
    if length = 0 then return ([], ended)
    else
      let word := rest.take length
      advance length
      let (next, ended) ← plainSpaces (fuel + 1)
      let outside := !flow && ((← get).column : Int) < indentation
      if next.isEmpty || (← sees '#') || outside then return (spaces ++ word, ended)
      else
        let (more, ended) ← plainWords flow indentation fuel next ended
        return (spaces ++ word ++ more, ended)

/-- A plain scalar inside a given indentation, and whether a line has ended behind it. -/
def plain (flow : Bool) (outer : Int) : Scan (Text × Bool) := do
  let fuel := (← get).rest.length + 2
  plainWords flow (outer + 1) fuel [] false

end AlarmFeed.Yaml.Scan
