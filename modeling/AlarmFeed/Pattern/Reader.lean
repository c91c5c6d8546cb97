/-
**Reading patterns.**

`Pattern.read` reads a regular expression from left to right and says of the first flaw where it is. A
backslash and the code point behind it are read as one symbol, and every symbol is looked at before the
one in front of it is put to use. Groups are numbered by where they open, and may have names; a group can
be referred to when it is closed.

The pattern of a route starts with what its path starts with. So modes that are meant for a whole
pattern are never at its start, and are refused everywhere. Nor does a path have the names of code
points: no escape by a name is known.
-/

import AlarmFeed.Number.Numeral
import AlarmFeed.Pattern.Basic
import AlarmFeed.Text.Fields
import AlarmFeed.Text.Identifier

namespace AlarmFeed.Pattern

/-- What is wrong with a pattern. -/
inductive Flaw
  /-- Something is wrong at a position. -/
  | misplaced (message : Text) (position : Nat)
  /-- What is looked for behind a place has no one width. -/
  | openWidth
  /-- What is looked for behind a place cannot be counted. -/
  | tooFarBehind
  /-- A number of repetitions that cannot be counted. -/
  | tooOften
  /-- A number of repetitions with so many digits that it is not read. -/
  | tooLong (digits : Nat)
  /-- A code point with so great a number that it is not held against the greatest one. -/
  | tooGreat
  deriving DecidableEq

/-- The line and the column of a position; both count from one. -/
def lineAndColumn (t : Text) (position : Nat) : Nat × Nat :=
  let before := t.take position
  let lines := Text.splitOn '\n' before
  (lines.length, (lines.getLastD []).length + 1)

/-- What is wrong with a pattern, in words. -/
def Flaw.message (t : Text) : Flaw → Text
  | .misplaced message position =>
    let place := message ++ (" at position " : Text) ++ Decimal.digits position
    if t.contains '\n' then
      let (line, column) := lineAndColumn t position
      place ++ (" (line " : Text) ++ Decimal.digits line ++ (", column " : Text)
        ++ Decimal.digits column ++ (")" : Text)
    else place
  | .openWidth => "look-behind requires fixed-width pattern"
  | .tooFarBehind => "looks too much behind"
  | .tooOften => "the repetition number is too large"
  | .tooLong digits => Numeral.tooLongMessage digits
  | .tooGreat => "Python int too large to convert to C int"

/-- The number from which on neither repetitions nor what is behind a place can be counted. -/
def countLimit : Nat := 4294967295

/-- What is in force while a part of a pattern is read. -/
structure Mode where
  foldCase : Bool := false
  /-- Lines count, and not only the whole text. -/
  multiline : Bool := false
  /-- A point stands for a line feed too. -/
  dotAll : Bool := false
  ascii : Bool := false
  /-- Spaces and comments are left out. -/
  verbose : Bool := false

/-- How letters are compared with what a group has matched. -/
def Mode.letterRule (mode : Mode) : LetterRule :=
  if !mode.foldCase then .exact else if mode.ascii then .ascii else .caseless

/-- What is known in the middle of a pattern. -/
structure Progress where
  rest : Text
  position : Nat := 0
  /-- How many groups were opened. -/
  groups : Nat := 0
  names : Fields Nat := []
  /-- The numbers of the groups that are closed, and how wide their bodies are. -/
  closed : List (Nat × Width) := []
  /-- How many groups were opened when the outermost search for what is behind began. -/
  behind : Option Nat := none
  /-- Where groups were asked for by their numbers. -/
  asked : List (Nat × Nat) := []

/-- A reader of patterns. -/
abbrev Reader := StateT Progress (Except Flaw)

namespace Reader

/-- The next symbol. -/
def peek : Reader Text := do
  match (← get).rest with
  | [] => return []
  | c :: rest => return if c = '\\' then c :: rest.take 1 else [c]

/-- Something is wrong so many code points before this place. -/
def fail {α : Type} (message : Text) (back : Nat) : Reader α := do
  throw (.misplaced message ((← get).position - back))

/-- Looks at the next symbol: a backslash has something behind it. -/
def look : Reader Unit := do
  if (← get).rest = [CodePoint.ofChar '\\'] then fail "bad escape (end of pattern)" 0

/-- Reads the next symbol, the empty one at the end. -/
def next : Reader Text := do
  let symbol ← peek
  modify fun progress =>
    { progress with
      rest := progress.rest.drop symbol.length, position := progress.position + symbol.length }
  look
  return symbol

/-- Reads a given symbol if it is next. -/
def skips (c : Char) : Reader Bool := do
  if (← peek) = [CodePoint.ofChar c] then
    let _ ← next
    return true
  else return false

/-- Reads at most so many code points of a class. -/
def takeUpTo (accept : CodePoint → Bool) : Nat → Reader Text
  | 0 => return []
  | most + 1 => do
    match ← peek with
    | [c] =>
      if accept c then
        let _ ← next
        return c :: (← takeUpTo accept most)
      else return []
    | _ => return []

/-- Reads all code points of a class. -/
def takeAll (accept : CodePoint → Bool) : Reader Text := do
  takeUpTo accept (← get).rest.length

/-- Reads up to the end of a line. -/
def restOfLine : Nat → Reader Unit
  | 0 => return
  | fuel + 1 => do
    let symbol ← next
    if symbol = [] ∨ symbol = [CodePoint.ofChar '\n'] then return else restOfLine fuel

/-- Reads a name up to its end, which is a given code point. -/
def nameUpTo (stop : Char) (what : Text) : Nat → Text → Reader Text
  | 0, _ => return []
  | fuel + 1, name => do
    match ← next with
    | [] =>
      if name = [] then fail (("missing " : Text) ++ what) 0
      else fail (("missing " : Text) ++ [CodePoint.ofChar stop] ++ (", unterminated name" : Text)) name.length
    | symbol =>
      if symbol = [CodePoint.ofChar stop] then
        if name = [] then fail (("missing " : Text) ++ what) 1 else return name
      else nameUpTo stop what fuel (name ++ symbol)

/-- Reads the name of a group. -/
def groupName (stop : Char) : Reader Text := do
  let name ← nameUpTo stop "group name" ((← get).rest.length + 1) []
  if !name.isIdentifier then
    fail (("bad character in group name " : Text) ++ name.quoted) (name.length + 1)
  return name

/-! ### Escapes -/

/-- An octal digit. -/
def isOctal (c : CodePoint) : Bool :=
  0x30 ≤ c.val && c.val ≤ 0x37

/-- The number that octal digits say. -/
def octal (digits : Text) : Nat :=
  digits.foldl (fun sum c => 8 * sum + c.digitValue) 0

/-- The code points with an escape of one letter. -/
def letters : List (Char × Nat) :=
  [('a', 0x07), ('b', 0x08), ('f', 0x0C), ('n', 0x0A), ('r', 0x0D), ('t', 0x09), ('v', 0x0B),
    ('\\', 0x5C)]

/-- The kind that a letter stands for, and whether it is negated. -/
def kind? (c : CodePoint) : Option PointItem :=
  if c = 'd' then some (.kind .digit false)
  else if c = 'D' then some (.kind .digit true)
  else if c = 's' then some (.kind .space false)
  else if c = 'S' then some (.kind .space true)
  else if c = 'w' then some (.kind .word false)
  else if c = 'W' then some (.kind .word true)
  else none

/-- A bad escape. -/
def badEscape {α : Type} (escape : Text) : Reader α :=
  fail (("bad escape " : Text) ++ escape) escape.length

/-- An escape by a number of so many hexadecimal digits. -/
def hexEscape (escape : Text) (count : Nat) : Reader Nat := do
  let digits ← takeUpTo (fun c => c.hexValue?.isSome) count
  let escape := escape ++ digits
  match Text.hexNumber? digits with
  | some number =>
    if digits.length < count then fail (("incomplete escape " : Text) ++ escape) escape.length
    else if 0x80000000 ≤ number then throw .tooGreat
    else if 0x110000 ≤ number then badEscape escape
    else return number
  | none => fail (("incomplete escape " : Text) ++ escape) escape.length

/-- An escape by a name. -/
def namedEscape {α : Type} : Reader α := do
  if !(← skips '{') then fail "missing \x7b" 0
  let name ← nameUpTo '}' "character name" ((← get).rest.length + 1) []
  fail (("undefined character name " : Text) ++ name.quoted) (name.length + 4)

/-- An escape by octal digits. -/
def octalEscape (escape : Text) : Reader Nat := do
  let number := octal (escape.drop 1)
  if 0o377 < number then
    fail (("octal escape value " : Text) ++ escape ++ (" outside of range 0-0o377" : Text)) escape.length
  return number

/-- The number of a code point that an escape stands for, apart from digits. -/
def pointEscape (escape : Text) (c : CodePoint) : Reader Nat := do
  if c = 'x' then hexEscape escape 2
  else if c = 'u' then hexEscape escape 4
  else if c = 'U' then hexEscape escape 8
  else if c = 'N' then namedEscape
  else if c.isLetter ∨ c.isDigit then badEscape escape
  else return c.val

/-- What an escape in a set stands for. -/
def setEscape (escape : Text) : Reader PointItem := do
  match escape with
  | [_, c] =>
    match letters.find? (fun (letter, _) => CodePoint.ofChar letter == c), kind? c with
    | some (_, number), _ => return .range number number
    | none, some item => return item
    | none, none =>
      let number ←
        if isOctal c then do octalEscape (escape ++ (← takeUpTo isOctal 2))
        else pointEscape escape c
      return .range number number
  | _ => badEscape escape

/-- A single code point. -/
def single (mode : Mode) (number : Nat) : Pattern :=
  .point { items := [.range number number], foldCase := mode.foldCase, ascii := mode.ascii }

/-- The width of a group that is referred to, which so many code points before this place do. -/
def closedWidth (number : Nat) (back : Nat) : Reader Width := do
  match (← get).closed.lookup number with
  | some width => return width
  | none => fail "cannot refer to an open group" back

/-- Refuses a group that is asked for in the search for what is behind a place, and opened there too. -/
def refuseInside (number : Nat) : Reader Unit := do
  if (← get).behind.any (· < number) then
    fail "cannot refer to group defined in the same lookbehind subpattern" 0

/-- A reference to a group, which so many code points before this place say. -/
def referenceTo (mode : Mode) (number : Nat) (back : Nat) : Reader Pattern := do
  let width ← closedWidth number back
  refuseInside number
  return .reference number mode.letterRule width

/-- A reference to a group by its number, which the escape says. -/
def numberedReference (mode : Mode) (escape : Text) : Reader Pattern := do
  let number := Decimal.value (escape.drop 1)
  if (← get).groups < number then
    fail (("invalid group reference " : Text) ++ Decimal.digits number) (escape.length - 1)
  else referenceTo mode number escape.length

/-- An octal escape, or a reference to a group. -/
def digitEscape (mode : Mode) (escape : Text) (c : CodePoint) : Reader Pattern := do
  if c = '0' then return single mode (octal ((escape ++ (← takeUpTo isOctal 2)).drop 1))
  let second ← takeUpTo CodePoint.isDigit 1
  let escape := escape ++ second
  if isOctal c && second.any isOctal then
    match ← takeUpTo isOctal 1 with
    | [] => numberedReference mode escape
    | third => return single mode (← octalEscape (escape ++ third))
  else numberedReference mode escape

/-- An escape outside a set. -/
def outerEscape (mode : Mode) (escape : Text) : Reader Pattern := do
  match escape with
  | [_, c] =>
    if c = 'A' then return .anchor .start
    else if c = 'Z' then return .anchor .veryEnd
    else if c = 'b' then return .anchor (.wordEdge mode.ascii false)
    else if c = 'B' then return .anchor (.wordEdge mode.ascii true)
    else
      match kind? c, letters.find? (fun (letter, _) => CodePoint.ofChar letter == c) with
      | some item, _ => return .point { items := [item], foldCase := mode.foldCase, ascii := mode.ascii }
      | none, some (_, number) => return single mode number
      | none, none =>
        if c.isDigit then digitEscape mode escape c
        else return single mode (← pointEscape escape c)
  | _ => badEscape escape

/-! ### Sets -/

/-- One item of a set, or the first end of a range. -/
def setItem (symbol : Text) : Reader PointItem := do
  match symbol with
  | [c] => return .range c.val c.val
  | _ => setEscape symbol

/-- The items of a set, which starts so many code points before this place. -/
def setItems (start : Nat) : Nat → List PointItem → Reader (List PointItem)
  | 0, items => return items
  | fuel + 1, items => do
    let unterminated : Reader (List PointItem) := do
      throw (.misplaced "unterminated character set" start)
    let symbol ← next
    if symbol = [] then unterminated
    else if symbol = [CodePoint.ofChar ']'] ∧ items ≠ [] then return items
    else
      let first ← setItem symbol
      if ← skips '-' then
        let other ← next
        if other = [] then unterminated
        else if other = [CodePoint.ofChar ']'] then
          return items ++ [first, .range 0x2D 0x2D]
        else
          let last ← setItem other
          match first, last with
          | .range low _, .range high _ =>
            if low ≤ high then setItems start fuel (items ++ [.range low high])
            else badRange symbol other
          | _, _ => badRange symbol other
      else setItems start fuel (items ++ [first])
where
  /-- A range whose ends are no code points in order. -/
  badRange (symbol other : Text) : Reader (List PointItem) :=
    fail (("bad character range " : Text) ++ symbol ++ ("-" : Text) ++ other)
      (symbol.length + 1 + other.length)

/-- A set, behind its bracket. -/
def pointSet (mode : Mode) : Reader Pattern := do
  let start := (← get).position - 1
  let negated ← skips '^'
  let items ← setItems start ((← get).rest.length + 1) []
  return .point { items := items, negated := negated, foldCase := mode.foldCase, ascii := mode.ascii }

/-! ### Repetitions -/

/-- How often something is repeated at least or at most, which digits say. -/
def repetitions (digits : Text) : Reader Nat := do
  if Decimal.digitLimit < digits.length then throw (.tooLong digits.length)
  else if countLimit ≤ Decimal.value digits then throw .tooOften
  else return Decimal.value digits

/-- How often something is repeated, given the symbol that says so; none if a brace stands for itself. -/
def repetition? (symbol : CodePoint) : Reader (Option (Nat × Option Nat)) := do
  if symbol = '?' then return some (0, some 1)
  else if symbol = '*' then return some (0, none)
  else if symbol = '+' then return some (1, none)
  else
    let start ← get
    if (← peek) = [CodePoint.ofChar '}'] then return none
    let low ← takeAll CodePoint.isDigit
    let high ← if ← skips ',' then takeAll CodePoint.isDigit else pure low
    if !(← skips '}') then
      set start
      return none
    let least ← if low = [] then pure 0 else repetitions low
    if high = [] then return some (least, none)
    let most ← repetitions high
    if most < least then
      throw (.misplaced "min repeat greater than max repeat" start.position)
    return some (least, some most)

/-- A repetition, given the symbol behind it that says how it gives back what it has matched. One that
gives nothing back does not try another match of any round either. -/
def repeatedBy (body : Pattern) (least : Nat) (most : Option Nat) : Reader Pattern := do
  if ← skips '?' then return .repeated least most true body
  else if ← skips '+' then return .atomic (.repeated least most false (.atomic body))
  else return .repeated least most false body

/-- What a part of a pattern is to a repetition behind it. -/
inductive PartKind
  | plain
  | anchor
  | repetition
  deriving DecidableEq

/-- The parts of a pattern in order. -/
def joined (parts : List (Pattern × PartKind)) : Pattern :=
  parts.foldr (fun part rest => match rest with
    | .empty => part.1
    | rest => .sequence part.1 rest) .empty

/-! ### Modes -/

/-- The letters of modes. -/
def isModeLetter (c : CodePoint) : Bool :=
  (Text.ofString "aiLmstux").contains c

/-- The letters of which a pattern has at most one. -/
def isTypeLetter (c : CodePoint) : Bool :=
  (Text.ofString "aLu").contains c

/-- The mode with a letter switched. -/
def Mode.switch (mode : Mode) (on : Bool) (letter : CodePoint) : Mode :=
  if letter = 'i' then { mode with foldCase := on }
  else if letter = 'm' then { mode with multiline := on }
  else if letter = 's' then { mode with dotAll := on }
  else if letter = 'x' then { mode with verbose := on }
  else if letter = 'a' then { mode with ascii := on }
  else { mode with ascii := false }

/-- A letter stands where it cannot. -/
def badModeLetter {α : Type} (symbol : Text) (missing : Text) : Reader α :=
  let unknown := symbol.length = 1 && symbol.all CodePoint.isAlphabetic
  fail (if unknown then "unknown flag" else missing) symbol.length

/-- The letters that are switched on, and what ends them. -/
def lettersOn : Nat → Text → Text → Reader (Text × Text)
  | 0, on, symbol => return (on, symbol)
  | fuel + 1, on, symbol => do
    match symbol with
    | [c] =>
      if c = 'L' then fail "bad inline flags: cannot use 'L' flag with a str pattern" 0
      let on := on ++ [c]
      if isTypeLetter c ∧ (on.filter isTypeLetter).any (· != c) then
        fail "bad inline flags: flags 'a', 'u' and 'L' are incompatible" 0
      match ← next with
      | [] => fail "missing -, : or )" 0
      | [d] =>
        if isOneOfEnds d then return (on, [d])
        else if isModeLetter d then lettersOn fuel on [d]
        else badModeLetter [d] "missing -, : or )"
      | other => badModeLetter other "missing -, : or )"
    | _ => return (on, symbol)
where
  /-- What may stand behind the letters that are switched on. -/
  isOneOfEnds (c : CodePoint) : Bool := c == ')' || c == '-' || c == ':'

/-- The letters that are switched off, up to a colon. -/
def lettersOff : Nat → Text → CodePoint → Reader Text
  | 0, off, _ => return off
  | fuel + 1, off, c => do
    if isTypeLetter c then fail "bad inline flags: cannot turn off flags 'a', 'u' and 'L'" 0
    match ← next with
    | [] => fail "missing :" 0
    | [d] =>
      if d = ':' then return off ++ [c]
      else if isModeLetter d then lettersOff fuel (off ++ [c]) d
      else badModeLetter [d] "missing :"
    | other => badModeLetter other "missing :"

/-- The letter that is only meant for whole patterns. -/
def wholeLetter : CodePoint := 't'

/-- The mode of a group at a position that starts with letters of modes. -/
def groupMode (mode : Mode) (symbol : Text) (start : Nat) : Reader Mode := do
  let fuel := (← get).rest.length + 1
  let (on, ending) ← if symbol = [CodePoint.ofChar '-'] then pure ([], symbol) else lettersOn fuel [] symbol
  if ending = [CodePoint.ofChar ')'] then
    throw (.misplaced "global flags not at the start of the expression" start)
  if on.contains wholeLetter then fail "bad inline flags: cannot turn on global flag" 1
  let off ←
    if ending = [CodePoint.ofChar '-'] then do
      match ← next with
      | [] => fail "missing flag" 0
      | [c] => if isModeLetter c then lettersOff fuel [] c else badModeLetter [c] "missing flag"
      | other => badModeLetter other "missing flag"
    else pure []
  if off.contains wholeLetter then fail "bad inline flags: cannot turn off global flag" 1
  if on.any off.contains then fail "bad inline flags: flag turned on and off" 1
  return off.foldl (Mode.switch · false) (on.foldl (Mode.switch · true) mode)

/-! ### Groups -/

/-- Opens a group, under a name if it has one. -/
def openGroup (name : Option Text) : Reader Nat := do
  let progress ← get
  let number := progress.groups + 1
  match name with
  | none =>
    set { progress with groups := number }
    return number
  | some name =>
    match Fields.get? name progress.names with
    | some other =>
      fail (("redefinition of group name " : Text) ++ name.quoted ++ (" as group " : Text)
        ++ Decimal.digits number ++ ("; was group " : Text) ++ Decimal.digits other) (name.length + 1)
    | none =>
      set { progress with groups := number, names := Fields.set name number progress.names }
      return number

/-- Closes a group. -/
def closeGroup (number : Nat) (body : Pattern) : Reader Unit :=
  modify fun progress => { progress with closed := (number, body.width) :: progress.closed }

/-- Reads the end of a group that started at a position. -/
def groupEnd (start : Nat) : Reader Unit := do
  if !(← skips ')') then throw (.misplaced "missing ), unterminated subpattern" start)

/-- A comment, up to its end. -/
def comment (start : Nat) : Nat → Reader Unit
  | 0 => return
  | fuel + 1 => do
    match ← next with
    | [] => throw (.misplaced "missing ), unterminated comment" start)
    | symbol => if symbol = [CodePoint.ofChar ')'] then return else comment start fuel

/-- A reference to a group by its name. -/
def namedReference (mode : Mode) : Reader Pattern := do
  let name ← groupName ')'
  match Fields.get? name (← get).names with
  | none => fail (("unknown group name " : Text) ++ name.quoted) (name.length + 1)
  | some number => referenceTo mode number (name.length + 1)

/-- The number from which on groups cannot be counted. -/
def groupLimit : Nat := 1073741823

/-- The number of the group that a condition asks for, given its name or number. -/
def askedGroup (name : Text) : Reader Nat := do
  let back := name.length + 1
  if name.isIdentifier then
    match Fields.get? name (← get).names with
    | some number => return number
    | none => fail (("unknown group name " : Text) ++ name.quoted) back
  else
    match Numeral.read 10 name with
    | .ok (.ofNat 0) => fail "bad group number" back
    | .ok (.ofNat number) =>
      if groupLimit ≤ number then
        fail (("invalid group reference " : Text) ++ Decimal.digits number) back
      let position := (← get).position - back
      modify fun progress => { progress with asked := progress.asked ++ [(number, position)] }
      return number
    | _ => fail (("bad character in group name " : Text) ++ name.quoted) back

/-- The group that a condition asks for. It need not be closed yet, unless what is behind a place is
looked for. -/
def conditionGroup : Reader Nat := do
  let number ← askedGroup (← nameUpTo ')' "group name" ((← get).rest.length + 1) [])
  if (← get).behind.isSome then
    let _ ← closedWidth number 0
    refuseInside number
  return number

mutual

/-- Alternatives, with bars between them. -/
def alternatives : Nat → Mode → Reader Pattern
  | 0, _ => return .empty
  | fuel + 1, mode => do
    let first ← parts fuel mode []
    if ← skips '|' then
      let others ← alternatives fuel mode
      return .either first others
    else return first

/-- Parts up to a bar, a closing parenthesis or the end; those in front of them are given. -/
def parts : Nat → Mode → List (Pattern × PartKind) → Reader Pattern
  | 0, _, before => return joined before
  | fuel + 1, mode, before => do
    match ← peek with
    | [] => return joined before
    | [c] =>
      if c = '|' ∨ c = ')' then return joined before
      let here := (← get).position
      let _ ← next
      let goOn (part : Pattern) (kind : PartKind) : Reader Pattern :=
        parts fuel mode (before ++ [(part, kind)])
      if mode.verbose && c.isAsciiBlank then parts fuel mode before
      else if mode.verbose && c == '#' then do
        restOfLine ((← get).rest.length + 1)
        parts fuel mode before
      else if c = '[' then goOn (← pointSet mode) .plain
      else if c = '.' then
        let items := if mode.dotAll then [] else [PointItem.range 0x0A 0x0A]
        goOn (.point { items := items, negated := true }) .plain
      else if c = '^' then goOn (.anchor (if mode.multiline then .lineStart else .start)) .anchor
      else if c = '$' then goOn (.anchor (if mode.multiline then .lineFinish else .finish)) .anchor
      else if c = '(' then
        match ← group fuel mode here with
        | some part => goOn part .plain
        | none => parts fuel mode before
      else if c = '?' ∨ c = '*' ∨ c = '+' ∨ c = '{' then
        match ← repetition? c with
        | none => goOn (single mode c.val) .plain
        | some (least, most) =>
          match before.getLast? with
          | some (body, .plain) =>
            parts fuel mode (before.dropLast ++ [(← repeatedBy body least most, .repetition)])
          | some (_, .repetition) => throw (.misplaced "multiple repeat" here)
          | _ => throw (.misplaced "nothing to repeat" here)
      else goOn (single mode c.val) .plain
    | escape =>
      let _ ← next
      let part ← outerEscape mode escape
      let kind := match part with
        | .anchor _ => PartKind.anchor
        | _ => .plain
      parts fuel mode (before ++ [(part, kind)])

/-- A group, behind its parenthesis at a position; none for a comment. -/
def group : Nat → Mode → Nat → Reader (Option Pattern)
  | 0, _, _ => return none
  | fuel + 1, mode, start => do
    if !(← skips '?') then return some (← captured fuel mode start none)
    match ← next with
    | [] => fail "unexpected end of pattern" 0
    | [c] =>
      if c = 'P' then
        if ← skips '<' then return some (← captured fuel mode start (some (← groupName '>')))
        else if ← skips '=' then return some (← namedReference mode)
        else
          match ← next with
          | [] => fail "unexpected end of pattern" 0
          | symbol => fail (("unknown extension ?P" : Text) ++ symbol) (symbol.length + 2)
      else if c = ':' ∨ c = '>' then
        let body ← alternatives fuel mode
        groupEnd start
        return some (if c = '>' then .atomic body else body)
      else if c = '#' then
        comment start ((← get).rest.length + 1)
        return none
      else if c = '=' ∨ c = '!' then
        let body ← alternatives fuel mode
        groupEnd start
        return some (.ahead (c == '!') body)
      else if c = '<' then
        match ← next with
        | [] => fail "unexpected end of pattern" 0
        | symbol =>
          if symbol ≠ [CodePoint.ofChar '='] ∧ symbol ≠ [CodePoint.ofChar '!'] then
            fail (("unknown extension ?<" : Text) ++ symbol) (symbol.length + 2)
          let outer := (← get).behind
          modify fun progress => { progress with behind := outer.or (some progress.groups) }
          let body ← alternatives fuel mode
          modify fun progress => { progress with behind := outer }
          groupEnd start
          return some (.behind (symbol == [CodePoint.ofChar '!']) body.width.least body)
      else if c = '(' then return some (← condition fuel mode start)
      else if isModeLetter c ∨ c = '-' then
        let mode ← groupMode mode [c] start
        let body ← alternatives fuel mode
        groupEnd start
        return some body
      else fail (("unknown extension ?" : Text) ++ [c]) 2
    | symbol => fail (("unknown extension ?" : Text) ++ symbol) (symbol.length + 1)

/-- A group that is captured. -/
def captured : Nat → Mode → Nat → Option Text → Reader Pattern
  | 0, _, _, _ => return .empty
  | fuel + 1, mode, start, name => do
    let number ← openGroup name
    let body ← alternatives fuel mode
    groupEnd start
    closeGroup number body
    return .group number body

/-- A choice that depends on a group. -/
def condition : Nat → Mode → Nat → Reader Pattern
  | 0, _, _ => return .empty
  | fuel + 1, mode, start => do
    let number ← conditionGroup
    let yes ← parts fuel mode []
    let no ←
      if ← skips '|' then do
        let no ← parts fuel mode []
        if (← peek) = [CodePoint.ofChar '|'] then
          fail "conditional backref with more than two branches" 0
        pure no
      else pure Pattern.empty
    groupEnd start
    return .ifGroup number yes no

end

/-- A whole pattern. -/
def whole : Reader Pattern := do
  look
  let pattern ← alternatives (4 * (← get).rest.length + 4) {}
  if !(← peek).isEmpty then fail "unbalanced parenthesis" 0
  let progress ← get
  match progress.asked.find? fun (number, _) => progress.groups < number with
  | some (number, position) =>
    throw (.misplaced (("invalid group reference " : Text) ++ Decimal.digits number) position)
  | none => return pattern

end Reader

/-- What is wrong with the widths of what is looked for behind places. -/
def widthFlaw? : Pattern → Option Flaw
  | sequence first second => (widthFlaw? first).or (widthFlaw? second)
  | either first second => (widthFlaw? first).or (widthFlaw? second)
  | repeated _ _ _ body => widthFlaw? body
  | atomic body => widthFlaw? body
  | group _ body => widthFlaw? body
  | ahead _ body => widthFlaw? body
  | behind _ least body =>
    if countLimit < least then some .tooFarBehind
    else if body.width ≠ .exactly least then some .openWidth
    else widthFlaw? body
  | ifGroup _ yes no => (widthFlaw? yes).or (widthFlaw? no)
  | _ => none

/-- Reads a pattern. -/
def read (t : Text) : Except Flaw Pattern := do
  let (pattern, _) ← Reader.whole.run { rest := t }
  match pattern.widthFlaw? with
  | none => return pattern
  | some flaw => throw flaw

end AlarmFeed.Pattern
