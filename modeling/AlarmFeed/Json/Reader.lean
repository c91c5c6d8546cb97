/-
**Reading JSON.**

`Json.read` reads one value and accepts blanks around it and nothing else. Besides standard JSON it
knows the words `NaN`, `Infinity` and `-Infinity`. An escaped surrogate pair is one code point; a
surrogate without a partner stands for itself. Of members of one name the last counts. Reading fails
on malformed text, on an integer of more than 4300 digits, and on one level of nesting too many;
`ReadError` keeps these apart. How many levels there are is up to the caller, who shares a stack with
them.

Every reader returns what it has read and the rest of the text. The fuel of the mutual readers bounds
their depth of recursion; two units for each code point are always enough.
-/

import AlarmFeed.Value

namespace AlarmFeed.Json

/-- The two kinds of nested value. -/
inductive Container
  | list
  | object
  deriving DecidableEq

/-- Why a text is no value. -/
inductive ReadError
  | malformed
  /-- An integer has too many digits. -/
  | longInteger (digits : Nat)
  /-- One more level of nesting would be too deep. -/
  | tooDeep (container : Container)
  deriving DecidableEq

/-- How deep lists and objects may be nested for a caller who says nothing else. -/
def depthLimit : Nat := Value.depthLimit

/-- The blanks between the parts of a value. -/
def isBlank (c : CodePoint) : Bool :=
  c == ' ' || c == '\n' || c == '\r' || c == '\t'

/-- The rest of a text after its blanks. -/
def skipBlanks (t : Text) : Text :=
  t.dropWhile isBlank

/-- A code unit from four hexadecimal digits. -/
def unit? (a b c d : CodePoint) : Option CodePoint :=
  (Text.hexNumber? [a, b, c, d]).map CodePoint.ofNat

/-- What the escapes of one letter stand for. -/
def escaped? (c : CodePoint) : Option CodePoint :=
  if c = '"' then some '"'
  else if c = '\\' then some '\\'
  else if c = '/' then some '/'
  else if c = 'b' then some (CodePoint.ofNat 0x08)
  else if c = 'f' then some (CodePoint.ofNat 0x0C)
  else if c = 'n' then some '\n'
  else if c = 'r' then some '\r'
  else if c = 't' then some '\t'
  else none

/-- What stands for a code point between quotes. -/
inductive Piece
  | plain (point : CodePoint)
  /-- An escape by the number of a code unit. -/
  | unit (point : CodePoint)
  deriving DecidableEq

/-- The text of some pieces: two escapes that make a surrogate pair are one code point. -/
def joinPieces : List Piece → Text
  | [] => []
  | .plain c :: pieces => c :: joinPieces pieces
  | [.unit c] => [c]
  | .unit c :: .plain d :: pieces => c :: d :: joinPieces pieces
  | .unit c :: .unit d :: pieces =>
    if c.isHighSurrogate && d.isLowSurrogate then .ofPair c d :: joinPieces pieces
    else c :: joinPieces (.unit d :: pieces)

/-- A piece in front of those that a reader has read. -/
def prepend (piece : Piece) (read : Except ReadError (List Piece × Text)) :
    Except ReadError (List Piece × Text) :=
  read.map fun (pieces, rest) => (piece :: pieces, rest)

/-- The pieces up to the closing quote. -/
def readPieces : Text → Except ReadError (List Piece × Text)
  | [] => .error .malformed
  | c :: rest =>
    if c = '"' then .ok ([], rest)
    else if c.val < 0x20 then .error .malformed
    else if c = '\\' then
      match rest with
      | [] => .error .malformed
      | mark :: rest =>
        if mark = 'u' then
          match rest with
          | a :: b :: c :: d :: rest =>
            match unit? a b c d with
            | some unit => prepend (.unit unit) (readPieces rest)
            | none => .error .malformed
          | _ => .error .malformed
        else
          match escaped? mark with
          | some point => prepend (.plain point) (readPieces rest)
          | none => .error .malformed
    else prepend (.plain c) (readPieces rest)

/-- The text up to the closing quote. -/
def readText (t : Text) : Except ReadError (Text × Text) :=
  (readPieces t).map fun (pieces, rest) => (joinPieces pieces, rest)

/-- The digits after a point, and what follows them; none if there is no point with a digit. -/
def fraction? : Text → Option (Text × Text)
  | [] => none
  | point :: rest =>
    let digits := rest.takeWhile CodePoint.isDigit
    if point = '.' ∧ digits ≠ [] then some (digits, rest.drop digits.length) else none

/-- The number after an exponent mark, and what follows it. -/
def exponent? : Text → Option (Int × Text)
  | [] => none
  | mark :: rest =>
    if mark = 'e' ∨ mark = 'E' then
      let negative := rest.head? == some (CodePoint.ofChar '-')
      let signed := negative || rest.head? == some (CodePoint.ofChar '+')
      let unsigned := if signed then rest.drop 1 else rest
      let digits := unsigned.takeWhile CodePoint.isDigit
      if digits = [] then none
      else some (Decimal.signed negative (Decimal.value digits), unsigned.drop digits.length)
    else none

/-- The digits of the integer part: a single zero, or digits of which the first is not zero. -/
def integerDigits (t : Text) : Text :=
  if t.head? = some (CodePoint.ofChar '0') then [CodePoint.ofChar '0']
  else t.takeWhile CodePoint.isDigit

/-- A number after its sign. -/
def readUnsigned (negative : Bool) (t : Text) : Except ReadError (Value × Text) :=
  let whole := integerDigits t
  let rest := t.drop whole.length
  if whole = [] then .error .malformed
  else
    let (decimals, rest, point) := match fraction? rest with
      | some (digits, rest) => (digits, rest, true)
      | none => ([], rest, false)
    match exponent? rest with
    | some (power, rest) =>
      .ok (.number (.ofDecimal negative (Decimal.value (whole ++ decimals))
        (power - decimals.length)), rest)
    | none =>
      if point then
        .ok (.number (.ofDecimal negative (Decimal.value (whole ++ decimals))
          (-(decimals.length : Int))), rest)
      else if Decimal.digitLimit < whole.length then .error (.longInteger whole.length)
      else .ok (.int (Decimal.signed negative (Decimal.value whole)), rest)

/-- The values that are written as words. -/
def words : List (Text × Value) :=
  [("null", .null), ("true", .bool true), ("false", .bool false), ("NaN", .number .nan),
    ("Infinity", .number (.infinite false)), ("-Infinity", .number (.infinite true))]

/-- A value that is a word or a number. -/
def readPlain (t : Text) : Except ReadError (Value × Text) :=
  match words.findSome? fun (word, value) => (Text.after? word t).map (value, ·) with
  | some found => .ok found
  | none =>
    match t with
    | [] => .error .malformed
    | c :: rest => if c = '-' then readUnsigned true rest else readUnsigned false t

mutual

/-- A value, with so many levels of nesting left. -/
def readValue : Nat → Nat → Text → Except ReadError (Value × Text)
  | 0, _, _ => .error .malformed
  | fuel + 1, depth, t =>
    match t with
    | [] => .error .malformed
    | c :: rest =>
      if c = '"' then do
        let (content, rest) ← readText rest
        .ok (.text content, rest)
      else if c = '[' then
        match depth with
        | 0 => .error (.tooDeep .list)
        | depth + 1 =>
          match skipBlanks rest with
          | [] => .error .malformed
          | c :: more =>
            if c = ']' then .ok (.list [], more)
            else do
              let (items, rest) ← readItems fuel depth (c :: more)
              .ok (.list items, rest)
      else if c = '{' then
        match depth with
        | 0 => .error (.tooDeep .object)
        | depth + 1 =>
          match skipBlanks rest with
          | [] => .error .malformed
          | c :: more =>
            if c = '}' then .ok (.object [], more)
            else do
              let (members, rest) ← readMembers fuel depth (c :: more)
              .ok (.object (Fields.ofPairs members), rest)
      else readPlain (c :: rest)

/-- The items of a list up to its end. -/
def readItems : Nat → Nat → Text → Except ReadError (List Value × Text)
  | 0, _, _ => .error .malformed
  | fuel + 1, depth, t => do
    let (item, rest) ← readValue fuel depth t
    match skipBlanks rest with
    | [] => .error .malformed
    | c :: rest =>
      if c = ']' then .ok ([item], rest)
      else if c = ',' then do
        let (items, rest) ← readItems fuel depth (skipBlanks rest)
        .ok (item :: items, rest)
      else .error .malformed

/-- The members of an object up to its end. -/
def readMembers : Nat → Nat → Text → Except ReadError (List (Text × Value) × Text)
  | 0, _, _ => .error .malformed
  | fuel + 1, depth, t =>
    match t with
    | [] => .error .malformed
    | quote :: rest =>
      if quote = '"' then do
        let (name, rest) ← readText rest
        match skipBlanks rest with
        | [] => .error .malformed
        | colon :: rest =>
          if colon = ':' then do
            let (value, rest) ← readValue fuel depth (skipBlanks rest)
            match skipBlanks rest with
            | [] => .error .malformed
            | c :: rest =>
              if c = '}' then .ok ([(name, value)], rest)
              else if c = ',' then do
                let (members, rest) ← readMembers fuel depth (skipBlanks rest)
                .ok ((name, value) :: members, rest)
              else .error .malformed
          else .error .malformed
      else .error .malformed

end

/-- The value that a text says, nested no deeper than there are levels. -/
def read (t : Text) (depth : Nat := depthLimit) : Except ReadError Value := do
  let (value, rest) ← readValue (2 * t.length) depth (skipBlanks t)
  if skipBlanks rest = [] then .ok value else .error .malformed

end AlarmFeed.Json
