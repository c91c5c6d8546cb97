/-
**What plain scalars mean.**

A plain scalar is null, a truth value, a number, a timestamp, or one of two marks (`<<` for merging,
`=` for a default value) if it has the form of one, and a text otherwise; a line feed may stand behind
any of these forms. `Tag.ofPlain` says which; `integer`, `number` and `truth` read a scalar as such a
value.
-/

import AlarmFeed.Number.Numeral
import AlarmFeed.Text.Lowercase
import AlarmFeed.Yaml.Date

namespace AlarmFeed.Yaml

/-- The types of nodes. -/
inductive Tag
  | null
  | truth
  | integer
  | number
  | text
  | timestamp
  | binary
  | merge
  | default
  | list
  | map
  | set
  | orderedMap
  | pairs
  | unknown
  deriving DecidableEq

/-- The names of the types behind `tag:yaml.org,2002:`. -/
def Tag.names : List (String × Tag) :=
  [("null", .null), ("bool", .truth), ("int", .integer), ("float", .number), ("str", .text),
    ("timestamp", .timestamp), ("binary", .binary), ("merge", .merge), ("value", .default),
    ("seq", .list), ("map", .map), ("set", .set), ("omap", .orderedMap), ("pairs", .pairs)]

/-- The type of a full name. -/
def Tag.ofName (name : Text) : Tag :=
  match Text.after? "tag:yaml.org,2002:" name with
  | none => .unknown
  | some short =>
    ((Tag.names.find? fun (known, _) => (known : Text) == short).map Prod.snd).getD .unknown

/-- Whether a text is one of some words. -/
def isWord (words : List String) (t : Text) : Bool :=
  words.any fun word => (word : Text) == t

/-- A digit or an underscore. -/
def isFigure (c : CodePoint) : Bool :=
  c.isDigit || c == '_'

/-- The text without a sign in front. -/
def unsigned (t : Text) : Text :=
  match t with
  | [] => []
  | c :: rest => if c = '+' ∨ c = '-' then rest else t

/-- Whether a text has a minus sign in front. -/
def isNegative (t : Text) : Bool :=
  t.head? == some (CodePoint.ofChar '-')

/-- A digit and then figures. -/
def isFigures (t : Text) : Bool :=
  t.head?.any CodePoint.isDigit && t.all isFigure

/-- A digit below sixty: one digit, or two of which the first is at most five. -/
def isSixtieth (t : Text) : Bool :=
  match t with
  | [c] => c.isDigit
  | [c, d] => c.isDigit && c.digitValue ≤ 5 && d.isDigit
  | _ => false

/-- Figures and then sixtieths, with colons between them. -/
def isSexagesimal (t : Text) : Bool :=
  match Text.splitOn ':' t with
  | first :: next :: more => isFigures first && (next :: more).all isSixtieth
  | _ => false

/-- The text behind a base mark, if it is not empty and all its code points are figures of a class. -/
def hasBase (mark : String) (accept : CodePoint → Bool) (t : Text) : Bool :=
  match Text.after? mark t with
  | some rest => !rest.isEmpty && rest.all fun c => accept c || c == '_'
  | none => false

/-- An octal digit. -/
def isOctal (c : CodePoint) : Bool :=
  c.isDigit && c.digitValue ≤ 7

/-- The form of an integer. -/
def isIntegerForm (t : Text) : Bool :=
  let t := unsigned t
  let nonzero := t.head? != some (CodePoint.ofChar '0')
  hasBase "0b" (isOneOfDigits 1) t || hasBase "0x" (fun c => c.hexValue?.isSome) t
    || hasBase "0" isOctal t || t == "0" || (nonzero && (isFigures t || isSexagesimal t))
where
  /-- A digit of at most a given value. -/
  isOneOfDigits (greatest : Nat) (c : CodePoint) : Bool := c.isDigit && c.digitValue ≤ greatest

/-- Figures, and then perhaps an exponent with its sign. -/
def isFraction (t : Text) : Bool :=
  match t.dropWhile isFigure with
  | [] => true
  | mark :: rest =>
    (mark == 'e' || mark == 'E') && rest.head?.any (isOneOf "+-")
      && !rest.tail.isEmpty && rest.tail.all CodePoint.isDigit

/-- The form of a number with a point. -/
def isNumberForm (t : Text) : Bool :=
  match Text.cutAt? '.' t with
  | none => false
  | some (whole, fraction) =>
    (isFigures (unsigned whole) && isFraction fraction)
      || (whole.isEmpty && fraction.head?.any CodePoint.isDigit && isFraction fraction)
      || (isSexagesimal (unsigned whole) && fraction.all isFigure)
      || ((unsigned whole).isEmpty && isWord ["inf", "Inf", "INF"] fraction)
      || (whole.isEmpty && isWord ["nan", "NaN", "NAN"] fraction)

/-- The form of a timestamp. -/
def isTimestampForm (t : Text) : Bool :=
  (Stamp.ofText? t).any fun stamp => stamp.full || stamp.time.isSome

/-- The words for truth. -/
def trueWords : List String :=
  ["yes", "Yes", "YES", "true", "True", "TRUE", "on", "On", "ON"]

/-- The words for falsehood. -/
def falseWords : List String :=
  ["no", "No", "NO", "false", "False", "FALSE", "off", "Off", "OFF"]

/-- The type of the plain scalars of a form, which has no line feed behind it. -/
def Tag.ofForm (t : Text) : Tag :=
  if isWord (trueWords ++ falseWords) t then .truth
  else if isNumberForm t then .number
  else if isIntegerForm t then .integer
  else if t = "<<" then .merge
  else if isWord ["", "~", "null", "Null", "NULL"] t then .null
  else if isTimestampForm t then .timestamp
  else if t = "=" then .default
  else .text

/-- The type of a plain scalar; a lone line feed has no form. -/
def Tag.ofPlain (t : Text) : Tag :=
  if t = "\n" then .text else .ofForm (withoutLineFeed t)

/-- Reads a truth value; any other word is a missing key. -/
def truth (t : Text) : Except Fault Bool :=
  let word := t.lowercase
  if isWord ["yes", "true", "on"] word then .ok true
  else if isWord ["no", "false", "off"] word then .ok false
  else .error (.general .key word)

/-- Reads a numeral in a base. -/
def numeral (base : Nat) (t : Text) : Except Fault Int :=
  match Numeral.read base t with
  | .ok n => .ok n
  | .error error => .error (.general .value (error.message base t))

/-- Reads numerals with colons between them as the digits of a number in base sixty. -/
def sexagesimal (t : Text) : Except Fault Int := do
  let digits ← (Text.splitOn ':' t).mapM (numeral 10)
  return digits.foldl (fun sum digit => 60 * sum + digit) 0

/-- The fault of a number without a digit. -/
def noDigit : Fault :=
  .general .index "string index out of range"

/-- Reads the size of an integer, in the base that its first digits say. -/
def integerSize (t : Text) : Except Fault Int :=
  if t = [] then .error noDigit
  else if t = "0" then .ok 0
  else match Text.after? "0b" t, Text.after? "0x" t with
  | some rest, _ => numeral 2 rest
  | _, some rest => numeral 16 rest
  | none, none =>
    if t.head? = some (CodePoint.ofChar '0') then numeral 8 t
    else if t.contains ':' then sexagesimal t
    else numeral 10 t

/-- Reads an integer. -/
def integer (t : Text) : Except Fault Int :=
  let t := Numeral.dropUnderscores t
  if t = [] then .error noDigit
  else (integerSize (unsigned t)).map fun size => if isNegative t then -size else size

/-- Reads a number in decimal notation, in digits of any script. -/
def decimal (t : Text) : Except Fault Binary64 :=
  let plain := (Text.trim Numeral.isPadding t).map fun c =>
    match c.decimalValue? with
    | some value => Decimal.digit value
    | none => c
  match Binary64.ofText? plain with
  | some x => .ok x
  | none => .error (.general .value (("could not convert string to float: " : Text) ++ t.quoted))

/-- The sum of digits in base sixty, the last one first, each counted in a given unit. -/
def sixtieths : Nat → List Binary64 → Binary64 → Except Fault Binary64
  | _, [], sum => .ok sum
  | unit, digit :: digits, sum =>
    let size := Binary64.ofInt unit
    if size.isFinite then sixtieths (60 * unit) digits (sum.add (digit.mul size))
    else .error (.general .overflow "int too large to convert to float")

/-- Reads a number without its sign. -/
def numberSize (t : Text) : Except Fault Binary64 :=
  if t = ".inf" then .ok (.infinite false)
  else if t = ".nan" then .ok .nan
  else if t.contains ':' then do
    let digits ← (Text.splitOn ':' t).mapM decimal
    sixtieths 1 digits.reverse (.zero false)
  else decimal t

/-- Reads a number. -/
def number (t : Text) : Except Fault Binary64 :=
  let t := (Numeral.dropUnderscores t).lowercase
  if t = [] then .error noDigit
  else (numberSize (unsigned t)).map fun size => if isNegative t then size.negate else size

/-- Reads a timestamp. -/
def timestamp (t : Text) : Except Fault Instant :=
  match Stamp.ofText? (withoutLineFeed t) with
  | some stamp => stamp.instant
  | none => .error (.general .member "'NoneType' object has no attribute 'groupdict'")

end AlarmFeed.Yaml
