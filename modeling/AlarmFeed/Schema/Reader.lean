/-
**Reading values, records and lists.**

The monitor writes most numbers and truth values as texts, so each reader also takes the texts that
say such a value. An integer may come as a truth value, an integral number, or a decimal numeral with
blanks around it, zeros in front, single underscores, and a fraction of zeros; a truth value may come
as `0`, `1` or one of a few words. A text comes only as a text, or as the bytes of one in UTF-8.

A record is read from an object. `required` and `optional` read one field; members that no field names
are ignored. `list` reads every item. All of them keep every issue, in the order of the fields and of
the items, with the path that leads to it.
-/

import AlarmFeed.Number.Numeral
import AlarmFeed.Schema.Checked

namespace AlarmFeed.Schema

/-! ### Single values -/

/-- The least integer that is too large for 64 bits. -/
def wordLimit : Int := 0x8000000000000000

/-- The integer that a number is, if it is one of less than 64 bits. -/
def smallInteger? (x : Binary64) : Option Int :=
  x.toInt?.filter fun n => -wordLimit < n && n < wordLimit

/-- An integer from a number. -/
def integerOfNumber (x : Binary64) : Except Flaw Int :=
  if !x.isFinite then .error .notFinite
  else match x.toInt? with
    | none => .error .fractional
    | some n => if -wordLimit < n ∧ n < wordLimit then .ok n else .error .integerTooLong

/-- The text without a minus in front. -/
def withoutMinus (t : Text) : Text :=
  if t.head? == some (CodePoint.ofChar '-') then t.drop 1 else t

/-- Whether a text starts, behind at most a minus, with more digits than an integer may have, the
first of them not zero. -/
def startsTooLong (t : Text) : Bool :=
  let figures := withoutMinus t
  figures.head? != some (CodePoint.ofChar '0')
    && Decimal.digitLimit < (figures.takeWhile CodePoint.isDigit).length

/-- The integer in its one notation: at most a minus, then the digits, the first of them zero only if
it is the only one. -/
def plainInteger? (t : Text) : Option Int :=
  let figures := withoutMinus t
  if figures ≠ [] ∧ figures.all CodePoint.isDigit ∧ figures.length ≤ Decimal.digitLimit
      ∧ (figures.head? = some (CodePoint.ofChar '0') → figures.length = 1) then
    some (Decimal.signed (figures.length < t.length) (Decimal.value figures))
  else none

/-- What is behind the zeros in front, a further minus included; underscores among those zeros go
with them, and the last zero stays at the end of the text and in front of a point. -/
def withoutLeadingZeros (t : Text) : Option Text :=
  match t with
  | [] => none
  | c :: rest =>
    if c = '0' then
      let zeros := rest.takeWhile fun (c : CodePoint) => c == '0' || c == '_'
      match rest.drop zeros.length with
      | [] => some [(c :: zeros).getLastD c]
      | next :: more =>
        if next = '.' then some ((c :: zeros).getLastD c :: next :: more)
        else if next.isDigit ∨ next = '-' then some (next :: more)
        else none
    else if c.isDigit then some t
    else none

/-- The text without a fraction of zeros. -/
def withoutZeroFraction (t : Text) : Text :=
  match Text.cutAt? '.' t with
  | some (whole, decimals) =>
    if decimals ≠ [] ∧ decimals.all (· == '0') then whole else t
  | none => t

/-- A lenient notation of an integer in its one notation: without blanks around it, a plus, zeros in
front, a fraction of zeros and single underscores. -/
def plainNotation? (t : Text) : Option Text :=
  let t := Text.trim CodePoint.isBlank t
  let negative := t.head? == some (CodePoint.ofChar '-')
  let signed := negative || t.head? == some (CodePoint.ofChar '+')
  (withoutLeadingZeros (if signed then t.drop 1 else t)).map fun figures =>
    let figures := withoutZeroFraction figures
    let figures := if Numeral.underscoresFit figures then Numeral.dropUnderscores figures else figures
    if negative then '-' :: figures else figures

/-- An integer from a text. -/
def integerOfText (t : Text) : Except Flaw Int :=
  if t.any CodePoint.isSurrogate then .error .notUnicode
  else if startsTooLong t then .error .integerTooLong
  else match (plainNotation? t).bind plainInteger? with
    | some n => .ok n
    | none => .error .notIntegerText

/-- A truth value from a text. -/
def truthOfText (t : Text) : Except Flaw Bool :=
  if t.any CodePoint.isSurrogate then .error .notUnicode
  else
    let word := t.lower
    let isOneOf (words : List String) : Bool := words.any fun w => (w : Text) == word
    if isOneOf ["0", "off", "f", "false", "n", "no"] then .ok false
    else if isOneOf ["1", "on", "t", "true", "y", "yes"] then .ok true
    else .error .notTruthText

/-- A truth value from an integer. -/
def truthOfInteger (n : Int) : Except Flaw Bool :=
  if n = 0 then .ok false else if n = 1 then .ok true else .error .notTruthText

/-- A number from a text. -/
def numberOfText (t : Text) : Except Flaw Binary64 :=
  if t.any CodePoint.isSurrogate then .error .notUnicode
  else
    let plain := Binary64.ofText? (Text.trim CodePoint.isBlank t)
    let spaced :=
      if Numeral.underscoresFit t then Binary64.ofText? (Numeral.dropUnderscores t) else none
    match plain.or spaced with
    | some x => .ok x
    | none => .error .notNumberText

namespace Checked

/-- The outcome of a check of one value. -/
def ofExcept {α : Type} (input : Value) : Except Flaw α → Checked α
  | .ok a => ok a
  | .error flaw => flawed flaw input

end Checked

/-- Reads bytes as the text that they are in UTF-8; other bytes have a given flaw. -/
def ofBytes {α : Type} (read : Text → Except Flaw α) (flaw : Flaw) (bytes : Bytes) : Except Flaw α :=
  match Utf8.decode false bytes with
  | .ok t => read t
  | .error _ => .error flaw

/-- Reads an integer. -/
def integer (value : Value) : Checked Int :=
  .ofExcept value <| match value with
  | .bool truth => .ok truth.toNat
  | .int n => .ok n
  | .number x => integerOfNumber x
  | .text t => integerOfText t
  | .bytes bytes => ofBytes integerOfText .notIntegerText bytes
  | _ => .error .notInteger

/-- Reads a truth value. -/
def truth (value : Value) : Checked Bool :=
  .ofExcept value <| match value with
  | .bool truth => .ok truth
  | .int n => if -wordLimit ≤ n ∧ n < wordLimit then truthOfInteger n else .error .notTruth
  | .number x =>
    match smallInteger? x with
    | some n => truthOfInteger n
    | none => .error .notTruth
  | .text t => truthOfText t
  | .bytes bytes => ofBytes truthOfText .notTruthText bytes
  | _ => .error .notTruth

/-- Reads a floating point number. -/
def number (value : Value) : Checked Binary64 :=
  .ofExcept value <| match value with
  | .bool truth => .ok (.ofInt truth.toNat)
  | .int n => if (Binary64.ofInt n).isFinite then .ok (.ofInt n) else .error .notNumber
  | .number x => .ok x
  | .text t => numberOfText t
  | .bytes bytes => ofBytes numberOfText .notNumberText bytes
  | _ => .error .notNumber

/-- Reads a text. -/
def text (value : Value) : Checked Text :=
  .ofExcept value <| match value with
  | .text t => .ok t
  | .bytes bytes => ofBytes .ok .notUnicode bytes
  | _ => .error .notText

/-! ### Records and lists -/

/-- A reader of values. -/
abbrev Reader (α : Type) := Value → Checked α

/-- A field that has to be there. -/
def required {α : Type} (name : Text) (reader : Reader α) (members : Members) : Checked α :=
  match Fields.get? name members with
  | some value => (reader value).under (.field name)
  | none => .bad [⟨[.field name], .missing, .object members⟩]

/-- A field with a default. -/
def optional {α : Type} (name : Text) (reader : Reader α) (default : α) (members : Members) :
    Checked α :=
  match Fields.get? name members with
  | some value => (reader value).under (.field name)
  | none => .ok default

/-- A record with a given name. -/
def record {α : Type} (title : Text) (fields : Members → Checked α) : Reader α
  | .object members => fields members
  | value => .flawed (.notRecord title) value

/-- The items of a list from a position on. -/
def items {α : Type} (reader : Reader α) : Nat → List Value → Checked (List α)
  | _, [] => .ok []
  | position, value :: values =>
    List.cons <$> (reader value).under (.item position) <*> items reader (position + 1) values

/-- A list of values of one kind. -/
def list {α : Type} (reader : Reader α) : Reader (List α)
  | .list values => items reader 0 values
  | value => .flawed .notList value

end AlarmFeed.Schema
