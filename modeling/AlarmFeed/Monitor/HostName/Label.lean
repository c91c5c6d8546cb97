/-
**Labels of host names.**

A host name is a row of labels with dots between them. A label is a text in its normal form that holds
letters, digits, marks and hyphens of any script; it neither starts nor ends with a hyphen, has no two
hyphens behind its second code point, and starts with no mark. Some code points belong to a label only next
to certain others (`fits`, `joins`), and a label that holds writing from right to left must not be read in
two ways (`checkDirections`). A label that is not ASCII travels in Punycode behind `xn--`, and what stands
behind `xn--` has to be such a label again.

* `Label.check` says whether a text is a label, and else why not;
* `Label.toAscii` is the form in which a label travels;
* `Label.checkHost` asks of each label of a name whether what it stands for is one.
-/

import AlarmFeed.Number.Decimal
import AlarmFeed.Text.Direction
import AlarmFeed.Text.Normal
import AlarmFeed.Text.Punycode

namespace AlarmFeed

/-- Why a text is no label. -/
inductive LabelFlaw
  | empty
  | notNormal
  /-- Two hyphens stand behind the second code point. -/
  | innerHyphens
  | outerHyphen
  | leadingMark
  /-- A code point of a label, at a position that counts from one, belongs to none. -/
  | point (c : CodePoint) (position : Nat) (label : Text)
  /-- A joiner stands where nothing is joined. -/
  | joiner (c : CodePoint) (position : Nat) (label : Text)
  /-- A code point belongs to labels, but not where it stands. -/
  | context (c : CodePoint) (position : Nat) (label : Text)
  /-- The direction at a position is not known. -/
  | noDirection (position : Nat) (label : Text)
  /-- A label with writing from right to left starts with something without a direction. -/
  | start (label : Text)
  /-- Something runs from left to right in a label that runs from right to left. -/
  | leftInRight (position : Nat)
  | rightInLeft (position : Nat)
  /-- Two kinds of digits stand in a label that runs from right to left. -/
  | mixedNumbers
  /-- A label with writing from right to left ends with something without a direction. -/
  | finish
  /-- Nothing stands behind `xn--`. -/
  | noDigits
  /-- What stands behind `xn--` ends with a hyphen. -/
  | lastHyphen
  /-- What stands behind `xn--` is no Punycode. -/
  | encoding
  /-- The form in which the label travels has more than 63 code points. -/
  | tooLong
  /-- The whole name has more than 254 code points. -/
  | nameTooLong

/-- A number in hexadecimal of four or more digits, in upper case. -/
def Text.upperHex (n : Nat) : Text :=
  let places := if n < 0x10000 then 4 else if n < 0x100000 then 5 else 6
  (Text.hex places n).map fun c => if c.isLetter then CodePoint.ofNat (c.val - 0x20) else c

/-- The report on a text that is no label. -/
def LabelFlaw.message : LabelFlaw → Text
  | .empty => "Empty Label"
  | .notNormal => "Label must be in Normalization Form C"
  | .innerHyphens => "Label has disallowed hyphens in 3rd and 4th position"
  | .outerHyphen => "Label must not start or end with a hyphen"
  | .leadingMark => "Label begins with an illegal combining character"
  | .point c position label =>
    ("Codepoint U+" : Text) ++ Text.upperHex c.val ++ (" at position " : Text)
      ++ Decimal.digits position ++ (" of " : Text) ++ label.quoted ++ (" not allowed" : Text)
  | .joiner c position label =>
    ("Unknown codepoint adjacent to joiner U+" : Text) ++ Text.upperHex c.val
      ++ (" at position " : Text) ++ Decimal.digits position ++ (" in " : Text) ++ label.quoted
  | .context c position label =>
    ("Codepoint U+" : Text) ++ Text.upperHex c.val ++ (" not allowed at position " : Text)
      ++ Decimal.digits position ++ (" in " : Text) ++ label.quoted
  | .noDirection position label =>
    ("Unknown directionality in label " : Text) ++ label.quoted ++ (" at position " : Text)
      ++ Decimal.digits position
  | .start label =>
    ("First codepoint in label " : Text) ++ label.quoted
      ++ (" must be directionality L, R or AL" : Text)
  | .leftInRight position =>
    ("Invalid direction for codepoint at position " : Text) ++ Decimal.digits position
      ++ (" in a right-to-left label" : Text)
  | .rightInLeft position =>
    ("Invalid direction for codepoint at position " : Text) ++ Decimal.digits position
      ++ (" in a left-to-right label" : Text)
  | .mixedNumbers => "Can not mix numeral types in a right-to-left label"
  | .finish => "Label ends with illegal codepoint directionality"
  | .noDigits => "Malformed A-label, no Punycode eligible content found"
  | .lastHyphen => "A-label must not end with a hyphen"
  | .encoding => "Invalid A-label"
  | .tooLong => "Label too long"
  | .nameTooLong => "Domain too long"

namespace Label

/-- What stands in front of the Punycode of a label. -/
def mark : Text := "xn--"

/-- The most code points of the form in which a label travels. -/
def sizeLimit : Nat := 63

/-- The most code points of a name, with a last dot. -/
def nameLimit : Nat := 254

/-! ### Code points that belong next to certain others -/

/-- A code point that asks for its neighbours to be joined, or not to be. -/
def isJoiner (c : CodePoint) : Bool :=
  c.val == 0x200C || c.val == 0x200D

/-- Whether there is something for a joiner to do: a mark that takes the vowel away stands in front of it,
or, where it asks for letters not to be joined, these would be. What is in front is given from the end. -/
def joins (c : CodePoint) (before rest : Text) : Bool :=
  let vowelless := before.head?.any fun d => d.combiningClass == CodePoint.vowelless
  let known := before.head?.all fun d => !d.isLaterPoint
  let first := (before.dropWhile CodePoint.isTransparent).head?
  let second := (rest.dropWhile CodePoint.isTransparent).head?
  vowelless || (c.val == 0x200C && known && first.any (·.isInside CodePoint.joiningBounds)
    && second.any (·.isInside CodePoint.joinedBounds))

/-- Code points that belong to a label only next to certain others. -/
def isContextual (c : CodePoint) : Bool :=
  [0xB7, 0x375, 0x5F3, 0x5F4, 0x30FB].contains c.val || c.isArabicDigit || c.isEasternDigit

/-- Whether such a code point belongs where it stands: a middle dot between two letters `l`, the sign of
Greek numerals in front of a letter of Greek, the marks of Hebrew numerals behind one of Hebrew, the middle
dot of Japanese in a label of Japanese, and digits of one kind alone. What is in front is given from the
end. -/
def fits (label before : Text) (c : CodePoint) (rest : Text) : Bool :=
  if c.val = 0xB7 then
    before.head? == some (CodePoint.ofChar 'l') && rest.head? == some (CodePoint.ofChar 'l')
  else if c.val = 0x375 then rest.head?.any (·.isInside CodePoint.greekBounds)
  else if c.val = 0x30FB then label.any (·.isInside CodePoint.japaneseBounds)
  else if c.isArabicDigit then !label.any CodePoint.isEasternDigit
  else if c.isEasternDigit then !label.any CodePoint.isArabicDigit
  else before.head?.any (·.isInside CodePoint.hebrewBounds)

/-- What is wrong with a code point of a label. What is in front of it is given from the end. -/
def flaw? (label before : Text) (c : CodePoint) (rest : Text) : Option LabelFlaw :=
  let position := before.length + 1
  if c.isLabelPoint || c.isLaterPoint then none
  else if isJoiner c then if joins c before rest then none else some (.joiner c position label)
  else if isContextual c then
    if fits label before c rest then none else some (.context c position label)
  else some (.point c position label)

/-- The first thing that is wrong with a code point of a label, behind those in front of it. -/
def flawFrom (label before : Text) : Text → Option LabelFlaw
  | [] => none
  | c :: rest => (flaw? label before c rest).or (flawFrom label (c :: before) rest)

/-! ### Directions -/

/-- Whether something runs from right to left, digits of Arabic included. -/
def isFromRight (d : Direction) : Bool :=
  d == .right || d == .arabic || d == .arabicNumber

/-- The first thing that is wrong with a label from right to left, given the kind of its digits in front, at
a position. -/
def flawInRight (digits : Option Direction) (position : Nat) : List Direction → Option LabelFlaw
  | [] => none
  | d :: rest =>
    if d = .left then some (.leftInRight position)
    else if d = .number ∨ d = .arabicNumber then
      if digits.all (· == d) then flawInRight (some d) (position + 1) rest else some .mixedNumbers
    else flawInRight digits (position + 1) rest

/-- Whether something may stand at the end of a label that starts from right to left, or from left to
right. -/
def mayEnd (right : Bool) (d : Direction) : Bool :=
  d == .number || if right then isFromRight d else d == .left

/-- Whether a label can be read in one way only, given its directions. -/
def checkRuns (label : Text) (directions : List Direction) : Except LabelFlaw Unit :=
  if !directions.any isFromRight then .ok ()
  else
    let right := directions.head?.any fun d => d == .right || d == .arabic
    if !right && directions.head? != some .left then .error (.start label)
    else
      let wrong :=
        if right then flawInRight none 1 directions
        else (directions.findIdx? isFromRight).map fun i => .rightInLeft (i + 1)
      match wrong with
      | some flaw => .error flaw
      | none =>
        if (directions.reverse.find? (· != .mark)).any (mayEnd right) then .ok ()
        else .error .finish

/-- Whether a label can be read in one way only. -/
def checkDirections (label : Text) : Except LabelFlaw Unit :=
  match label.findIdx? fun c => c.direction?.isNone with
  | some i => .error (.noDirection (i + 1) label)
  | none => checkRuns label (label.filterMap CodePoint.direction?)

/-! ### Labels -/

/-- Whether a text is a label. -/
def check (label : Text) : Except LabelFlaw Unit :=
  if label = [] then .error .empty
  else if !label.isNormal then .error .notNormal
  else if (label.drop 2).take 2 = "--" then .error .innerHyphens
  else if label.head? = some '-' ∨ label.getLast? = some '-' then .error .outerHyphen
  else if label.head?.any CodePoint.isMark then .error .leadingMark
  else match flawFrom label [] label with
    | some flaw => .error flaw
    | none => checkDirections label

/-- Whether what a text in ASCII stands for is a label. -/
def checkAscii (t : Text) : Except LabelFlaw Unit :=
  match Text.after? mark t.lower with
  | none => check t.lower
  | some [] => .error .noDigits
  | some digits =>
    if digits.getLast? = some '-' then .error .lastHyphen
    else match Punycode.decode? digits with
      | none => .error .encoding
      | some label => check label

/-- Whether a text is ASCII. -/
def isAscii (t : Text) : Bool :=
  t.all fun c => c.val < 0x80

/-- The form in which a label travels. -/
def toAscii (label : Text) : Except LabelFlaw Text := do
  let form ←
    if isAscii label then do
      checkAscii label
      pure label
    else do
      check label
      pure (mark ++ Punycode.encode label)
  if sizeLimit < form.length then .error .tooLong else .ok form

/-- The labels of a name in front of an empty one that a last dot leaves, and whether there is one. -/
def split (isDot : CodePoint → Bool) (name : Text) : List Text × Bool :=
  let labels := Text.splitWhen isDot name
  if labels.getLast? = some [] then (labels.dropLast, true) else (labels, false)

/-- Asks of each label of a name in ASCII whether what it stands for is one. -/
def checkHost (name : Text) : Except LabelFlaw Unit :=
  if nameLimit < name.length then .error .nameTooLong
  else (split (· == '.') name).1.forM checkAscii

end Label

end AlarmFeed
