/-
**What is wrong with a document.**

A document is checked against a record's fields, and every fault that is found is an `Issue`: where it
is, what is wrong, and the value that stands there. A `Report` collects the issues under the name of
the record. `Report.text` writes it with two lines for each issue and one that says where to read on;
a value of more than 50 bytes is shown by its first 25 and its last 24.

A `Checked α` is a value that passed its check or the issues that were found. Combined checks do not
stop at the first fault: `f <*> x` has the issues of `f` followed by those of `x`.
-/

import AlarmFeed.Text.Utf8
import AlarmFeed.Value

namespace AlarmFeed.Schema

/-! ### Issues -/

/-- One step from a value to a value inside it. -/
inductive Step
  | field (name : Text)
  | item (position : Nat)
  deriving DecidableEq

/-- What is wrong with a value. -/
inductive Flaw
  | missing
  | notRecord (title : Text)
  | notList
  | notText
  /-- A text holds a surrogate where none can be read. -/
  | notUnicode
  | notInteger
  | notIntegerText
  | integerTooLong
  | fractional
  | notFinite
  | notTruth
  | notTruthText
  | notNumber
  | notNumberText
  deriving DecidableEq

namespace Flaw

/-- The name of a flaw. -/
def code : Flaw → Text
  | missing => "missing"
  | notRecord _ => "model_type"
  | notList => "list_type"
  | notText => "string_type"
  | notUnicode => "string_unicode"
  | notInteger => "int_type"
  | notIntegerText => "int_parsing"
  | integerTooLong => "int_parsing_size"
  | fractional => "int_from_float"
  | notFinite => "finite_number"
  | notTruth => "bool_type"
  | notTruthText => "bool_parsing"
  | notNumber => "float_type"
  | notNumberText => "float_parsing"

/-- A flaw in a sentence. -/
def message : Flaw → Text
  | missing => "Field required"
  | notRecord title =>
    ("Input should be a valid dictionary or instance of " : Text) ++ title
  | notList => "Input should be a valid list"
  | notText => "Input should be a valid string"
  | notUnicode => "Input should be a valid string, unable to parse raw data as a unicode string"
  | notInteger => "Input should be a valid integer"
  | notIntegerText => "Input should be a valid integer, unable to parse string as an integer"
  | integerTooLong => "Unable to parse input string as an integer, exceeded maximum size"
  | fractional => "Input should be a valid integer, got a number with a fractional part"
  | notFinite => "Input should be a finite number"
  | notTruth => "Input should be a valid boolean"
  | notTruthText => "Input should be a valid boolean, unable to interpret input"
  | notNumber => "Input should be a valid number"
  | notNumberText => "Input should be a valid number, unable to parse string as a number"

end Flaw

/-- One fault of a document. -/
structure Issue where
  path : List Step
  flaw : Flaw
  /-- The value that is at fault; for a missing field the record that lacks it. -/
  input : Value

/-- The faults of a document that should be a record. -/
structure Report where
  /-- The name of the record. -/
  title : Text
  issues : List Issue

/-- A step as text. -/
def Step.text : Step → Text
  | field name => name
  | item position => Decimal.digits position

/-- A path as text, with points between its steps. -/
def pathText (path : List Step) : Text :=
  Text.joinWith "." (path.map Step.text)

/-- The longest start of a text that fits into a number of bytes. -/
def takeBytes : Nat → Text → Text
  | _, [] => []
  | limit, c :: rest =>
    if Utf8.pointLength c ≤ limit then c :: takeBytes (limit - Utf8.pointLength c) rest else []

/-- A text in at most about 50 bytes. -/
def shortened (t : Text) : Text :=
  if Utf8.length t ≤ 50 then t
  else takeBytes 25 t ++ ("..." : Text) ++ (takeBytes 24 t.reverse).reverse

namespace Issue

/-- The lines of an issue. -/
def lines (issue : Issue) : List Text :=
  let place := if issue.path = [] then [] else [pathText issue.path]
  place ++
    [("  " : Text) ++ issue.flaw.message ++ (" [type=" : Text) ++ issue.flaw.code
        ++ (", input_value=" : Text) ++ shortened issue.input.literal
        ++ (", input_type=" : Text) ++ issue.input.kindName ++ ("]" : Text),
      ("    For further information visit https://errors.pydantic.dev/2.14/v/" : Text)
        ++ issue.flaw.code]

end Issue

/-- The text of a report. -/
def Report.text (report : Report) : Text :=
  let count := Decimal.digits report.issues.length
  let noun : Text := if report.issues.length = 1 then " validation error for " else " validation errors for "
  Text.joinWith "\n" ((count ++ noun ++ report.title) :: report.issues.flatMap Issue.lines)

/-! ### Checks -/

/-- The outcome of a check. -/
inductive Checked (α : Type)
  | ok (value : α)
  | bad (issues : List Issue)

namespace Checked

/-- Applies a checked function to a checked value; the issues of both are kept. -/
def apply {α β : Type} : Checked (α → β) → Checked α → Checked β
  | ok f, ok a => ok (f a)
  | ok _, bad issues => bad issues
  | bad issues, ok _ => bad issues
  | bad issues, bad more => bad (issues ++ more)

instance : Applicative Checked where
  pure := ok
  seq f x := apply f (x ())

/-- The check failed with one issue at this place. -/
def flawed {α : Type} (flaw : Flaw) (input : Value) : Checked α :=
  bad [⟨[], flaw, input⟩]

/-- The same outcome one step further inside. -/
def under {α : Type} (step : Step) : Checked α → Checked α
  | ok a => ok a
  | bad issues => bad (issues.map fun issue => { issue with path := step :: issue.path })

/-- The outcome as a report under the name of a record. -/
def reported {α : Type} (title : Text) : Checked α → Except Report α
  | ok a => .ok a
  | bad issues => .error ⟨title, issues⟩

end Checked

end AlarmFeed.Schema
