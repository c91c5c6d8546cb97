/-
**Options on a command line.**

A command takes options with a value, `--name value` or `--name=value`, under any start of the name
that no other option has, and `--help`. `Options.read` reads arguments from left to right: it stops at
a request for help, which succeeds, and at an option without a value or with one that it refuses, which
fails; arguments that are no option fail at the end. Of values of one option the last counts.
-/

import AlarmFeed.Number.Numeral
import AlarmFeed.Text.Fields

namespace AlarmFeed.Options

/-- The command ends before it starts, well or badly. -/
inductive Stop
  | help
  | usage
  deriving DecidableEq

/-- The status that a command ends with. -/
def Stop.status : Stop → Nat
  | help => 0
  | usage => 2

/-- What a command prints when it ends before it starts. -/
def Stop.output (helpText : Text) : Stop → Text
  | help => helpText
  | usage => []

/-- What an argument is. -/
inductive Argument
  /-- A value, or an argument that nothing takes. -/
  | value
  /-- The mark behind which there are no options. -/
  | endOfOptions
  | help
  /-- A known option, with the value that is part of the argument. -/
  | option (name : Text) (attached : Option Text)
  | unknown
  /-- The start of several names. -/
  | ambiguous
  /-- A request for help that has a value. -/
  | refused
  deriving DecidableEq

/-- Whether a text is a negative number; a line feed may stand behind it. -/
def isNegativeNumber (t : Text) : Bool :=
  match if t.getLast? = some (CodePoint.ofChar '\n') then t.dropLast else t with
  | [] => false
  | minus :: rest =>
    let isDecimal (digits : Text) : Bool := !digits.isEmpty && digits.all fun c => c.decimalValue?.isSome
    minus == '-' &&
      match Text.cutAt? '.' rest with
      | none => isDecimal rest
      | some (whole, fraction) => (whole.isEmpty || isDecimal whole) && isDecimal fraction

/-- The option whose name starts in a given way, if it is the only one. -/
def named (names : List Text) (start : Text) (attached : Option Text) : Option Argument :=
  match (Text.ofString "--help" :: names).filter (Text.startsWith start) with
  | [] => none
  | [name] =>
    some <|
      if name = "--help" then if attached = none then .help else .refused
      else .option name attached
  | _ => some (if names.contains start then .option start attached else .ambiguous)

/-- A long option, if it is one. -/
def longOption? (names : List Text) (argument : Text) : Option Argument :=
  match Text.cutAt? '=' argument with
  | some (start, attached) => named names start (some attached)
  | none => named names argument none

/-- A request for help by its letter, any number of times; anything else behind it is refused. -/
def shortHelp (letters : Text) : Argument :=
  if letters.all (· == CodePoint.ofChar 'h') then .help else .refused

/-- An argument that starts with a minus sign and is neither a known option nor a number: with a space in
it, it is a value. -/
def otherwise (argument : Text) : Argument :=
  if isNegativeNumber argument || argument.contains ' ' then .value else .unknown

/-- What an argument is. -/
def classify (names : List Text) (argument : Text) : Argument :=
  if !Text.startsWith "-" argument || argument = "-" then .value
  else if argument = "--" then .endOfOptions
  else if Text.startsWith "--" argument then (longOption? names argument).getD (otherwise argument)
  else if Text.startsWith "-h" argument then shortHelp (argument.drop 1)
  else otherwise argument

/-- Reads arguments; `accept` says which values an option takes. -/
def readFrom (names : List Text) (accept : Text → Text → Bool) (clean : Bool) (found : Fields Text) :
    List Text → Except Stop (Fields Text)
  | [] => if clean then .ok found else .error .usage
  | argument :: rest =>
    let put (name value : Text) : Fields Text := Fields.set name value found
    match classify names argument with
    | .value => readFrom names accept false found rest
    | .unknown => readFrom names accept false found rest
    | .endOfOptions => .error .usage
    | .ambiguous => .error .usage
    | .refused => .error .usage
    | .help => .error .help
    | .option name (some value) =>
      if accept name value then readFrom names accept clean (put name value) rest
      else .error .usage
    | .option name none =>
      match rest with
      | [] => .error .usage
      | value :: rest =>
        if classify names value = .value ∧ accept name value then
          readFrom names accept clean (put name value) rest
        else .error .usage

/-- Whether an argument in front of the end of the options is the start of several names. -/
def isAmbiguous (names : List Text) (arguments : List Text) : Bool :=
  (arguments.takeWhile fun (argument : Text) => argument != "--").any fun argument => classify names argument = .ambiguous

/-- Reads the arguments of a command with given options. An ambiguous one fails before any is read. -/
def read (names : List Text) (accept : Text → Text → Bool) (arguments : List Text) :
    Except Stop (Fields Text) :=
  if isAmbiguous names arguments then .error .usage else readFrom names accept true [] arguments

end AlarmFeed.Options
