/-
**Setting up the log.**

A setup says which records are written, where and how. It is made from the configured level and format,
each of which a caller may replace. A level is the name of a standard level in either case; a name that is
none stands for the standard one. Two names are those of other things and are refused, after the new
handler is already in place. Two loggers that repeat what is logged anyway are kept quiet.
-/

import AlarmFeed.Fault
import AlarmFeed.Json.Writer
import AlarmFeed.Log.Record
import AlarmFeed.Settings.Basic

namespace AlarmFeed.Log

/-- How records are written. -/
inductive Renderer
  | json
  | console
  deriving DecidableEq

/-- Where records are written. -/
inductive Stream
  | output
  | errors
  deriving DecidableEq

/-- What writes records. -/
structure Handler where
  stream : Stream
  renderer : Renderer
  deriving DecidableEq

/-- Which records are written, and how. -/
structure Setup where
  /-- What writes the records, all of them. -/
  handlers : List Handler := []
  /-- The least rank that is written. -/
  rank : Nat := 30
  /-- The least ranks of the loggers that have one of their own. -/
  loggers : Fields Nat := []
  deriving DecidableEq

/-- The loggers that repeat what is logged of a request anyway. -/
def quietLoggers : List Text := ["aiohttp.access", "httpx"]

/-- The upper case of a code point, as far as the names of levels go. -/
def upperPoint (c : CodePoint) : Text :=
  if 0x61 ≤ c.val ∧ c.val ≤ 0x7A then [CodePoint.ofNat (c.val - 0x20)]
  else if c.val = 0x131 then "I"
  else if c.val = 0x17F then "S"
  else if c.val = 0xFB05 ∨ c.val = 0xFB06 then "ST"
  else [c]

/-- The ranks of the standard levels. -/
def ranks : List (String × Nat) :=
  [("CRITICAL", 50), ("FATAL", 50), ("ERROR", 40), ("WARNING", 30), ("WARN", 30), ("INFO", 20),
    ("DEBUG", 10), ("NOTSET", 0)]

/-- The rank of a name that is none of a level. -/
def standardRank : Nat := 20

/-- The format of records that a level may be taken for. -/
def recordFormat : Text := "%(levelname)s:%(name)s:%(message)s"

/-- The table of styles that a level may be taken for. -/
def styleTable : Text :=
  ("\x7b'%': (<class 'logging.PercentStyle'>, '%(levelname)s:%(name)s:%(message)s'), " : Text)
    ++ ("'\x7b': (<class 'logging.StrFormatStyle'>, '\x7blevelname\x7d:\x7bname\x7d:\x7bmessage\x7d'), " : Text)
    ++ ("'$': (<class 'logging.StringTemplateStyle'>, '$\x7blevelname\x7d:$\x7bname\x7d:$\x7bmessage\x7d')\x7d" :
      Text)

/-- The rank that a level stands for. -/
def rankOf (level : Text) : Except Fault Nat :=
  let name := level.flatMap upperPoint
  if name = "BASIC_FORMAT" then
    .error (.general .value (("Unknown level: " : Text) ++ recordFormat.quoted))
  else if name = "_STYLES" then
    .error (.general .type (("Level not an integer or a valid string: " : Text) ++ styleTable))
  else match ranks.find? fun (known, _) => (known : Text) == name with
  | some (_, rank) => .ok rank
  | none => .ok standardRank

/-- The renderer of a format. -/
def rendererOf (format : Text) : Renderer :=
  if format = "json" then .json else .console

/-- A choice that is there and not empty, or else the configured one. -/
def chosen (choice : Option Text) (configured : Text) : Text :=
  match choice with
  | some (c :: rest) => c :: rest
  | _ => configured

namespace Setup

/-- The least rank that is written for a logger; those without one of their own have none. -/
def rankFor (setup : Setup) (logger : Text) : Nat :=
  (Fields.get? logger setup.loggers).getD 0

/-- The setup with one handler in place of all others. -/
def withHandler (setup : Setup) (handler : Handler) : Setup :=
  { setup with handlers := [handler] }

/-- The setup with another least rank. -/
def withRank (setup : Setup) (rank : Nat) : Setup :=
  { setup with rank := rank }

/-- The setup with nothing below a warning from the loggers that are kept quiet. -/
def quieted (setup : Setup) : Setup :=
  let quiet (loggers : Fields Nat) (name : Text) := Fields.set name Level.warning.rank loggers
  { setup with loggers := quietLoggers.foldl quiet setup.loggers }

/-- A new setup in place of another, from what is configured and what is chosen instead. -/
def apply (setup : Setup) (configured : LogSettings) (level format : Option Text) :
    Setup × Except Fault Unit :=
  let renderer := rendererOf (chosen format configured.format)
  let handled := setup.withHandler ⟨.errors, renderer⟩
  match rankOf (chosen level configured.level) with
  | .error fault => (handled, .error fault)
  | .ok rank => ((handled.withRank rank).quieted, .ok ())

/-- Whether records of a level are written as JSON. -/
def writes (setup : Setup) (level : Level) : Bool :=
  setup.handlers.any (fun handler => handler.renderer == .json) && setup.rank ≤ level.rank

/-- The records of a log that are written as JSON, as objects. -/
def lines (setup : Setup) (log : List Record) : List Value :=
  (log.filter fun record => setup.writes record.level).map Record.toValue

end Setup

/-- What is chosen when the log is set up: a level and a format, instead of those that are configured. -/
structure Choice where
  level : Option Text := none
  format : Option Text := none

namespace Setup

/-- What is left when the log is set up again and again, whether or not a choice is refused. -/
def after (configured : LogSettings) (setup : Setup) (choices : List Choice) : Setup :=
  choices.foldl (fun setup choice => (setup.apply configured choice.level choice.format).1) setup

end Setup

end AlarmFeed.Log
