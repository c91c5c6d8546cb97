/-
**Settings from a file.**

The bytes of a settings file are UTF-8 text with any kind of line end, and the text is a YAML document.
A document that is no mapping says nothing, so all defaults hold; so they do when there is no file.
-/

import AlarmFeed.Settings.Basic
import AlarmFeed.Settings.Files
import AlarmFeed.Yaml.Document

namespace AlarmFeed

/-- The text with a line feed for every kind of line end. -/
def Text.unifyLineEnds : Text → Text
  | [] => []
  | [c] => [if c = '\r' then CodePoint.ofChar '\n' else c]
  | c :: d :: rest =>
    if c = '\r' then
      if d = '\n' then '\n' :: unifyLineEnds rest else '\n' :: unifyLineEnds (d :: rest)
    else c :: unifyLineEnds (d :: rest)

namespace Settings

/-- The path of the settings file that is read when none is named. -/
def defaultPath : Text := "config/settings.yaml"

/-- How many levels settings have, from the document to an address of an override. -/
def depth : Nat := 6

/-- The settings that a document says. -/
def ofDocument (document : Value) : Except Fault Settings :=
  let members := match document with
    | .object members => members
    | _ => []
  match (Settings.read (.object members)).reported "Settings" with
  | .ok settings => .ok settings
  | .error report => .error (.invalid report)

/-- The settings that the bytes of a file say. -/
def ofBytes (bytes : Bytes) : Except Fault Settings := do
  match Utf8.decode false bytes with
  | .error stop => throw (.undecodable stop)
  | .ok t => ofDocument (← Yaml.read depth t.unifyLineEnds)

/-- A path is too long to be asked for. -/
def pathTooLong (path : Text) : Fault :=
  .general .system (("[Errno 36] File name too long: " : Text) ++ (Path.normal path).quoted)

/-- The settings under a path, or under the default path if none or an empty one is named. -/
def load (files : Files) (path : Option Text) : Except Fault Settings :=
  let path := match path with
    | some (c :: rest) => c :: rest
    | _ => defaultPath
  match files.find path with
  | .content bytes => ofBytes bytes
  | .nothing => .ok {}
  | .tooLong => .error (pathTooLong path)

end Settings

end AlarmFeed
