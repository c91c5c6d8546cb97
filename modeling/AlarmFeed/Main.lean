/-
**The command line.**

`fetch` prints one table and `serve` answers requests. Both work on recorded traffic: standard input
holds the monitor's replies, one on each line. For `serve` the callers' requests come first, one on
each line as method, target, address and token, up to an empty line. Tables and answers go to standard
output, log records to standard error.
-/

import AlarmFeed.Command.Serve

namespace AlarmFeed.CommandLine

/-- The string of a text. -/
def stringOf (t : Text) : String :=
  String.ofList (t.map fun c => Char.ofNat c.val)

/-- Writes a text to a stream. -/
def emit (stream : IO.FS.Stream) (t : Text) : IO Unit := do
  stream.write ⟨(Utf8.encode t).toArray⟩
  stream.flush

/-- The lines of a stream. -/
partial def readLines (stream : IO.FS.Stream) : IO (List String) := do
  let line ← stream.getLine
  if line.isEmpty then return []
  return (line.trimAsciiEnd.toString) :: (← readLines stream)

/-- The settings file that some options name. -/
def readFiles (names : List Text) (arguments : List Text) : IO Files := do
  let options := (Options.read names (fun _ _ => true) arguments).toOption.getD []
  let path := (Fields.get? "--config" options).getD Settings.defaultPath
  try
    let content ← IO.FS.readBinFile (stringOf path)
    return Files.write [] path content.toList
  catch _ => return []

/-- A reply whose body is a line. -/
def replyOf (line : String) : Reply :=
  .answer 200 (Utf8.encode line)

/-- A request from a line with its method, its target, the caller's address and the caller's token. -/
def requestOf (line : String) : WebRequest :=
  let words := Text.words line
  { method := words[0]?.getD "GET"
    target := words[1]?.getD "/"
    remote := words[2]?
    headers := match words[3]? with
      | some token => [("Authorization", ("Bearer " : Text) ++ token)]
      | none => [] }

/-- Writes log records, then tells of a fault or gives the status. -/
def finish (lines : List Value) (status : Except Fault Nat) : IO UInt32 := do
  let stderr ← IO.getStderr
  for line in lines do
    emit stderr (Json.write line ++ ("\n" : Text))
  match status with
  | .ok status => return status.toUInt32
  | .error fault =>
    let message := fault.message.toOption.getD "<exception str() failed>"
    emit stderr (fault.name ++ (": " : Text) ++ message ++ ("\n" : Text))
    return 1

/-- The command that prints one table. -/
def fetch (arguments : List Text) : IO UInt32 := do
  let files ← readFiles Fetch.names arguments
  let token ← IO.getEnv "TOKEN"
  let replies ← readLines (← IO.getStdin)
  let environment : Environment :=
    { arguments := arguments, token := token.map fun token => (token : Text), files := files }
  let report := Fetch.run environment (replies.map replyOf)
  emit (← IO.getStdout) report.output
  finish report.lines report.status

/-- The command that serves tables. -/
def serve (arguments : List Text) : IO UInt32 := do
  let files ← readFiles Serve.names arguments
  let lines ← readLines (← IO.getStdin)
  let requests := lines.takeWhile fun line => !line.isEmpty
  let replies := lines.drop (requests.length + 1)
  let environment : Environment := { arguments := arguments, files := files }
  let report := Serve.run environment (replies.map replyOf) (requests.map requestOf)
  let stdout ← IO.getStdout
  for outcome in report.answers do
    if let .ok answer := outcome.result then
      emit stdout (Decimal.digits answer.status ++ ("\n" : Text) ++ answer.body)
  emit stdout report.output
  finish report.lines report.status

/-- Runs the command that the first argument names. -/
def run (arguments : List String) : IO UInt32 := do
  match arguments with
  | "fetch" :: rest => fetch (rest.map Text.ofString)
  | "serve" :: rest => serve (rest.map Text.ofString)
  | _ => finish [] (.ok 2)

end AlarmFeed.CommandLine

/-- The command line. -/
def main (arguments : List String) : IO UInt32 :=
  AlarmFeed.CommandLine.run arguments
