/-
**The command that prints one table.**

`Fetch.run` reads options, settings and the caller's token, asks the monitor once, and says what is
printed, what is logged, and with which status the command ends: 0 for the alarm table and 1 for the
error table. The request counts as coming from the local host.
-/

import AlarmFeed.Command.Options
import AlarmFeed.Feed
import AlarmFeed.Log.Setup
import AlarmFeed.Settings.Load

namespace AlarmFeed

/-- What a command finds when it starts. -/
structure Environment where
  arguments : List Text
  /-- The token in the environment, if there is one. -/
  token : Option Text := none
  files : Files := []

namespace Environment

/-- A choice that is there and not empty. -/
def nonempty (choice : Option Text) : Option Text :=
  choice.filter fun t => !t.isEmpty

end Environment

namespace Fetch

/-- What the command does. -/
structure Report where
  /-- The status that the command ends with, or the fault that breaks it off. -/
  status : Except Fault Nat
  /-- What is printed. -/
  output : Text := []
  /-- What is logged. -/
  lines : List Value := []
  /-- What is sent to the monitor. -/
  sent : List Request := []

/-- The options of the command. -/
def names : List Text :=
  ["--config", "--token", "--log-level"]

/-- What the command says about itself. -/
def help : Text :=
  Text.joinWith "\n" [
    "usage: fetch_alarms.py [-h] [--config CONFIG] [--token TOKEN]",
    "                       [--log-level LOG_LEVEL]",
    "",
    "Fetch the Zabbix alarm table once and print it.",
    "",
    "options:",
    "  -h, --help            show this help message and exit",
    "  --config CONFIG       Path to settings YAML (default: config/settings.yaml)",
    "  --token TOKEN         Zabbix API token (default: $TOKEN, then",
    "                        zabbix.api_token)",
    "  --log-level LOG_LEVEL",
    "                        Log level override: DEBUG, INFO, WARNING, ERROR",
    ""]

/-- The address that the request counts as coming from. -/
def origin : Text := "127.0.0.1"

/-- The level of the log unless another one is chosen. -/
def defaultLevel : Text := "WARNING"

/-- The table, asked for over a connection of its own. -/
def table (settings : MonitorSettings) (token : Option Text) : Talk AlarmTable := do
  let client ← Client.connect { settings := settings }
  let feed : Feed Reply Request := { source := client.source, token := token }
  let (_, table) ← feed.render origin
  let _ ← client.close
  return table

/-- What is printed of a table, and the status that it stands for. -/
def printed (table : AlarmTable) : Except Fault Nat × Text :=
  match Charset.utf8.unencodable? table.body with
  | some run => (.error (.unencodable run), [])
  | none => (.ok (if table.ok then 0 else 1), table.body)

/-- The token of the caller: the one among the options, or else the one in the environment. -/
def token (environment : Environment) (options : Fields Text) : Option Text :=
  (Environment.nonempty (Fields.get? "--token" options)).or (Environment.nonempty environment.token)

/-- The command behind its options. -/
def runWith (environment : Environment) (options : Fields Text) (replies : List Reply) : Report :=
  match Settings.load environment.files (Fields.get? "--config" options) with
  | .error fault => { status := .error fault }
  | .ok settings =>
    let level := (Fields.get? "--log-level" options).getD defaultLevel
    match Log.Setup.apply {} settings.log (some level) none with
    | (_, .error fault) => { status := .error fault }
    | (setup, .ok ()) =>
      let outcome := (table settings.monitor (token environment options)).run replies
      let lines := setup.lines outcome.log
      match outcome.result with
      | .error fault => { status := .error fault, lines := lines, sent := outcome.sent }
      | .ok table =>
        let (status, output) := printed table
        { status := status, output := output, lines := lines, sent := outcome.sent }

/-- The command. -/
def run (environment : Environment) (replies : List Reply) : Report :=
  match Options.read names (fun _ _ => true) environment.arguments with
  | .error stop => { status := .ok stop.status, output := stop.output help }
  | .ok options => runWith environment options replies

end Fetch

end AlarmFeed
