/-
**The command that serves tables.**

`Serve.run` reads options and settings, starts the service, answers requests until it is told to stop,
and says what was answered and logged. It opens one connection to the monitor, which all requests
share.
-/

import AlarmFeed.Command.Fetch
import AlarmFeed.Service

namespace AlarmFeed.Serve

/-- What the command does. -/
structure Report where
  /-- The status that the command ends with, or the fault that breaks it off. -/
  status : Except Fault Nat
  /-- What is printed. -/
  output : Text := []
  /-- What is logged. -/
  lines : List Value := []
  /-- Where it listened, if it came that far. -/
  listening : Option ServerSettings := none
  /-- How each request was answered. -/
  answers : List (Outcome Reply Request WebAnswer) := []

/-- The options of the command. -/
def names : List Text :=
  ["--config", "--log-level", "--port"]

/-- What the command says about itself. -/
def help : Text :=
  Text.joinWith "\n" [
    "usage: run.py [-h] [--config CONFIG] [--log-level LOG_LEVEL] [--port PORT]",
    "",
    "Serve Zabbix disaster problems as a semicolon-separated table.",
    "",
    "options:",
    "  -h, --help            show this help message and exit",
    "  --config CONFIG       Path to settings YAML (default: config/settings.yaml)",
    "  --log-level LOG_LEVEL",
    "                        Log level override: DEBUG, INFO, WARNING, ERROR",
    "  --port PORT           Listen port override",
    ""]

/-- Only a numeral can be the number to listen on. -/
def accepts (name value : Text) : Bool :=
  name != "--port" || (Numeral.read 10 value).toOption.isSome

/-- The settings with the number to listen on that is chosen on the command line. -/
def withPort (settings : Settings) (options : Fields Text) : Settings :=
  match (Fields.get? "--port" options).bind fun value => (Numeral.read 10 value).toOption with
  | some portNumber =>
    { settings with server := { settings.server with portNumber := portNumber } }
  | none => settings

/-- Connects to the monitor and starts the service. -/
def start (settings : Settings) : Talk Service := do
  Exchange.note .info "server_starting" [("zabbix_url", .text settings.monitor.url)]
  let client ← Client.connect { settings := settings.monitor }
  Service.start client settings.server settings.auth

/-- Ends the service. -/
def stop (client : Client) : Talk Unit := do
  Exchange.note .info "shutdown_signal_received" []
  Exchange.note .info "server_shutting_down" []
  let _ ← client.close
  Exchange.note .info "server_stopped" []

/-- The line that tells of a request that could not be served. -/
def failureLine (request : WebRequest) : Value :=
  let caller : Text := request.remote.getD "None"
  .object [("event", .text (("Error handling request from " : Text) ++ caller))]

/-- The level at which it is told that a request could not be served, if it could not. -/
def failureLevel (request : WebRequest) (outcome : Outcome Reply Request WebAnswer) :
    Option Log.Level :=
  match Head.read request.head, outcome.result with
  | .error flaw, _ => some (if flaw.isMethod then .debug else .error)
  | .ok _, .ok answer => if answer.status = 500 then some .error else none
  | .ok _, .error _ => some .error

/-- What is logged about a request. -/
def linesOf (setup : Log.Setup) (request : WebRequest) (outcome : Outcome Reply Request WebAnswer) :
    List Value :=
  let told := (failureLevel request outcome).any setup.writes
  setup.lines outcome.log ++ if told then [failureLine request] else []

/-- The command behind its options. -/
def runWith (environment : Environment) (options : Fields Text) (replies : List Reply)
    (requests : List WebRequest) : Report :=
  match Settings.load environment.files (Fields.get? "--config" options) with
  | .error fault => { status := .error fault }
  | .ok settings =>
    match Log.Setup.apply {} settings.log (Fields.get? "--log-level" options) none with
    | (_, .error fault) => { status := .error fault }
    | (setup, .ok ()) =>
      let settings := withPort settings options
      let started := (start settings).run replies
      match started.result with
      | .error fault => { status := .error fault, lines := setup.lines started.log }
      | .ok service =>
        let answers := service.answerAll requests started.rest
        let told := (requests.zip answers).flatMap fun (request, outcome) =>
          linesOf setup request outcome
        let stopped := (stop service.client).run []
        { status := .ok 0
          lines := setup.lines started.log ++ told ++ setup.lines stopped.log
          listening := some settings.server
          answers := answers }

/-- The command. -/
def run (environment : Environment) (replies : List Reply) (requests : List WebRequest) : Report :=
  match Options.read names accepts environment.arguments with
  | .error stop => { status := .ok stop.status, output := stop.output help }
  | .ok options => runWith environment options replies requests

end AlarmFeed.Serve
