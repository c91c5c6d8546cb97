/-
**The three queries.**

Open problems of the highest severity, the acknowledgement of events, and triggers with their hosts
and items. The latter two are for given ids; without ids nothing is asked, since the monitor would
take a missing filter for "everything".
-/

import AlarmFeed.Monitor.Client
import AlarmFeed.Monitor.Record

namespace AlarmFeed.Query

/-- A list of field names. -/
def names (fields : List String) : Value :=
  .list (fields.map fun (field : String) => Value.text field)

/-- What is asked about open problems. -/
def problemParams : Value :=
  .object [
    ("output", names
      ["eventid", "r_eventid", "objectid", "clock", "ns", "severity", "suppressed", "name"]),
    ("source", .int 0),
    ("object", .int 0),
    ("recent", .bool false),
    ("severities", .list [.int Severity.disaster.number])]

/-- What is asked about events. -/
def eventParams (ids : List Int) : Value :=
  .object [("output", names ["eventid", "acknowledged"]), ("eventids", .list (ids.map .int))]

/-- What is asked about triggers. -/
def triggerParams (ids : List Int) : Value :=
  .object [
    ("output", names ["triggerid", "status", "error", "suppressed", "flags", "value"]),
    ("selectHosts", names ["hostid", "host", "status"]),
    ("selectItems", names ["hostid", "status"]),
    ("triggerids", .list (ids.map .int))]

/-- The first item that does not fit its record is the fault. -/
def readItems {α : Type} (title : Text) (reader : Schema.Reader α) : List Value → Except Fault (List α)
  | [] => .ok []
  | value :: values =>
    match (reader value).reported title with
    | .error report => .error (.invalid report)
    | .ok item => (readItems title reader values).map (item :: ·)

/-- The items of a result. -/
def readResult {α : Type} (title : Text) (reader : Schema.Reader α) : Value → Except Fault (List α)
  | .list values => readItems title reader values
  | _ => .ok []

/-- Asks for a list of records. -/
def ask {α : Type} (client : Client) (method : Text) (params id : Value) (token : Option Text)
    (title : Text) (reader : Schema.Reader α) : Talk (List α) := do
  let result ← client.call ⟨method, params, id, token, true⟩
  Exchange.ofExcept (readResult title reader result)

/-- Asks for records of given ids, if there are any. -/
def askFor {α : Type} (client : Client) (method : Text) (params : List Int → Value) (ids : List Int)
    (id : Value) (token : Option Text) (title : Text) (reader : Schema.Reader α) :
    Talk (List α) :=
  if ids = [] then do
    Exchange.note .debug "zabbix_request_skipped"
      [("method", .text method), ("reason", .text "no_ids")]
    return []
  else ask client method (params ids) id token title reader

/-- The open problems. -/
def problems (client : Client) (id : Value) (token : Option Text) : Talk (List Problem) :=
  ask client "problem.get" problemParams id token "Problem" Problem.read

/-- The acknowledgement of given events. -/
def events (client : Client) (ids : List Int) (id : Value) (token : Option Text) :
    Talk (List Event) :=
  askFor client "event.get" eventParams ids id token "Event" Event.read

/-- The given triggers. -/
def triggers (client : Client) (ids : List Int) (id : Value) (token : Option Text) :
    Talk (List Trigger) :=
  askFor client "trigger.get" triggerParams ids id token "Trigger" Trigger.read

end AlarmFeed.Query
