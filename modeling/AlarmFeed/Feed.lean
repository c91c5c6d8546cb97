/-
**The alarm feed.**

A feed asks a source three questions in a row (open problems, the acknowledgement of their events, and
the triggers that own them) and turns the answers into one table. `Feed.buildRows` gives the sorted
rows or the fault that ended it; `Feed.render` gives a table, the error table if there was a fault. Only
a fault that cannot be written itself leaves no table: what its writing ends in is not caught. A feed
remembers the id of the last request, so that a fault that names none is reported under it.
-/

import AlarmFeed.Assembly
import AlarmFeed.Monitor.Query
import AlarmFeed.Table
import AlarmFeed.Text.Basic

namespace AlarmFeed

/-- Whatever answers the three questions, given the id of the request and the caller's token. -/
structure Source (ρ σ : Type) where
  problems : Value → Option Text → Exchange ρ σ (List Problem)
  events : List Int → Value → Option Text → Exchange ρ σ (List Event)
  triggers : List Int → Value → Option Text → Exchange ρ σ (List Trigger)

/-- The monitor as a source. -/
def Client.source (client : Client) : Source Reply Request where
  problems := Query.problems client
  events := Query.events client
  triggers := Query.triggers client

/-- A table ready to be served. -/
structure AlarmTable where
  body : Text
  ok : Bool
  rowCount : Nat := 0
  deriving DecidableEq

/-- A run of the three questions for one caller. -/
structure Feed (ρ σ : Type) where
  source : Source ρ σ
  token : Option Text
  /-- The id of the last request; before the first one it is -1. -/
  lastRequestId : Int := -1
  /-- How deep the id of a request may be nested to be printed. -/
  depth : Nat := Value.depthLimit

namespace Feed

variable {ρ σ : Type}

/-- The id of the question about problems. -/
def problemsId : Int := 1

/-- The id of the question about events. -/
def eventsId : Int := 2

/-- The id of the question about triggers. -/
def triggersId : Int := 3

/-- The rows of all triggers, unsorted, with the record that is logged about them. -/
def assemble (triggers : List Trigger) (index : ProblemIndex) (acknowledged : List Int) :
    Exchange ρ σ (List Row) := do
  let rows := assembleRows triggers index acknowledged
  Exchange.note .debug "alarm_rows_assembled"
    [("triggers", .int triggers.length), ("rows", .int rows.length),
      ("skipped_triggers", .int (skippedTriggers triggers)),
      ("skipped_hosts", .int (skippedHosts triggers))]
  return rows

/-- The sorted rows of the three answers, with the records that are logged about them. -/
def combine (problems : List Problem) (events : List Event) (triggers : List Trigger) :
    Exchange ρ σ (List Row) := do
  let acknowledged := acknowledgedIds events
  let rows ← assemble triggers (ProblemIndex.ofProblems problems) acknowledged
  Exchange.note .info "alarm_rows_built"
    [("problems", .int problems.length), ("acknowledged", .int acknowledged.length),
      ("triggers", .int triggers.length), ("rows", .int rows.length)]
  return sortRows rows

/-- Asks about triggers, the last question. -/
def askTriggers (feed : Feed ρ σ) (problems : List Problem) (events : List Event) :
    Exchange ρ σ (Int × Except Fault (List Row)) := do
  let index := ProblemIndex.ofProblems problems
  match ← (feed.source.triggers index.triggerIds (.int triggersId) feed.token).attempt with
  | .error fault => return (triggersId, .error fault)
  | .ok triggers =>
    let rows ← combine problems events triggers
    return (triggersId, .ok rows)

/-- Asks about events and goes on. -/
def askEvents (feed : Feed ρ σ) (problems : List Problem) :
    Exchange ρ σ (Int × Except Fault (List Row)) := do
  let index := ProblemIndex.ofProblems problems
  match ← (feed.source.events index.eventIds (.int eventsId) feed.token).attempt with
  | .error fault => return (eventsId, .error fault)
  | .ok events => feed.askTriggers problems events

/-- Asks about problems and, if there are any, goes on. -/
def askProblems (feed : Feed ρ σ) : Exchange ρ σ (Int × Except Fault (List Row)) := do
  match ← (feed.source.problems (.int problemsId) feed.token).attempt with
  | .error fault => return (problemsId, .error fault)
  | .ok [] => do
    Exchange.note .debug "alarm_no_open_problems" []
    return (problemsId, .ok [])
  | .ok problems => feed.askEvents problems

/-- The sorted rows or the fault, and the feed with the id of the last request. -/
def buildRows (feed : Feed ρ σ) : Exchange ρ σ (Feed ρ σ × Except Fault (List Row)) := do
  let (id, result) ← feed.askProblems
  return ({ feed with lastRequestId := id }, result)

/-- An error table, unless it cannot be printed. -/
def printed (message : Text) (id : Value) (origin : Text) (code : Int) (depth : Nat) :
    Except Fault AlarmTable :=
  match Table.printError message id origin code depth with
  | .ok body => .ok ⟨body, false, 0⟩
  | .error obstacle => .error (.ofObstacle obstacle)

/-- The error table of a fault, or what writing it ends in. The monitor's own words are kept, those of
any other fault are put on one line. -/
def written (origin : Text) (lastRequestId : Int) (depth : Nat) : Fault → Except Fault AlarmTable
  | .monitor error => printed error.message error.requestId origin error.code depth
  | fault =>
    match fault.message with
    | .ok message =>
      printed message.singleLine (.int lastRequestId) origin Table.defaultErrorCode depth
    | .error raised => .error raised

/-- Logs a fault and writes its error table. -/
def failed (origin : Text) (lastRequestId : Int) (depth : Nat) (fault : Fault) :
    Exchange ρ σ AlarmTable := do
  match fault with
  | .monitor error =>
    Exchange.note .warning "alarm_pipeline_failed"
      [("error", .text error.message), ("error_type", .text error.flaw.name),
        ("request_id", error.requestId)]
  | fault =>
    Exchange.note .error "alarm_pipeline_failed"
      [("error_type", .text fault.name), ("request_id", .int lastRequestId)]
  Exchange.ofExcept (written origin lastRequestId depth fault)

/-- The table for a caller, and the feed with the id of the last request. A fault of the three questions
becomes the error table; one that comes up while that is written is not caught. -/
def render (feed : Feed ρ σ) (origin : Text) : Exchange ρ σ (Feed ρ σ × AlarmTable) := do
  let (feed, result) ← feed.buildRows
  match result with
  | .error fault =>
    let table ← failed origin feed.lastRequestId feed.depth fault
    return (feed, table)
  | .ok rows => return (feed, ⟨Table.writeRows rows, true, rows.length⟩)

end Feed

end AlarmFeed
