/-
**A client in use, step by step.**

A client is connected and closed, on its own or around a block, and asked for a call or for one of the
three queries. `Client.perform` does one of these; `Client.Session.step` does it with the replies that
are left and says what came of it, and a step that fails leaves the client as it is. `Session.after`
does one step after another.
-/

import AlarmFeed.Monitor.Query

namespace AlarmFeed.Client

/-- What is done with a client. -/
inductive Step
  | connect
  /-- The block of a client starts. -/
  | enter
  /-- The block of a client ends. -/
  | exit
  | close
  | call (call : Call)
  | problems (id : Value) (token : Option Text)
  | events (ids : List Int) (id : Value) (token : Option Text)
  | triggers (ids : List Int) (id : Value) (token : Option Text)

/-- What comes of a step that does not fail. -/
inductive Answer
  | done
  /-- The client itself, for its block. -/
  | client (client : Client)
  | result (value : Value)
  | problems (found : List Problem)
  | events (found : List Event)
  | triggers (found : List Trigger)

/-- Does one step. -/
def perform (client : Client) : Step → Talk (Client × Answer)
  | .connect => do
    let client ← client.connect
    return (client, .done)
  | .enter => do
    let client ← client.connect
    return (client, .client client)
  | .exit | .close => do
    let client ← client.close
    return (client, .done)
  | .call call => do
    let value ← client.call call
    return (client, .result value)
  | .problems id token => do
    let found ← Query.problems client id token
    return (client, .problems found)
  | .events ids id token => do
    let found ← Query.events client ids id token
    return (client, .events found)
  | .triggers ids id token => do
    let found ← Query.triggers client ids id token
    return (client, .triggers found)

/-- A client, and the replies that the monitor has left for it. -/
structure Session where
  client : Client
  replies : List Reply

namespace Session

/-- A client that is not connected yet. -/
def start (settings : MonitorSettings) (replies : List Reply) : Session :=
  ⟨{ settings := settings }, replies⟩

/-- Does one step with the replies that are left. -/
def step (session : Session) (step : Step) : Session × Outcome Reply Request Answer :=
  let outcome := (session.client.perform step).run session.replies
  match outcome.result with
  | .ok (client, answer) =>
    (⟨client, outcome.rest⟩, ⟨.ok answer, outcome.sent, outcome.rest, outcome.log⟩)
  | .error fault =>
    (⟨session.client, outcome.rest⟩, ⟨.error fault, outcome.sent, outcome.rest, outcome.log⟩)

/-- What some steps leave, done one after another. -/
def after (session : Session) (steps : List Step) : Session :=
  steps.foldl (fun session step => (session.step step).1) session

end Session

end AlarmFeed.Client
