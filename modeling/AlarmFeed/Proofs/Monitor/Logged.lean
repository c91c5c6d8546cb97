/-
**What a client writes to the log.**

All that a client writes on the way to an answer are details (`Log.Record.Detail`): records that name no
origin, and do not say of a table that it failed or that it was sent.
-/

import AlarmFeed.Monitor.Query
import AlarmFeed.Proofs.Exchange.Logged
import AlarmFeed.Proofs.Log.Record

namespace AlarmFeed

open Exchange

/-- The event of a table that was sent. -/
def Log.sentEvent : Text := "csv_response_sent"

/-- The event of a table that tells of a fault. -/
def Log.failedEvent : Text := "alarm_pipeline_failed"

/-- **A detail**: a record of what is done on the way to a table, and not of the table. -/
structure Log.Record.Detail (record : Log.Record) : Prop where
  unplaced : record.Unplaced
  notSent : record.event ≠ sentEvent
  notFailed : record.event ≠ failedEvent

/-- Of most records it is seen from the event and the names that they are details. -/
theorem Log.Record.Detail.of_other {level : Level} {event : Text} {fields : Members}
    (unplaced : Fields.get? "origin" fields = none)
    (other : event ≠ sentEvent ∧ event ≠ failedEvent) : Detail ⟨level, event, fields⟩ :=
  ⟨unplaced, other.1, other.2⟩

namespace Client

theorem writes_post {kind : Log.Record → Prop} (client : Client) (call : Call) (id : Value) :
    (client.post call id).Writes kind := by
  unfold post
  refine (writes_ofExcept _).bind fun _ => ?_
  refine (writes_ofExcept _).bind fun _ => ?_
  refine (writes_ofExcept _).bind fun _ => ?_
  exact (writes_send _).bind fun _ => writes_ofExcept _

/-- **A call writes details alone.** -/
theorem writes_call (client : Client) (call : Call) : (client.call call).Writes Log.Record.Detail := by
  unfold Client.call
  refine (writes_ofExcept _).bind fun id => ?_
  split
  · exact writes_fail _
  · refine writes_note_bind (.of_other rfl (by decide)) ?_
    refine (client.writes_post call id).bind fun members => ?_
    split
    · exact writes_note_bind (.of_other rfl (by decide)) (writes_fail _)
    · exact writes_ofExcept _

end Client

namespace Query

variable {α : Type} (client : Client) (method : Text) (id : Value) (token : Option Text) (title : Text)
  (reader : Schema.Reader α)

theorem writes_ask (params : Value) :
    (ask client method params id token title reader).Writes Log.Record.Detail := by
  unfold ask
  exact (client.writes_call _).bind fun _ => writes_ofExcept _

theorem writes_askFor (params : List Int → Value) (ids : List Int) :
    (askFor client method params ids id token title reader).Writes Log.Record.Detail := by
  unfold askFor
  split
  · exact writes_note_bind (.of_other rfl (by decide)) (writes_pure _)
  · exact writes_ask client method id token title reader _

end Query

end AlarmFeed
