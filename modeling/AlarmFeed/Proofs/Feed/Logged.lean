/-
**What a feed writes to the log.**

On the way to a table a feed writes details alone, if its questions do (`Details`). Rows are served as
they are; of a fault there is one more record, which names the request that the error table names
(`failureRecord`). `exists_reported` — so every table is reported in one of two ways (`Reported`);
`exists_reported_client` — over a client there is one in any case.
-/

import AlarmFeed.Proofs.Feed.Unambiguous
import AlarmFeed.Proofs.Monitor.Logged

namespace AlarmFeed.Feed

open Exchange

variable {ρ σ : Type}

/-! ### Details -/

/-- **Each question writes details alone.** -/
structure Details (feed : Feed ρ σ) : Prop where
  problems : (feed.source.problems (.int problemsId) feed.token).Writes Log.Record.Detail
  events : ∀ ids, (feed.source.events ids (.int eventsId) feed.token).Writes Log.Record.Detail
  triggers : ∀ ids, (feed.source.triggers ids (.int triggersId) feed.token).Writes Log.Record.Detail

/-- The questions of a feed over a client do. -/
theorem details_client (client : Client) (token : Option Text) :
    Details { source := client.source, token := token } where
  problems := Query.writes_ask client _ _ token _ _ _
  events ids := Query.writes_askFor client _ _ token _ _ _ ids
  triggers ids := Query.writes_askFor client _ _ token _ _ _ ids

section Asking

variable {feed : Feed ρ σ} (details : feed.Details)

theorem writes_combine (problems : List Problem) (events : List Event) (triggers : List Trigger) :
    (combine problems events triggers : Exchange ρ σ (List Row)).Writes Log.Record.Detail := by
  unfold combine assemble
  refine Writes.bind ?_ fun _ => ?_
  · exact writes_note_bind (.of_other rfl (by decide)) (writes_pure _)
  · exact writes_note_bind (.of_other rfl (by decide)) (writes_pure _)

include details

theorem writes_askTriggers (problems : List Problem) (events : List Event) :
    (feed.askTriggers problems events).Writes Log.Record.Detail := by
  unfold askTriggers
  refine (details.triggers _).attempt.bind fun result => ?_
  cases result with
  | error fault => exact writes_pure _
  | ok triggers => exact (writes_combine problems events triggers).bind fun _ => writes_pure _

theorem writes_askEvents (problems : List Problem) :
    (feed.askEvents problems).Writes Log.Record.Detail := by
  unfold askEvents
  refine (details.events _).attempt.bind fun result => ?_
  cases result with
  | error fault => exact writes_pure _
  | ok events => exact writes_askTriggers details problems events

theorem writes_askProblems : feed.askProblems.Writes Log.Record.Detail := by
  unfold askProblems
  refine details.problems.attempt.bind fun result => ?_
  split
  · exact writes_pure _
  · exact writes_note_bind (.of_other rfl (by decide)) (writes_pure _)
  · exact writes_askEvents details _

/-- **On the way to the rows a feed writes details alone.** -/
theorem writes_buildRows : feed.buildRows.Writes Log.Record.Detail := by
  unfold buildRows
  exact (writes_askProblems details).bind fun _ => writes_pure _

end Asking

/-! ### Faults -/

/-- The record of a fault, given the id of the last request. -/
def failureRecord (lastRequestId : Int) : Fault → Log.Record
  | .monitor error =>
    ⟨.warning, Log.failedEvent,
      [("error", .text error.message), ("error_type", .text error.flaw.name),
        ("request_id", error.requestId)]⟩
  | fault =>
    ⟨.error, Log.failedEvent,
      [("error_type", .text fault.name), ("request_id", .int lastRequestId)]⟩

section Failure

variable (lastRequestId : Int) (fault : Fault)

theorem failureRecord_event : (failureRecord lastRequestId fault).event = Log.failedEvent := by
  cases fault <;> rfl

theorem failureRecord_unplaced : (failureRecord lastRequestId fault).Unplaced := by
  cases fault <;> rfl

/-- It names the request that the error table blames. -/
theorem failureRecord_requestId :
    (failureRecord lastRequestId fault).get? "request_id" =
      some (blamedRequest lastRequestId fault) := by
  cases fault <;> rfl

theorem log_failed (origin : Text) (depth : Nat) (replies : List ρ) :
    ((failed origin lastRequestId depth fault : Exchange ρ σ AlarmTable).run replies).log =
      [failureRecord lastRequestId fault] := by
  cases fault <;> rfl

end Failure

/-! ### Tables -/

/-- **How a table is reported**: one of rows by details alone, and the error table by one more record of
the fault that it is made of. -/
inductive Reported (origin : Text) : AlarmTable → List Log.Record → Prop
  | rows {details : List Log.Record} (each : ∀ record ∈ details, record.Detail) (rows : List Row) :
      Reported origin ⟨Table.writeRows rows, true, rows.length⟩ details
  | fault {details : List Log.Record} (each : ∀ record ∈ details, record.Detail)
      (lastRequestId : Int) (fault : Fault) :
      Reported origin (errorTable origin lastRequestId fault)
        (details ++ [failureRecord lastRequestId fault])

section Rendering

variable {feed after : Feed ρ σ} {replies : List ρ}

theorem log_render_of_fault {fault : Fault}
    (ended : (feed.buildRows.run replies).result = .ok (after, .error fault)) (origin : Text) :
    ((feed.render origin).run replies).log =
      (feed.buildRows.run replies).log ++ [failureRecord after.lastRequestId fault] := by
  have table := (run_failed (σ := σ) origin after.lastRequestId after.depth fault
    (feed.buildRows.run replies).rest).1
  have noted := log_failed (σ := σ) after.lastRequestId fault origin after.depth
    (feed.buildRows.run replies).rest
  cases wrote : written origin after.lastRequestId after.depth fault <;>
    simp [render, Exchange.run_bind, ended, table, wrote, noted, Exchange.run_pure]

theorem log_render_of_rows {rows : List Row}
    (ended : (feed.buildRows.run replies).result = .ok (after, .ok rows)) (origin : Text) :
    ((feed.render origin).run replies).log = (feed.buildRows.run replies).log := by
  simp [render, Exchange.run_bind, ended, Exchange.run_pure]

/-- **Every table is reported**, if all faults can be. -/
theorem exists_reported (details : feed.Details)
    (reportable : ∀ after fault, (feed.buildRows.run replies).result = .ok (after, .error fault) →
      Reportable after.lastRequestId after.depth fault) (origin : Text) :
    ∃ after table, ((feed.render origin).run replies).result = .ok (after, table) ∧
      feed.Tells replies table ∧ Reported origin table ((feed.render origin).run replies).log := by
  obtain ⟨id, result, _, _, course⟩ := feed.exists_course replies
  have ended := course.run_eq.1
  have each := writes_buildRows details replies
  cases result with
  | error fault =>
    refine ⟨_, _, (run_render_of_fault ended (reportable _ fault ended) origin).1,
      tells_errorTable ended origin id, ?_⟩
    rw [log_render_of_fault ended]
    exact .fault each id fault
  | ok rows =>
    refine ⟨_, _, (run_render_of_rows ended origin).1, tells_rows course, ?_⟩
    rw [log_render_of_rows ended]
    exact .rows each rows

end Rendering

/-- Over a client, every table is. -/
theorem exists_reported_client (client : Client) (token : Option Text) (origin : Text)
    (replies : List Reply) :
    let feed : Feed Reply Request := { source := client.source, token := token }
    ∃ after table, ((feed.render origin).run replies).result = .ok (after, table) ∧
      feed.Tells replies table ∧ Reported origin table ((feed.render origin).run replies).log := by
  intro feed
  have monitored : feed.source = client.source := rfl
  exact exists_reported (details_client client token)
    (fun _ _ ended => reportable_of_ended monitored ended) origin

namespace Reported

variable {origin : Text} {table : AlarmTable} {log : List Log.Record}

/-- All that is reported of a table names no origin. -/
theorem unplaced (reported : Reported origin table log) : ∀ record ∈ log, record.Unplaced := by
  cases reported with
  | rows each => exact fun record member => (each record member).unplaced
  | fault each lastRequestId fault =>
    intro record member
    rcases List.mem_append.mp member with early | last
    · exact (each record early).unplaced
    · obtain rfl := List.mem_singleton.mp last
      exact failureRecord_unplaced lastRequestId fault

/-- That it was sent is not yet reported. -/
theorem named_sent (reported : Reported origin table log) : Log.named Log.sentEvent log = [] := by
  refine Log.named_of_others fun record member => ?_
  cases reported with
  | rows each => exact (each record member).notSent
  | fault each lastRequestId fault =>
    rcases List.mem_append.mp member with early | last
    · exact (each record early).notSent
    · obtain rfl := List.mem_singleton.mp last
      rw [failureRecord_event]
      decide

/-- A good table has no record of a fault, and the error table has one. -/
theorem named_failed (reported : Reported origin table log) :
    (table.ok = true ∧ Log.named Log.failedEvent log = []) ∨
    (table.ok = false ∧ ∃ lastRequestId fault, table = errorTable origin lastRequestId fault ∧
      Log.named Log.failedEvent log = [failureRecord lastRequestId fault]) := by
  cases reported with
  | rows each =>
    exact Or.inl ⟨rfl, Log.named_of_others fun record member => (each record member).notFailed⟩
  | fault each lastRequestId fault =>
    refine Or.inr ⟨rfl, lastRequestId, fault, rfl, ?_⟩
    rw [Log.named_append, Log.named_of_others fun record member => (each record member).notFailed,
      Log.named_of_event (failureRecord_event lastRequestId fault), List.nil_append]

/-- A reported table counts its rows: none if it is the error table, else those of the alarm table. -/
theorem counts (reported : Reported origin table log) {feed : Feed ρ σ} {replies : List ρ}
    (tells : feed.Tells replies table) :
    if Table.isError table.body then table.rowCount = 0
    else Table.IsAlarm table.body table.rowCount := by
  split
  · next bad =>
    obtain ⟨good, _⟩ | ⟨_, _, _, rfl, _⟩ := reported.named_failed
    · exact absurd (good.symm.trans (tells.isError.mp bad)) (by decide)
    · rfl
  · next good =>
    refine tells.isAlarm ?_
    rw [tells.ok_eq, Bool.not_eq_true', ← Bool.not_eq_true]
    exact good

end Reported

end AlarmFeed.Feed
