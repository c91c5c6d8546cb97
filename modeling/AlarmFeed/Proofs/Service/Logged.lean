/-
**What is logged while a request is served.**

Every record of a request is from its caller (`writes_answer`), since the service answers in a context
of its own for each request and nothing that is written there names another origin; what is logged when
the service starts and when it stops names none. Of a table that is served the log tells what is served
(`Logged`): its length, whether it is an error table, its rows, and in case of a fault the request that
the error table names.

* `Logged.of_reported` — so it is for any table that is reported and sent;
* `answerAll_logged` — and so it is for a `GET` among other requests.
-/

import AlarmFeed.Command.Serve
import AlarmFeed.Proofs.Feed.Logged
import AlarmFeed.Proofs.Service.Isolation
import AlarmFeed.Proofs.Service.Table

namespace AlarmFeed

open Exchange

namespace Service

/-! ### The caller -/

theorem writes_answerTable (table : AlarmTable) :
    (answerTable table).Writes Log.Record.Unplaced := by
  unfold answerTable
  split
  · exact writes_fail _
  · exact writes_note_bind rfl (writes_pure _)

theorem writes_answerHere (service : Service) (origin : Text) (head : Head) :
    (service.answerHere origin head).Writes Log.Record.Unplaced := by
  unfold answerHere
  split
  · exact writes_note_bind rfl (writes_pure _)
  · refine (writes_ofExcept _).bind fun token => ?_
    refine Writes.bind ?_ fun rendered => writes_answerTable rendered.2
    intro replies
    obtain ⟨_, _, _, _, reported⟩ :=
      Feed.exists_reported_client service.client token origin replies
    exact reported.unplaced

/-- **Every record of a request is from its caller**, whatever the request. -/
theorem writes_answer (service : Service) (request : WebRequest) :
    (service.answer request).Writes (Log.Record.IsFrom request.origin) := by
  unfold answer
  split
  · exact writes_pure _
  · next head read =>
    refine Writes.bind ?_ fun full => writes_pure _
    unfold answerHead
    dsimp only
    split
    · exact writes_pure _
    · split
      · refine Writes.bind ?_ fun result => ?_
        · refine Writes.attempt ((service.writes_answerHere request.origin head).within ?_)
          exact fun record unplaced => Log.Record.isFrom_within unplaced request.origin
        · cases result <;> exact writes_pure _
      · exact writes_pure _

/-- The records of an outcome are from the caller of a request. -/
def FromCaller (request : WebRequest) (outcome : Outcome Reply Request WebAnswer) : Prop :=
  ∀ record ∈ outcome.log, record.IsFrom request.origin

/-- Requests that are answered one after another are logged each for its own caller. -/
theorem fromCaller_answerAll (service : Service) (requests : List WebRequest) (replies : List Reply) :
    List.Forall₂ FromCaller requests (service.answerAll requests replies) := by
  induction requests generalizing replies with
  | nil => exact .nil
  | cons request requests ih => exact .cons (service.writes_answer request replies) (ih _)

theorem writes_start (settings : Settings) : (Serve.start settings).Writes Log.Record.Unplaced := by
  unfold Serve.start Service.start Client.connect
  refine writes_note_bind rfl (Writes.bind ?_ fun client => ?_)
  · exact writes_note_bind rfl (writes_pure _)
  · refine (writes_ofExcept _).bind fun route => ?_
    exact writes_note_bind rfl (writes_pure _)

theorem writes_stop (client : Client) : (Serve.stop client).Writes Log.Record.Unplaced := by
  unfold Serve.stop Client.close
  refine writes_note_bind rfl (writes_note_bind rfl (Writes.bind ?_ fun _ => writes_note rfl))
  split
  · exact writes_note_bind rfl (writes_pure _)
  · exact writes_pure _

/-! ### The table -/

/-- **The log tells what is served**: one record that a table was sent, of its length, its form and its
rows; and one of a fault if it is an error table, of the request that the table ends with, or none if it
is not. All records are from the caller. -/
structure Logged (origin : Text) (answer : WebAnswer) (log : List Log.Record) : Prop where
  contentLength : answer.contentLength = some (Utf8.encode answer.body).length
  sent : ∃ record, ∃ rows : Nat, Log.named Log.sentEvent log = [record] ∧
    record.get? "content_length" = some (.int (Utf8.encode answer.body).length) ∧
    record.get? "ok" = some (.bool (!Table.isError answer.body)) ∧
    record.get? "rows" = some (.int rows) ∧
    if Table.isError answer.body then rows = 0 else Table.IsAlarm answer.body rows
  good : Table.isError answer.body = false → Log.named Log.failedEvent log = []
  failed : Table.isError answer.body = true → ∃ record id caller,
    Log.named Log.failedEvent log = [record] ∧
    record.get? "request_id" = some id ∧ record.get? "origin" = some (.text caller) ∧
    ((";" : Text) ++ Table.writeId id ++ ("@" : Text) ++ caller ++ ("\n" : Text)) <:+ answer.body
  caller : ∀ record ∈ log, record.get? "origin" = some (.text origin)

/-- The record of a table that is sent. -/
def sentRecord (table : AlarmTable) : Log.Record :=
  ⟨.info, Log.sentEvent, [("ok", .bool table.ok), ("rows", .int table.rowCount),
    ("content_length", .int (Utf8.length table.body))]⟩

section Sending

variable {origin : Text} {table : AlarmTable} {log : List Log.Record} {feed : Feed Reply Request}
  {replies : List Reply}

/-- Of what is reported and sent in a context there is one record that it was sent. -/
theorem named_sent (reported : Feed.Reported origin table log) (context : Members) :
    Log.named Log.sentEvent ((log ++ [sentRecord table]).map (Log.Record.within context)) =
      [(sentRecord table).within context] := by
  have once : Log.named Log.sentEvent [sentRecord table] = [sentRecord table] :=
    Log.named_of_event rfl
  rw [Log.named_map_within, Log.named_append, reported.named_sent, once]
  rfl

/-- That it was sent is not the record of a fault. -/
theorem named_failed (context : Members) :
    Log.named Log.failedEvent ((log ++ [sentRecord table]).map (Log.Record.within context)) =
      (Log.named Log.failedEvent log).map (Log.Record.within context) := by
  have apart : Log.sentEvent ≠ Log.failedEvent := by decide
  have other : Log.named Log.failedEvent [sentRecord table] = [] :=
    Log.named_of_others (List.forall_mem_singleton.mpr apart)
  rw [Log.named_map_within, Log.named_append, other, List.append_nil]

/-- **The log of a table that is reported and sent tells what is served.** -/
theorem Logged.of_reported (tells : feed.Tells replies table)
    (reported : Feed.Reported origin table log) (context : Members) :
    Logged origin (WebAnswer.ofTable table)
      ((log ++ [sentRecord table]).map
        (Log.Record.within (("origin", .text origin) :: context))) where
  contentLength := congrArg some (Utf8.length_eq table.body)
  sent := by
    refine ⟨_, table.rowCount, named_sent reported _, ?_, ?_, ?_, ?_⟩
    · rw [← Utf8.length_eq]
      exact Log.Record.get?_within_of_some rfl
    · refine Log.Record.get?_within_of_some ?_
      exact congrArg (fun good => some (Value.bool good)) tells.ok_eq
    · exact Log.Record.get?_within_of_some rfl
    · exact reported.counts tells
  good good := by
    obtain ⟨_, none⟩ | ⟨bad, _⟩ := reported.named_failed
    · rw [named_failed, none, List.map_nil]
    · exact absurd ((tells.isError.mpr bad).symm.trans good) (by decide)
  failed bad := by
    obtain ⟨good, _⟩ | ⟨_, lastRequestId, fault, rfl, once⟩ := reported.named_failed
    · exact absurd (good.symm.trans (tells.isError.mp bad)) (by decide)
    · refine ⟨(Feed.failureRecord lastRequestId fault).within (("origin", .text origin) :: context),
        Feed.blamedRequest lastRequestId fault, origin, ?_, ?_, ?_, ?_⟩
      · rw [named_failed, once, List.map_singleton]
      · exact Log.Record.get?_within_of_some (Feed.failureRecord_requestId lastRequestId fault)
      · exact Log.Record.isFrom_within (Feed.failureRecord_unplaced lastRequestId fault) origin
      · exact Table.suffix_writeError _ _ _ _
  caller := by
    intro record member
    -- no record has an origin of its own, so each has that of the context
    obtain ⟨bare, written, rfl⟩ := List.mem_map.mp member
    refine Log.Record.isFrom_within ?_ origin
    rcases List.mem_append.mp written with early | last
    · exact reported.unplaced bare early
    · obtain rfl := List.mem_singleton.mp last
      rfl

end Sending

theorem log_answerTable_of_scalar {table : AlarmTable} (carried : table.body.Scalar)
    (replies : List Reply) : ((answerTable table).run replies).log = [sentRecord table] := by
  unfold answerTable
  rw [Text.unencodable?_utf8.mpr carried]
  rfl

section Handler

variable {service : Service} {request : WebRequest} {head : Head} {answer : WebAnswer}
  {replies : List Reply}

/-- A handler that returns has sent a table that was reported. -/
theorem exists_sent {origin : Text} (get : head.method = "GET")
    (returned : ((service.answerHere origin head).run replies).result = .ok answer) :
    ∃ table log, (service.feedFor origin head).Tells replies table ∧
      Feed.Reported origin table log ∧ answer = WebAnswer.ofTable table ∧
      ((service.answerHere origin head).run replies).log = log ++ [sentRecord table] := by
  have free : ¬Credential.Impeded head.bearer origin service.auth := fun impeded => by
    obtain ⟨fault, failed⟩ := result_answerHere_of_impeded get impeded replies
    exact nomatch returned.symm.trans failed
  obtain ⟨after, table, rendered, tells, reported⟩ :=
    Feed.exists_reported_client service.client _ origin replies
  rw [← feedFor] at rendered tells reported
  have scalar : table.body.Scalar := by
    by_contra refused
    obtain ⟨fault, failed⟩ := result_answerTable_of_not_scalar refused
      (((service.feedFor origin head).render origin).run replies).rest
    rw [result_answerHere_of_table get free rendered, failed] at returned
    cases returned
  refine ⟨table, _, tells, reported, ?_, ?_⟩
  · rw [result_answerHere_of_table get free rendered, result_answerTable_of_scalar scalar] at returned
    exact (Except.ok.inj returned).symm
  · rw [run_answerHere get free, run_bind_of_ok rendered]
    dsimp only
    rw [log_answerTable_of_scalar scalar]

/-- **A `GET` whose handler returns** is answered by what it returns, and logged. -/
theorem logged_answer (read : Head.read request.head = .ok head) (get : head.method = "GET")
    (served : service.route.serves head.path = true) (expected : ¬head.Unexpected)
    (returned : ((service.answerHere request.origin head).run replies).result = .ok answer) :
    ((service.answer request).run replies).result = .ok answer ∧
      Logged request.origin answer ((service.answer request).run replies).log := by
  obtain ⟨table, log, tells, reported, rfl, written⟩ := exists_sent get returned
  rw [run_answer_of_served read expected served, returned, Head.shown_of_get get, written]
  exact ⟨rfl, Logged.of_reported tells reported _⟩

end Handler

/-! ### Requests one after another -/

/-- The replies that requests leave behind. -/
def left (service : Service) : List WebRequest → List Reply → List Reply
  | [], replies => replies
  | request :: requests, replies => service.left requests ((service.answer request).run replies).rest

theorem answerAll_append (service : Service) (earlier later : List WebRequest) (replies : List Reply) :
    service.answerAll (earlier ++ later) replies =
      service.answerAll earlier replies ++ service.answerAll later (service.left earlier replies) := by
  induction earlier generalizing replies with
  | nil => rfl
  | cons request earlier ih =>
    rw [List.cons_append, answerAll, answerAll, List.cons_append, ih]
    rfl

/-- **The log agrees with what is served.** A service answers a `GET` among other requests, whatever the
settings and the replies. If its handler returns, the answer is what it returns, and the log of the
request tells what is served; in the log of each other request all records are from its own caller, and
what is logged when the service starts or stops names no origin. -/
theorem answerAll_logged (service : Service) (earlier later : List WebRequest) (request : WebRequest)
    (head : Head) (answer : WebAnswer) (replies : List Reply)
    (read : Head.read request.head = .ok head) (get : head.method = "GET")
    (served : service.route.serves head.path = true) (expected : ¬head.Unexpected)
    (returned : ((service.answerHere request.origin head).run
      (service.left earlier replies)).result = .ok answer) :
    ∃ before outcome after,
      service.answerAll (earlier ++ request :: later) replies = before ++ outcome :: after ∧
      outcome.result = .ok answer ∧ Logged request.origin answer outcome.log ∧
      List.Forall₂ FromCaller earlier before ∧ List.Forall₂ FromCaller later after ∧
      (∀ settings begun, ∀ record ∈ ((Serve.start settings).run begun).log, record.Unplaced) ∧
      ∀ client ended, ∀ record ∈ ((Serve.stop client).run ended).log, record.Unplaced := by
  obtain ⟨answered, logged⟩ := logged_answer read get served expected returned
  refine ⟨service.answerAll earlier replies, _, _, service.answerAll_append earlier _ replies,
    answered, logged, service.fromCaller_answerAll earlier replies,
    service.fromCaller_answerAll later _, ?_, ?_⟩
  · intro settings
    exact writes_start settings
  · intro client
    exact writes_stop client

/-- The second of two callers gets the error table, since one reply is all there is, and its log says so. -/
theorem second_logged :
    ∃ answer before outcome after,
      usual.answerAll [{}, plain] [nothingOpen] = before ++ outcome :: after ∧
      Table.isError answer.body = true ∧ Logged "192.0.2.10" answer outcome.log := by
  have failed : ((usual.answerHere "192.0.2.10" ⟨"GET", "/api_csv.php", []⟩).run
      (usual.left [{}] [nothingOpen])).result.toOption.map (fun answer => Table.isError answer.body) =
      some true := by decide +kernel
  cases returned : ((usual.answerHere "192.0.2.10" ⟨"GET", "/api_csv.php", []⟩).run
      (usual.left [{}] [nothingOpen])).result with
  | error fault =>
    rw [returned] at failed
    cases failed
  | ok answer =>
    rw [returned] at failed
    obtain ⟨before, outcome, after, answered, _, logged, _⟩ :=
      answerAll_logged usual [{}] [] plain _ answer [nothingOpen] read_plain rfl (by decide) (by decide)
        returned
    exact ⟨answer, before, outcome, after, answered, Option.some.inj failed, logged⟩

end Service

end AlarmFeed
