/-
**What the names of problems and hosts can change.**

The rows hold no names, and nothing that is asked or decided depends on them. So two scripts of replies
that differ in names alone (`MaskedScripts`) lead to the same table, with one exception: a record that
lacks a field is reported with all that it holds, its name included.

* `verdict` — what a monitored feed comes to is a function of the replies (`Course.eq_verdict`);
* `verdict_masked` — which names can only change within a report;
* `render_redacted` — so the tables are the same unless both report a missing field;
* `not_every_table_redacted` — and a missing field does bring the name out.
-/

import AlarmFeed.Proofs.Feed.Protocol
import AlarmFeed.Proofs.Feed.Rows
import AlarmFeed.Proofs.Monitor.Masked

namespace AlarmFeed.Feed

open List Schema

/-! ### Rows -/

/-- The rows are made without any names. -/
theorem nestedRows_unnamed (problems : List Problem) (events : List Event) (triggers : List Trigger) :
    nestedRows (problems.map Problem.unnamed) events (triggers.map Trigger.unnamed) =
      nestedRows problems events triggers := by
  simp only [nestedRows, Trigger.unnamed, flatMap_map]
  rfl

theorem rowsOfAnswers_congr {problems problems' : List Problem} {triggers triggers' : List Trigger}
    (sameProblems : problems.map Problem.unnamed = problems'.map Problem.unnamed)
    (sameTriggers : triggers.map Trigger.unnamed = triggers'.map Trigger.unnamed)
    (events : List Event) :
    rowsOfAnswers problems events triggers = rowsOfAnswers problems' events triggers' := by
  rw [Answers.rowsOfAnswers_eq, Answers.rowsOfAnswers_eq, ← nestedRows_unnamed, sameProblems,
    sameTriggers, nestedRows_unnamed]

/-! ### What the replies decide -/

/-- **What a monitored feed comes to**: the last question, and the rows or the fault. -/
def verdict (address : Address) (replies : List Reply) : Int × Except Fault (List Row) :=
  match heardProblems address replies[0]? with
  | .error fault => (problemsId, .error fault)
  | .ok [] => (problemsId, .ok [])
  | .ok problems =>
    match heardEvents address replies[1]? with
    | .error fault => (eventsId, .error fault)
    | .ok events =>
      match heardTriggers address replies[2]? with
      | .error fault => (triggersId, .error fault)
      | .ok triggers => (triggersId, .ok (rowsOfAnswers problems events triggers))

/-- **A course ends as the replies decide.** -/
theorem Course.eq_verdict {client : Client} {feed : Feed Reply Request} {address : Address}
    {replies : List Reply} {id : Int} {result : Except Fault (List Row)} {sent : List Request}
    {rest : List Reply} (course : Course feed replies id result sent rest)
    (monitored : feed.source = client.source) (ready : client.Ready feed.token address) :
    verdict address replies = (id, result) := by
  cases course with
  | problemsFailed first failed =>
    rw [(first_reply monitored ready first).1] at failed
    rw [verdict, failed]
  | noProblems first none =>
    rw [(first_reply monitored ready first).1] at none
    rw [verdict, none]
  | eventsFailed first found some second failed =>
    rw [(second_reply monitored ready first found some second).1] at failed
    rw [(first_reply monitored ready first).1] at found
    obtain ⟨problem, problems, rfl⟩ := exists_cons_of_ne_nil some
    simp only [verdict, found, failed]
  | triggersFailed first found some second known third failed =>
    rw [(third_reply monitored ready first found some second third).1] at failed
    rw [(second_reply monitored ready first found some second).1] at known
    rw [(first_reply monitored ready first).1] at found
    obtain ⟨problem, problems, rfl⟩ := exists_cons_of_ne_nil some
    simp only [verdict, found, known, failed]
  | answered first found some second known third owned =>
    rw [(third_reply monitored ready first found some second third).1] at owned
    rw [(second_reply monitored ready first found some second).1] at known
    rw [(first_reply monitored ready first).1] at found
    obtain ⟨problem, problems, rfl⟩ := exists_cons_of_ne_nil some
    simp only [verdict, found, known, owned]

/-! ### Scripts that differ in names -/

/-- **Two scripts of replies that differ in names alone**: the names of problems in the first reply and
those of hosts in the third. -/
structure MaskedScripts (replies replies' : List Reply) : Prop where
  problems : MaskedReplies MaskedProblem replies[0]? replies'[0]?
  events : MaskedReplies Eq replies[1]? replies'[1]?
  triggers : MaskedReplies MaskedTrigger replies[2]? replies'[2]?

section Masked

variable {replies replies' : List Reply}

theorem heardProblems_masked (masked : MaskedScripts replies replies') (address : Address) :
    AlikeResults (Forall₂ fun problem problem' => problem.unnamed = problem'.unnamed)
      (heardProblems address replies[0]?) (heardProblems address replies'[0]?) :=
  Query.understood_masked masked.problems Problem.read_masked address _ _

theorem heardEvents_masked (masked : MaskedScripts replies replies') (address : Address) :
    heardEvents address replies[1]? = heardEvents address replies'[1]? :=
  Query.understood_congr masked.events address _ _

theorem heardTriggers_masked (masked : MaskedScripts replies replies') (address : Address) :
    AlikeResults (Forall₂ fun trigger trigger' => trigger.unnamed = trigger'.unnamed)
      (heardTriggers address replies[2]?) (heardTriggers address replies'[2]?) :=
  Query.understood_masked masked.triggers Trigger.read_masked address _ _

/-- **Names change a verdict only within a report.** -/
theorem verdict_masked (masked : MaskedScripts replies replies') (address : Address) :
    ∃ id result result', verdict address replies = (id, result) ∧
      verdict address replies' = (id, result') ∧ AlikeResults Eq result result' := by
  have one := heardProblems_masked masked address
  have three := heardTriggers_masked masked address
  unfold verdict
  rw [heardEvents_masked masked address]
  generalize heardProblems address replies[0]? = first at one ⊢
  generalize heardProblems address replies'[0]? = first' at one ⊢
  generalize heardEvents address replies'[1]? = second
  generalize heardTriggers address replies[2]? = third at three ⊢
  generalize heardTriggers address replies'[2]? = third' at three ⊢
  cases one with
  | error alike => exact ⟨_, _, _, rfl, rfl, .error alike⟩
  | ok found =>
    cases found with
    | nil => exact ⟨_, _, _, rfl, rfl, .ok rfl⟩
    | cons same found =>
      cases second with
      | error fault => exact ⟨_, _, _, rfl, rfl, .error (.same fault)⟩
      | ok events =>
        cases three with
        | error alike => exact ⟨_, _, _, rfl, rfl, .error alike⟩
        | ok owned =>
          exact ⟨_, _, _, rfl, rfl, .ok (rowsOfAnswers_congr
            (map_unnamed_of_forall₂ (.cons same found)) (map_unnamed_of_forall₂ owned) _)⟩

end Masked

/-! ### Tables that differ in names -/

/-- **Two tables differ in a report alone**: they are the same, or written from two reports that are alike,
of a record that lacks a field. -/
structure Redacted (table table' : AlarmTable) : Prop where
  ok : table'.ok = table.ok
  rowCount : table'.rowCount = table.rowCount
  body : table'.body = table.body ∨ ∃ (report report' : Report) (id : Int) (origin : Text),
    report.Alike report' ∧ (∃ issue ∈ report.issues, issue.flaw = .missing) ∧
      table.body = Table.writeError report.text.singleLine (.int id) origin 1 ∧
      table'.body = Table.writeError report'.text.singleLine (.int id) origin 1

theorem redacted_errorTable {fault fault' : Fault} (alike : fault.Alike fault') (origin : Text)
    (id : Int) : Redacted (errorTable origin id fault) (errorTable origin id fault') := by
  cases alike with
  | same fault => exact ⟨rfl, rfl, Or.inl rfl⟩
  | @reports report report' alike =>
    by_cases missing : ∃ issue ∈ report.issues, issue.flaw = .missing
    · exact ⟨rfl, rfl, Or.inr ⟨report, report', id, origin, alike, missing, rfl, rfl⟩⟩
    · obtain rfl := alike.eq fun issue member flaw => missing ⟨issue, member, flaw⟩
      exact ⟨rfl, rfl, Or.inl rfl⟩

section Rendering

variable {client : Client} {feed : Feed Reply Request}

/-- Two runs of the questions on such scripts end with alike results, at the same question. -/
theorem buildRows_masked (monitored : feed.source = client.source) {replies replies' : List Reply}
    (masked : MaskedScripts replies replies') :
    ∃ id result result',
      (feed.buildRows.run replies).result = .ok ({ feed with lastRequestId := id }, result) ∧
      (feed.buildRows.run replies').result = .ok ({ feed with lastRequestId := id }, result') ∧
      AlikeResults Eq result result' := by
  by_cases ready : ∃ address, client.Ready feed.token address
  · obtain ⟨address, ready⟩ := ready
    obtain ⟨id, result, _, _, course⟩ := feed.exists_course replies
    obtain ⟨id', result', _, _, course'⟩ := feed.exists_course replies'
    obtain ⟨last, known, known', decided, decided', alike⟩ := verdict_masked masked address
    obtain ⟨rfl, rfl⟩ := Prod.mk.inj (decided.symm.trans (course.eq_verdict monitored ready))
    obtain ⟨rfl, rfl⟩ := Prod.mk.inj (decided'.symm.trans (course'.eq_verdict monitored ready))
    exact ⟨_, _, _, course.run_eq.1, course'.run_eq.1, alike⟩
  · obtain ⟨fault, _, course⟩ := course_of_unready monitored (not_exists.mp ready)
    exact ⟨_, _, _, (course replies).run_eq.1, (course replies').run_eq.1, .error (.same fault)⟩

/-- **Names of problems and hosts change no table** that is made over a client, but one that reports a
record without one of its fields: that report shows the record with all it holds. -/
theorem render_redacted (client : Client) (feed : Feed Reply Request)
    (monitored : feed.source = client.source) (replies replies' : List Reply)
    (masked : MaskedScripts replies replies') (origin : Text) :
    ∃ after table table', ((feed.render origin).run replies).result = .ok (after, table) ∧
      ((feed.render origin).run replies').result = .ok (after, table') ∧ Redacted table table' := by
  obtain ⟨id, result, result', ended, ended', alike⟩ := buildRows_masked monitored masked
  cases alike with
  | ok same =>
    obtain rfl := same
    exact ⟨_, _, _, (run_render_of_rows ended origin).1, (run_render_of_rows ended' origin).1,
      rfl, rfl, Or.inl rfl⟩
  | error alike =>
    exact ⟨_, _, _, (run_render_of_fault ended (reportable_of_ended monitored ended) origin).1,
      (run_render_of_fault ended' (reportable_of_ended monitored ended') origin).1,
      redacted_errorTable alike origin id⟩

end Rendering

/-! ### Two monitors -/

/-- The object of a reply that lists one value. -/
def saying (value : Value) : Value :=
  .object [("result", .list [value])]

/-- A reply that lists one value. -/
def listing (value : Value) : Reply :=
  .answer 200 (Utf8.encode (Json.write (saying value)))

theorem listing_lists {value : Value} (portable : Json.Portable 3 value)
    (decoded : Json.decode? (Utf8.encode (Json.write (saying value))) =
      some (Json.write (saying value))) : (listing value).Lists [value] := by
  have whole : Json.Portable 5 (saying value) := by
    have distinct : List.Nodup [("result" : Text)] := by decide
    refine .object_of_names distinct (forall_mem_singleton.mpr ⟨⟨"result", rfl⟩, ?_⟩)
    exact .list (forall_mem_singleton.mpr portable)
  have read : Json.readBytes (Utf8.encode (Json.write (saying value))) = .ok (saying value) := by
    rw [Json.readBytes, decoded]
    exact Json.read_write whole (by decide)
  exact ⟨_, _, rfl, read, rfl, rfl⟩

theorem portable_figure {depth n : Nat} (small : n < 1000) : Json.Portable depth (.int n) :=
  .int (Decimal.short_of_natAbs_lt (k := 3) (by decide) (by decide) small)

/-- A problem as it is listed. -/
def listedProblem (name : String) : Value :=
  .object [("eventid", .int 1), ("objectid", .int 10), ("clock", .int 100), ("severity", .int 5),
    ("name", .text name)]

theorem portable_listedProblem (name : String) : Json.Portable 3 (listedProblem name) := by
  have distinct : List.Nodup [("eventid" : Text), "objectid", "clock", "severity", "name"] := by
    decide
  refine .object_of_names distinct fun member among => ?_
  simp only [mem_cons, not_mem_nil, or_false] at among
  rcases among with rfl | rfl | rfl | rfl | rfl
  · exact ⟨⟨_, rfl⟩, portable_figure (n := 1) (by decide)⟩
  · exact ⟨⟨_, rfl⟩, portable_figure (n := 10) (by decide)⟩
  · exact ⟨⟨_, rfl⟩, portable_figure (n := 100) (by decide)⟩
  · exact ⟨⟨_, rfl⟩, portable_figure (n := 5) (by decide)⟩
  · exact ⟨⟨_, rfl⟩, .text (Text.scalar_ofString name)⟩

/-- Two of them differ in their names alone. -/
theorem listedProblem_masked (name name' : String) :
    MaskedProblem (listedProblem name) (listedProblem name') := by
  refine .object ?_
  repeat refine .cons ⟨rfl, Or.inl rfl⟩ ?_
  exact .cons ⟨rfl, Or.inr ⟨rfl, name, name', rfl, rfl⟩⟩ .nil

/-- The event of this problem, as it is listed; someone has acknowledged it. -/
def listedEvent : Value :=
  .object [("eventid", .int 1), ("acknowledged", .bool true)]

theorem portable_listedEvent : Json.Portable 3 listedEvent := by
  have distinct : List.Nodup [("eventid" : Text), "acknowledged"] := by decide
  refine .object_of_names distinct fun member among => ?_
  simp only [mem_cons, not_mem_nil, or_false] at among
  rcases among with rfl | rfl
  · exact ⟨⟨_, rfl⟩, portable_figure (n := 1) (by decide)⟩
  · exact ⟨⟨_, rfl⟩, .bool true⟩

/-- A host, as it is listed. -/
def listedHost (host : String) : Value :=
  .object [("hostid", .int 7), ("host", .text host)]

theorem portable_listedHost (host : String) : Json.Portable 1 (listedHost host) := by
  have distinct : List.Nodup [("hostid" : Text), "host"] := by decide
  refine .object_of_names distinct fun member among => ?_
  simp only [mem_cons, not_mem_nil, or_false] at among
  rcases among with rfl | rfl
  · exact ⟨⟨_, rfl⟩, portable_figure (n := 7) (by decide)⟩
  · exact ⟨⟨_, rfl⟩, .text (Text.scalar_ofString host)⟩

/-- The trigger of the problem with its host, as it is listed. -/
def listedTrigger (host : String) : Value :=
  .object [("triggerid", .int 10), ("hosts", .list [listedHost host])]

theorem portable_listedTrigger (host : String) : Json.Portable 3 (listedTrigger host) := by
  have distinct : List.Nodup [("triggerid" : Text), "hosts"] := by decide
  refine .object_of_names distinct fun member among => ?_
  simp only [mem_cons, not_mem_nil, or_false] at among
  rcases among with rfl | rfl
  · exact ⟨⟨_, rfl⟩, portable_figure (n := 10) (by decide)⟩
  · exact ⟨⟨_, rfl⟩, .list (forall_mem_singleton.mpr (portable_listedHost host))⟩

/-- Two of them differ in the names of their hosts alone. -/
theorem listedTrigger_masked (host host' : String) :
    MaskedTrigger (listedTrigger host) (listedTrigger host') := by
  have hosts : MaskedHost (listedHost host) (listedHost host') :=
    .object (.cons ⟨rfl, Or.inl rfl⟩ (.cons ⟨rfl, Or.inr ⟨rfl, host, host', rfl, rfl⟩⟩ .nil))
  refine .object (.cons ⟨rfl, Or.inl rfl⟩ (.cons ⟨rfl, Or.inr ⟨rfl, _, _, rfl, rfl, ?_⟩⟩ .nil))
  exact .cons hosts .nil

/-- The replies of a monitor with this problem alone, which is at one host. -/
def listedScript (problem host : String) : List Reply :=
  [listing (listedProblem problem), listing listedEvent, listing (listedTrigger host)]

/-- Two monitors that name the problem and its host differently, and say the same otherwise. -/
theorem listedScript_masked :
    MaskedScripts (listedScript "disk full" "db1") (listedScript "link down" "web2") where
  problems := .lists (listing_lists (portable_listedProblem _) (by decide +kernel))
    (listing_lists (portable_listedProblem _) (by decide +kernel))
    (.cons (listedProblem_masked _ _) .nil)
  events := .lists (listing_lists portable_listedEvent (by decide +kernel))
    (listing_lists portable_listedEvent (by decide +kernel)) (.cons rfl .nil)
  triggers := .lists (listing_lists (portable_listedTrigger _) (by decide +kernel))
    (listing_lists (portable_listedTrigger _) (by decide +kernel))
    (.cons (listedTrigger_masked _ _) .nil)

/-- They are served alike, with one row each. -/
theorem listedProblem_redacted :
    MaskedScripts (listedScript "disk full" "db1") (listedScript "link down" "web2") ∧
    ∃ after table table',
      (((feedOf (usualClient true)).render "192.0.2.10").run
        (listedScript "disk full" "db1")).result = .ok (after, table) ∧
      (((feedOf (usualClient true)).render "192.0.2.10").run
        (listedScript "link down" "web2")).result = .ok (after, table') ∧
      Redacted table table' ∧ table.ok = true ∧ table.rowCount = 1 := by
  refine ⟨listedScript_masked, ?_⟩
  obtain ⟨after, table, table', rendered, rendered', redacted⟩ :=
    render_redacted (usualClient true) (feedOf (usualClient true)) rfl _ _ listedScript_masked
      "192.0.2.10"
  have counted :
      (((feedOf (usualClient true)).render "192.0.2.10").run
        (listedScript "disk full" "db1")).result.toOption.map
          (fun made => (made.2.ok, made.2.rowCount)) = some (true, 1) := by
    decide +kernel
  rw [rendered] at counted
  obtain ⟨ok, rowCount⟩ := Prod.mk.inj (Option.some.inj counted)
  exact ⟨after, table, table', rendered, rendered', redacted, ok, rowCount⟩

/-- A problem without most of its fields, as it is listed. -/
def listedStub (name : String) : Value :=
  .object [("eventid", .int 1), ("name", .text name)]

theorem portable_listedStub (name : String) : Json.Portable 3 (listedStub name) := by
  have distinct : List.Nodup [("eventid" : Text), "name"] := by decide
  refine .object_of_names distinct fun member among => ?_
  simp only [mem_cons, not_mem_nil, or_false] at among
  rcases among with rfl | rfl
  · exact ⟨⟨_, rfl⟩, portable_figure (n := 1) (by decide)⟩
  · exact ⟨⟨_, rfl⟩, .text (Text.scalar_ofString name)⟩

/-- **Not every table is free of names**: a problem without a field is reported with its name. -/
theorem not_every_table_redacted :
    ¬∀ (client : Client) (feed : Feed Reply Request), feed.source = client.source →
      ∀ (replies replies' : List Reply), MaskedScripts replies replies' → ∀ origin : Text,
      ∃ after table table', ((feed.render origin).run replies).result = .ok (after, table) ∧
        ((feed.render origin).run replies').result = .ok (after, table') ∧
        table'.body = table.body := by
  intro claimed
  have stubs : MaskedProblem (listedStub "a") (listedStub "b") :=
    .object (.cons ⟨rfl, Or.inl rfl⟩ (.cons ⟨rfl, Or.inr ⟨rfl, _, _, rfl, rfl⟩⟩ .nil))
  have masked : MaskedScripts [listing (listedStub "a")] [listing (listedStub "b")] :=
    { problems := .lists (listing_lists (portable_listedStub _) (by decide +kernel))
        (listing_lists (portable_listedStub _) (by decide +kernel)) (.cons stubs .nil)
      events := .missing
      triggers := .missing }
  obtain ⟨after, table, table', rendered, rendered', same⟩ :=
    claimed (usualClient true) (feedOf (usualClient true)) rfl _ _ masked "192.0.2.10"
  have apart :
      (((feedOf (usualClient true)).render "192.0.2.10").run
        [listing (listedStub "a")]).result.toOption.map (fun made => made.2.body) ≠
      (((feedOf (usualClient true)).render "192.0.2.10").run
        [listing (listedStub "b")]).result.toOption.map (fun made => made.2.body) := by
    decide +kernel
  rw [rendered, rendered'] at apart
  exact apart (congrArg some same.symm)

end AlarmFeed.Feed
