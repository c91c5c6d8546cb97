/-
**Texts and numbers are the same data.**

A script of three good replies (`Script.Says`) lists problems, events and triggers. Any of their numbers
and truth values, also those of the hosts and items of a trigger, may be restated as texts
(`Script.Restated`). What the replies say is read the same (`Script.Says.restated`), and what a feed over
a client comes to, and what it sends, is decided by what the replies say (`verdict_of_told`,
`received_of_told`).

* `render_restated` — so the restated script gives the same records, the same requests and the same table.
-/

import AlarmFeed.Proofs.Feed.Redaction
import AlarmFeed.Proofs.Monitor.Restated

namespace AlarmFeed.Feed

open List Schema

/-! ### Scripts -/

/-- The replies to the three questions. -/
structure Script where
  problems : Reply
  events : Reply
  triggers : Reply

namespace Script

/-- The replies in the order of the questions. -/
def replies (script : Script) : List Reply :=
  [script.problems, script.events, script.triggers]

/-- **A script says records**: each of its replies lists them. -/
structure Says (script : Script) (problems : List Problem) (events : List Event)
    (triggers : List Trigger) : Prop where
  problems : script.problems.Says Problem.read problems
  events : script.events.Says Event.read events
  triggers : script.triggers.Says Trigger.read triggers

/-- **A script restates another**: it lists as many records in each reply, and of their numbers and truth
values some may have become texts. -/
structure Restated (script script' : Script) : Prop where
  problems : script.problems.Restated (Value.Restated Problem.restatements) script'.problems
  events : script.events.Restated (Value.Restated Event.restatements) script'.events
  triggers : script.triggers.Restated (Value.Restated Trigger.restatements) script'.triggers

variable {script script' : Script} {problems : List Problem} {events : List Event}
  {triggers : List Trigger}

/-- **A restated script says the same.** -/
theorem Says.restated (said : script.Says problems events triggers)
    (restated : script.Restated script') : script'.Says problems events triggers where
  problems := said.problems.restated Problem.kept_read restated.problems
  events := said.events.restated Event.kept_read restated.events
  triggers := said.triggers.restated Trigger.kept_read restated.triggers

section Verdicts

variable (said : script.Says problems events triggers) (said' : script'.Says problems events triggers)
include said said'

theorem heardProblems_of_told (address : Address) :
    heardProblems address script.replies[0]? = heardProblems address script'.replies[0]? :=
  (Query.understood_of_told said.problems ..).trans (Query.understood_of_told said'.problems ..).symm

theorem heardEvents_of_told (address : Address) :
    heardEvents address script.replies[1]? = heardEvents address script'.replies[1]? :=
  (Query.understood_of_told said.events ..).trans (Query.understood_of_told said'.events ..).symm

theorem heardTriggers_of_told (address : Address) :
    heardTriggers address script.replies[2]? = heardTriggers address script'.replies[2]? :=
  (Query.understood_of_told said.triggers ..).trans (Query.understood_of_told said'.triggers ..).symm

/-- **What is said decides** what a monitored feed comes to. -/
theorem verdict_of_told (address : Address) :
    verdict address script.replies = verdict address script'.replies := by
  unfold verdict
  rw [heardProblems_of_told said said', heardEvents_of_told said said',
    heardTriggers_of_told said said']

/-- It decides which problems are received. -/
theorem received_of_told (address : Address) :
    received address script.replies = received address script'.replies := by
  unfold received
  rw [heardProblems_of_told said said']

/-- **Two scripts that say the same** are asked the same, and a feed comes to the same on them. -/
theorem course_of_told {client : Client} {feed : Feed Reply Request}
    (monitored : feed.source = client.source) :
    ∃ id result sent rest rest', Course feed script.replies id result sent rest ∧
      Course feed script'.replies id result sent rest' := by
  by_cases ready : ∃ address, client.Ready feed.token address
  · obtain ⟨address, ready⟩ := ready
    obtain ⟨id, result, sent, rest, course⟩ := feed.exists_course script.replies
    obtain ⟨id', result', sent', rest', course'⟩ := feed.exists_course script'.replies
    have decided := course.eq_verdict monitored ready
    rw [verdict_of_told said said', course'.eq_verdict monitored ready] at decided
    obtain ⟨rfl, rfl⟩ := Prod.mk.inj decided
    obtain ⟨k, last, kept⟩ := course.kept monitored ready
    obtain ⟨k', last', kept'⟩ := course'.kept monitored ready
    obtain rfl : k = k' := Int.ofNat.inj (last.symm.trans last')
    have asked : sent' = sent := by
      rw [kept'.asked, kept.asked, received_of_told said said']
    exact ⟨_, _, _, _, _, course, asked ▸ course'⟩
  · obtain ⟨_, _, course⟩ := course_of_unready monitored (not_exists.mp ready)
    exact ⟨_, _, _, _, _, course _, course _⟩

end Verdicts

end Script

/-! ### The same table -/

/-- **Texts and numbers are the same data.** If a script of good replies says some problems, events and
triggers, then one that restates any of their numbers and truth values as texts says the same, and every
feed over a client sends the same requests and makes the same table of it. -/
theorem render_restated (client : Client) (feed : Feed Reply Request)
    (monitored : feed.source = client.source) (script script' : Script)
    (restated : script.Restated script') (problems : List Problem) (events : List Event)
    (triggers : List Trigger) (said : script.Says problems events triggers) (origin : Text) :
    script'.Says problems events triggers ∧
    ((feed.render origin).run script'.replies).sent = ((feed.render origin).run script.replies).sent ∧
    ∃ after table, ((feed.render origin).run script.replies).result = .ok (after, table) ∧
      ((feed.render origin).run script'.replies).result = .ok (after, table) := by
  have said' := said.restated restated
  obtain ⟨id, result, sent, rest, rest', course, course'⟩ :=
    Script.course_of_told said said' monitored
  refine ⟨said', by rw [course'.sent_render origin, course.sent_render origin], ?_⟩
  cases result with
  | error fault =>
    have reportable := reportable_of_ended monitored course.run_eq.1
    exact ⟨_, _, (run_render_of_fault course.run_eq.1 reportable origin).1,
      (run_render_of_fault course'.run_eq.1 reportable origin).1⟩
  | ok rows =>
    exact ⟨_, _, (run_render_of_rows course.run_eq.1 origin).1,
      (run_render_of_rows course'.run_eq.1 origin).1⟩

/-! ### A monitor that writes numbers as texts -/

/-- A number as a monitor writes it, as a text or as it is. -/
def figure (asText : Bool) (n : Nat) : Value :=
  if asText then .text (Decimal.ofInt n) else .int n

/-- A problem with such numbers. -/
def figureProblem (asText : Bool) : Value :=
  .object [("eventid", figure asText 1), ("objectid", figure asText 10),
    ("clock", figure asText 100), ("severity", .int 5)]

/-- Its event, which someone has acknowledged. -/
def figureEvent (asText : Bool) : Value :=
  .object [("eventid", figure asText 1),
    ("acknowledged", if asText then .text "1" else .bool true)]

/-- Its trigger, with one host. -/
def figureTrigger (asText : Bool) : Value :=
  .object [("triggerid", figure asText 10),
    ("hosts", .list [.object [("hostid", figure asText 7)]])]

/-- The replies that list them. -/
def figureScript (asText : Bool) : Script where
  problems := listing (figureProblem asText)
  events := listing (figureEvent asText)
  triggers := listing (figureTrigger asText)

theorem portable_figureText {depth n : Nat} (asText : Bool) (small : n < 1000) :
    Json.Portable depth (figure asText n) := by
  cases asText with
  | false => exact portable_figure small
  | true => exact .text (Text.scalar_ofInt n)

theorem portable_figureProblem (asText : Bool) : Json.Portable 3 (figureProblem asText) := by
  have distinct : List.Nodup [("eventid" : Text), "objectid", "clock", "severity"] := by decide
  refine .object_of_names distinct fun member among => ?_
  simp only [mem_cons, not_mem_nil, or_false] at among
  rcases among with rfl | rfl | rfl | rfl
  · exact ⟨⟨_, rfl⟩, portable_figureText asText (by decide)⟩
  · exact ⟨⟨_, rfl⟩, portable_figureText asText (by decide)⟩
  · exact ⟨⟨_, rfl⟩, portable_figureText asText (by decide)⟩
  · exact ⟨⟨_, rfl⟩, portable_figure (n := 5) (by decide)⟩

theorem portable_figureEvent (asText : Bool) : Json.Portable 3 (figureEvent asText) := by
  have distinct : List.Nodup [("eventid" : Text), "acknowledged"] := by decide
  refine .object_of_names distinct fun member among => ?_
  simp only [mem_cons, not_mem_nil, or_false] at among
  rcases among with rfl | rfl
  · exact ⟨⟨_, rfl⟩, portable_figureText asText (by decide)⟩
  · cases asText
    · exact ⟨⟨_, rfl⟩, .bool true⟩
    · exact ⟨⟨_, rfl⟩, .text (Text.scalar_ofString "1")⟩

theorem portable_figureTrigger (asText : Bool) : Json.Portable 3 (figureTrigger asText) := by
  have distinct : List.Nodup [("triggerid" : Text), "hosts"] := by decide
  have single : List.Nodup [("hostid" : Text)] := by decide
  have host : Json.Portable 1 (.object [("hostid", figure asText 7)]) :=
    .object_of_names single (forall_mem_singleton.mpr
      ⟨⟨_, rfl⟩, portable_figureText asText (by decide)⟩)
  refine .object_of_names distinct fun member among => ?_
  simp only [mem_cons, not_mem_nil, or_false] at among
  rcases among with rfl | rfl
  · exact ⟨⟨_, rfl⟩, portable_figureText asText (by decide)⟩
  · exact ⟨⟨_, rfl⟩, .list (forall_mem_singleton.mpr host)⟩

theorem figureProblem_delivers (asText : Bool) :
    (listing (figureProblem asText)).Delivers [figureProblem asText] := by
  refine (listing_lists (portable_figureProblem asText) ?_).delivers
  cases asText <;> decide +kernel

theorem figureEvent_delivers (asText : Bool) :
    (listing (figureEvent asText)).Delivers [figureEvent asText] := by
  refine (listing_lists (portable_figureEvent asText) ?_).delivers
  cases asText <;> decide +kernel

theorem figureTrigger_delivers (asText : Bool) :
    (listing (figureTrigger asText)).Delivers [figureTrigger asText] := by
  refine (listing_lists (portable_figureTrigger asText) ?_).delivers
  cases asText <;> decide +kernel

theorem figure_restated {n : Nat} (small : n < 1000) :
    RestatedNumber (figure false n) (figure true n) := by
  refine .number (Nat.lt_of_le_of_lt (Decimal.length_digits_le (k := 3) (by decide) ?_) (by decide))
  exact small

/-- Only the severity is left a number. -/
theorem figureScript_restated : (figureScript false).Restated (figureScript true) where
  problems := by
    refine ⟨_, _, figureProblem_delivers false, figureProblem_delivers true, .cons (.object ?_) .nil⟩
    refine .cons ⟨rfl, Or.inr ⟨_, rfl, figure_restated (n := 1) (by decide)⟩⟩ ?_
    refine .cons ⟨rfl, Or.inr ⟨_, rfl, figure_restated (n := 10) (by decide)⟩⟩ ?_
    refine .cons ⟨rfl, Or.inr ⟨_, rfl, figure_restated (n := 100) (by decide)⟩⟩ ?_
    exact .cons ⟨rfl, Or.inl rfl⟩ .nil
  events := by
    refine ⟨_, _, figureEvent_delivers false, figureEvent_delivers true, .cons (.object ?_) .nil⟩
    refine .cons ⟨rfl, Or.inr ⟨_, rfl, figure_restated (n := 1) (by decide)⟩⟩ ?_
    exact .cons ⟨rfl, Or.inr ⟨_, rfl, .yes⟩⟩ .nil
  triggers := by
    refine ⟨_, _, figureTrigger_delivers false, figureTrigger_delivers true,
      .cons (.object ?_) .nil⟩
    refine .cons ⟨rfl, Or.inr ⟨_, rfl, figure_restated (n := 10) (by decide)⟩⟩ ?_
    refine .cons ⟨rfl, Or.inr ⟨_, rfl, _, _, rfl, rfl, .cons (.object ?_) .nil⟩⟩ .nil
    exact .cons ⟨rfl, Or.inr ⟨_, rfl, figure_restated (n := 7) (by decide)⟩⟩ .nil

theorem figureScript_told :
    (figureScript false).Says [{ eventId := 1, objectId := 10, clock := 100, severity := 5 }]
      [{ eventId := 1, acknowledged := true }] [{ triggerId := 10, hosts := [{ hostId := 7 }] }] where
  problems := ⟨_, figureProblem_delivers false, .cons rfl .nil⟩
  events := ⟨_, figureEvent_delivers false, .cons rfl .nil⟩
  triggers := ⟨_, figureTrigger_delivers false, .cons rfl .nil⟩

/-- A monitor that writes texts is served like one that writes numbers. -/
theorem figureScript_rendered :
    (figureScript false).Restated (figureScript true) ∧
    (figureScript true).Says [{ eventId := 1, objectId := 10, clock := 100, severity := 5 }]
      [{ eventId := 1, acknowledged := true }] [{ triggerId := 10, hosts := [{ hostId := 7 }] }] ∧
    (((feedOf (usualClient true)).render "192.0.2.10").run (figureScript true).replies).sent =
      (((feedOf (usualClient true)).render "192.0.2.10").run (figureScript false).replies).sent ∧
    ∃ after table,
      (((feedOf (usualClient true)).render "192.0.2.10").run (figureScript false).replies).result =
        .ok (after, table) ∧
      (((feedOf (usualClient true)).render "192.0.2.10").run (figureScript true).replies).result =
        .ok (after, table) := by
  refine ⟨figureScript_restated, ?_⟩
  exact render_restated (usualClient true) (feedOf (usualClient true)) rfl _ _ figureScript_restated
    _ _ _ figureScript_told "192.0.2.10"

end AlarmFeed.Feed
