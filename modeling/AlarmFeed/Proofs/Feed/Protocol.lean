/-
**The protocol of the three questions.**

A feed that is answered by the monitor sends one request for each question that it asks, and what becomes
of it is decided by the replies alone: `faultOf` says which fault the reply to a question is, and
`received` which problems the first reply lists.

* `Course.kept` — whatever the replies, some `k` of the three questions are asked, the replies in front
  of the last one are no faults, and the last one decides (`Kept`);
* `render_protocol` — so a failed table names the question that failed, in its id and in the feed, and
  nothing at all is sent by a client that is not ready.

The id in the table comes from two places: an error of the monitor brings the id that was read back out
of the request, any other fault is reported under the last one. `Fault.Attributed` is why they agree.
-/

import AlarmFeed.Proofs.Feed.Course
import AlarmFeed.Proofs.Monitor.Query
import AlarmFeed.Proofs.ProblemIndex

namespace AlarmFeed.Feed

/-! ### Replies -/

/-- What the reply to the question about problems says. -/
def heardProblems (address : Address) (reply : Option Reply) : Except Fault (List Problem) :=
  Query.understood address "problem.get" (.int problemsId) "Problem" Problem.read reply

/-- What the reply to the question about events says. -/
def heardEvents (address : Address) (reply : Option Reply) : Except Fault (List Event) :=
  Query.understood address "event.get" (.int eventsId) "Event" Event.read reply

/-- What the reply to the question about triggers says. -/
def heardTriggers (address : Address) (reply : Option Reply) : Except Fault (List Trigger) :=
  Query.understood address "trigger.get" (.int triggersId) "Trigger" Trigger.read reply

/-- The fault that a result is, if it is one. -/
def fault? {α : Type} : Except Fault α → Option Fault
  | .error fault => some fault
  | .ok _ => none

/-- The fault that the reply to the first, the second or the third question is, if it is one. -/
def faultOf (address : Address) : Nat → Option Reply → Option Fault
  | 1, reply => fault? (heardProblems address reply)
  | 2, reply => fault? (heardEvents address reply)
  | _, reply => fault? (heardTriggers address reply)

/-- The problems that the first reply lists; none if it is a fault. -/
def received (address : Address) (replies : List Reply) : List Problem :=
  match heardProblems address replies[0]? with
  | .ok problems => problems
  | .error _ => []

/-! ### Questions -/

/-- The requests for the three questions, given the problems that the first of them found: each event
and each trigger is asked for once, in the order in which the problems name them. -/
def questions (client : Client) (token : Option Text) (address : Address) (problems : List Problem) :
    List Request :=
  [client.message address token "problem.get" Query.problemParams (.int 1),
    client.message address token "event.get"
      (Query.eventParams (problems.map Problem.eventId).eraseDups) (.int 2),
    client.message address token "trigger.get"
      (Query.triggerParams (problems.map Problem.objectId).eraseDups) (.int 3)]

theorem idOfText_question {method : String} {params : Value} {n : Nat} (small : n < 10)
    (portable : Json.Portable 2 params) :
    Request.idOfText (Request.encode (Text.ofString method) params (.int n)) = .ok (.int n) :=
  Request.idOfText_encode _ (Request.sendable_of_portable portable
    (.int (Decimal.short_of_natAbs_lt_ten small)) (by decide))

/-- Some problems have some ids. -/
theorem ids_ne_nil {problems : List Problem} (some : problems ≠ []) (id : Problem → Int) :
    (problems.map id).eraseDups ≠ [] := by
  rw [Ne, eraseDups_eq_nil_iff, List.map_eq_nil_iff]
  exact some

theorem short_of_mem_ids {problems : List Problem} {id : Problem → Int}
    (short : ∀ problem ∈ problems, Decimal.Short (id problem)) :
    ∀ n ∈ (problems.map id).eraseDups, Decimal.Short n := by
  intro n member
  obtain ⟨problem, among, rfl⟩ := List.mem_map.mp (List.mem_eraseDups.mp member)
  exact short problem among

section Asking

variable {client : Client} {feed : Feed Reply Request} {address : Address} {problems : List Problem}

theorem run_askedProblems (monitored : feed.source = client.source)
    (ready : client.Ready feed.token address) (replies : List Reply) :
    ∃ log, feed.askedProblems replies =
      ⟨heardProblems address replies.head?,
        [client.message address feed.token "problem.get" Query.problemParams (.int 1)],
        replies.tail, log⟩ := by
  rw [askedProblems, monitored]
  exact Query.run_ask ready (idOfText_question (by decide) Query.portable_problemParams) replies

/-- A client that is not ready fails with the question about problems. -/
theorem askedProblems_of_unready (monitored : feed.source = client.source)
    (unready : client.Unready feed.token) :
    ∃ fault log, fault.Attributed (.int 1) ∧
      ∀ replies, feed.askedProblems replies = ⟨.error fault, [], replies, log⟩ := by
  simp only [askedProblems, monitored]
  exact Query.run_ask_of_unready unready
    (idOfText_question (by decide) Query.portable_problemParams)

/-- So does one that is not connected, or has a token that is not ASCII. -/
theorem run_askedProblems_of_unready (monitored : feed.source = client.source)
    (unready : client.connected = false ∨ ∃ c ∈ client.effectiveToken feed.token, 0x80 ≤ c.val)
    (replies : List Reply) :
    ∃ fault log, fault.Attributed (.int 1) ∧
      feed.askedProblems replies = ⟨.error fault, [], replies, log⟩ := by
  obtain ⟨fault, log, attributed, stopped⟩ :=
    askedProblems_of_unready monitored (Client.unready_of unready)
  exact ⟨fault, log, attributed, stopped replies⟩

/-- A client that is not ready comes to the same whatever the replies. -/
theorem course_of_unready (monitored : feed.source = client.source)
    (unready : client.Unready feed.token) :
    ∃ fault, fault.Attributed (.int problemsId) ∧
      ∀ replies, Course feed replies problemsId (.error fault) [] replies := by
  obtain ⟨fault, log, attributed, stopped⟩ := askedProblems_of_unready monitored unready
  exact ⟨fault, attributed, fun replies => .problemsFailed (stopped replies) rfl⟩

theorem run_askedEvents (monitored : feed.source = client.source)
    (ready : client.Ready feed.token address) (some : problems ≠ [])
    (short : ∀ problem ∈ problems, Decimal.Short problem.eventId) (replies : List Reply) :
    ∃ log, feed.askedEvents problems replies =
      ⟨heardEvents address replies.head?,
        [client.message address feed.token "event.get"
          (Query.eventParams (problems.map Problem.eventId).eraseDups) (.int 2)],
        replies.tail, log⟩ := by
  rw [askedEvents, monitored, ProblemIndex.eventIds_ofProblems]
  exact Query.run_askFor ready (ids_ne_nil some _)
    (idOfText_question (by decide) (Query.portable_eventParams (short_of_mem_ids short))) replies

theorem run_askedTriggers (monitored : feed.source = client.source)
    (ready : client.Ready feed.token address) (some : problems ≠ [])
    (short : ∀ problem ∈ problems, Decimal.Short problem.objectId) (replies : List Reply) :
    ∃ log, feed.askedTriggers problems replies =
      ⟨heardTriggers address replies.head?,
        [client.message address feed.token "trigger.get"
          (Query.triggerParams (problems.map Problem.objectId).eraseDups) (.int 3)],
        replies.tail, log⟩ := by
  rw [askedTriggers, monitored, ProblemIndex.triggerIds_ofProblems]
  exact Query.run_askFor ready (ids_ne_nil some _)
    (idOfText_question (by decide) (Query.portable_triggerParams (short_of_mem_ids short))) replies

end Asking

/-! ### Keeping to it -/

/-- **The protocol is kept**: of the three questions the first `k` are asked, and the last reply to them
decides what becomes of the feed. -/
structure Kept (client : Client) (token : Option Text) (address : Address) (replies : List Reply)
    (k : Nat) (result : Except Fault (List Row)) (sent : List Request) : Prop where
  first : 1 ≤ k
  last : k ≤ 3
  asked : sent = (questions client token address (received address replies)).take k
  nonempty : 2 ≤ k → received address replies ≠ []
  earlier : ∀ j, 1 ≤ j → j < k → faultOf address j replies[j - 1]? = none
  failed : ∀ fault, result = .error fault → faultOf address k replies[k - 1]? = some fault
  answered : ∀ rows, result = .ok rows → faultOf address k replies[k - 1]? = none ∧
    k = if received address replies = [] then 1 else 3

section Keeping

variable {client : Client} {token : Option Text} {address : Address} {replies : List Reply}
  {problems : List Problem} {events : List Event} {triggers : List Trigger} {fault : Fault}

theorem received_eq (found : heardProblems address replies[0]? = .ok problems) :
    received address replies = problems := by
  rw [received, found]

theorem faultOf_one (found : heardProblems address replies[0]? = .ok problems) :
    faultOf address 1 replies[0]? = none := by
  show fault? (heardProblems address replies[0]?) = none
  rw [found]
  rfl

theorem faultOf_two (known : heardEvents address replies[1]? = .ok events) :
    faultOf address 2 replies[1]? = none := by
  show fault? (heardEvents address replies[1]?) = none
  rw [known]
  rfl

theorem kept_of_problemsFailed (failed : heardProblems address replies[0]? = .error fault)
    (problems : List Problem) :
    Kept client token address replies 1 (.error fault)
      ((questions client token address problems).take 1) where
  first := Nat.le_refl 1
  last := by decide
  asked := rfl
  nonempty := fun two => absurd two (by decide)
  earlier := fun j positive less => absurd less (by omega)
  failed := by
    rintro _ ⟨⟩
    show fault? (heardProblems address replies[0]?) = some fault
    rw [failed]
    rfl
  answered := fun rows other => nomatch other

theorem kept_of_noProblems (none : heardProblems address replies[0]? = .ok [])
    (rows : List Row) :
    Kept client token address replies 1 (.ok rows)
      ((questions client token address []).take 1) where
  first := Nat.le_refl 1
  last := by decide
  asked := rfl
  nonempty := fun two => absurd two (by decide)
  earlier := fun j positive less => absurd less (by omega)
  failed := fun fault other => nomatch other
  answered := fun rows _ => ⟨faultOf_one none, by rw [received_eq none, if_pos rfl]⟩

theorem kept_of_eventsFailed (found : heardProblems address replies[0]? = .ok problems)
    (some : problems ≠ []) (failed : heardEvents address replies[1]? = .error fault) :
    Kept client token address replies 2 (.error fault)
      ((questions client token address problems).take 2) where
  first := by decide
  last := by decide
  asked := by rw [received_eq found]
  nonempty := fun _ => received_eq found ▸ some
  earlier := by
    intro j positive less
    obtain rfl : j = 1 := by omega
    exact faultOf_one found
  failed := by
    rintro _ ⟨⟩
    show fault? (heardEvents address replies[1]?) = Option.some fault
    rw [failed]
    rfl
  answered := fun rows other => nomatch other

theorem kept_of_triggersFailed (found : heardProblems address replies[0]? = .ok problems)
    (some : problems ≠ []) (known : heardEvents address replies[1]? = .ok events)
    (failed : heardTriggers address replies[2]? = .error fault) :
    Kept client token address replies 3 (.error fault) (questions client token address problems) where
  first := by decide
  last := by decide
  asked := by rw [received_eq found]; rfl
  nonempty := fun _ => received_eq found ▸ some
  earlier := by
    intro j positive less
    obtain rfl | rfl : j = 1 ∨ j = 2 := by omega
    · exact faultOf_one found
    · exact faultOf_two known
  failed := by
    rintro _ ⟨⟩
    show fault? (heardTriggers address replies[2]?) = Option.some fault
    rw [failed]
    rfl
  answered := fun rows other => nomatch other

theorem kept_of_answered (found : heardProblems address replies[0]? = .ok problems)
    (some : problems ≠ []) (known : heardEvents address replies[1]? = .ok events)
    (owned : heardTriggers address replies[2]? = .ok triggers) (rows : List Row) :
    Kept client token address replies 3 (.ok rows) (questions client token address problems) where
  first := by decide
  last := by decide
  asked := by rw [received_eq found]; rfl
  nonempty := fun _ => received_eq found ▸ some
  earlier := by
    intro j positive less
    obtain rfl | rfl : j = 1 ∨ j = 2 := by omega
    · exact faultOf_one found
    · exact faultOf_two known
  failed := fun fault other => nomatch other
  answered := by
    intro rows _
    refine ⟨?_, by rw [received_eq found, if_neg some]⟩
    show fault? (heardTriggers address replies[2]?) = Option.none
    rw [owned]
    rfl

end Keeping

section Courses

variable {client : Client} {feed : Feed Reply Request} {address : Address} {replies : List Reply}
  {problems : List Problem} {one : Outcome Reply Request (List Problem)}
  {two : Outcome Reply Request (List Event)} {three : Outcome Reply Request (List Trigger)}

theorem first_reply (monitored : feed.source = client.source)
    (ready : client.Ready feed.token address) (first : feed.askedProblems replies = one) :
    one.result = heardProblems address replies[0]? ∧
      one.sent = [client.message address feed.token "problem.get" Query.problemParams (.int 1)] ∧
      one.rest = replies.tail := by
  obtain ⟨_, told⟩ := run_askedProblems monitored ready replies
  rw [told] at first
  subst first
  exact ⟨by rw [List.head?_eq_getElem?], rfl, rfl⟩

theorem second_reply (monitored : feed.source = client.source)
    (ready : client.Ready feed.token address) (first : feed.askedProblems replies = one)
    (found : one.result = .ok problems) (some : problems ≠ [])
    (second : feed.askedEvents problems one.rest = two) :
    two.result = heardEvents address replies[1]? ∧
      two.sent = [client.message address feed.token "event.get"
        (Query.eventParams (problems.map Problem.eventId).eraseDups) (.int 2)] ∧
      two.rest = replies.tail.tail := by
  obtain ⟨heard, _, left⟩ := first_reply monitored ready first
  rw [heard] at found
  have short := Query.short_of_problems found
  obtain ⟨_, told⟩ := run_askedEvents monitored ready some
    (fun problem member => (short problem member).1) replies.tail
  rw [left, told] at second
  subst second
  exact ⟨by rw [List.head?_eq_getElem?, List.getElem?_tail], rfl, rfl⟩

theorem third_reply (monitored : feed.source = client.source)
    (ready : client.Ready feed.token address) (first : feed.askedProblems replies = one)
    (found : one.result = .ok problems) (some : problems ≠ [])
    (second : feed.askedEvents problems one.rest = two)
    (third : feed.askedTriggers problems two.rest = three) :
    three.result = heardTriggers address replies[2]? ∧
      three.sent = [client.message address feed.token "trigger.get"
        (Query.triggerParams (problems.map Problem.objectId).eraseDups) (.int 3)] := by
  obtain ⟨_, _, left⟩ := second_reply monitored ready first found some second
  rw [(first_reply monitored ready first).1] at found
  have short := Query.short_of_problems found
  obtain ⟨_, told⟩ := run_askedTriggers monitored ready some
    (fun problem member => (short problem member).2) replies.tail.tail
  rw [left, told] at third
  subst third
  exact ⟨by rw [List.head?_eq_getElem?, List.getElem?_tail, List.getElem?_tail], rfl⟩

/-- **Every course of a monitored feed keeps the protocol.** -/
theorem Course.kept {id : Int} {result : Except Fault (List Row)} {sent : List Request}
    {rest : List Reply} (course : Course feed replies id result sent rest)
    (monitored : feed.source = client.source) (ready : client.Ready feed.token address) :
    ∃ k : Nat, id = k ∧ Kept client feed.token address replies k result sent := by
  cases course with
  | problemsFailed first failed =>
    obtain ⟨heard, asked, _⟩ := first_reply monitored ready first
    rw [heard] at failed
    rw [asked]
    exact ⟨1, rfl, kept_of_problemsFailed failed []⟩
  | noProblems first none =>
    obtain ⟨heard, asked, _⟩ := first_reply monitored ready first
    rw [heard] at none
    rw [asked]
    exact ⟨1, rfl, kept_of_noProblems none []⟩
  | eventsFailed first found some second failed =>
    obtain ⟨heardOne, askedOne, _⟩ := first_reply monitored ready first
    obtain ⟨heardTwo, askedTwo, _⟩ := second_reply monitored ready first found some second
    rw [heardOne] at found
    rw [heardTwo] at failed
    rw [askedOne, askedTwo]
    exact ⟨2, rfl, kept_of_eventsFailed found some failed⟩
  | triggersFailed first found some second known third failed =>
    obtain ⟨heardOne, askedOne, _⟩ := first_reply monitored ready first
    obtain ⟨heardTwo, askedTwo, _⟩ := second_reply monitored ready first found some second
    obtain ⟨heardThree, askedThree⟩ := third_reply monitored ready first found some second third
    rw [heardOne] at found
    rw [heardTwo] at known
    rw [heardThree] at failed
    rw [askedOne, askedTwo, askedThree]
    exact ⟨3, rfl, kept_of_triggersFailed found some known failed⟩
  | answered first found some second known third owned =>
    obtain ⟨heardOne, askedOne, _⟩ := first_reply monitored ready first
    obtain ⟨heardTwo, askedTwo, _⟩ := second_reply monitored ready first found some second
    obtain ⟨heardThree, askedThree⟩ := third_reply monitored ready first found some second third
    rw [heardOne] at found
    rw [heardTwo] at known
    rw [heardThree] at owned
    rw [askedOne, askedTwo, askedThree]
    exact ⟨3, rfl, kept_of_answered found some known owned _⟩

end Courses

/-! ### Tables -/

/-- The error table of the `k`-th question. -/
def report (message : Text) (k : Nat) (origin : Text) : Text :=
  Table.line ["jsonrpc", "error.code", "error.message", "error.data", "id"]
    ++ Table.line ["2.0", "1", message, [], Decimal.digits k ++ ("@" : Text) ++ origin]

theorem attributed_of_fault? {α : Type} {result : Except Fault α} {id : Value} {fault : Fault}
    (attributed : ∀ fault, result = .error fault → fault.Attributed id)
    (is : fault? result = some fault) : fault.Attributed id := by
  cases result with
  | ok a => cases is
  | error other =>
    cases is
    exact attributed _ rfl

/-- **The fault of a reply blames the question**: the id that was read back is the one of the feed. -/
theorem attributed_of_faultOf {address : Address} {k : Nat} (first : 1 ≤ k) (last : k ≤ 3)
    {reply : Option Reply} {fault : Fault} (is : faultOf address k reply = some fault) :
    fault.Attributed (.int k) := by
  obtain rfl | rfl | rfl : k = 1 ∨ k = 2 ∨ k = 3 := by omega
  · exact attributed_of_fault? (fun _ => Query.understood_attributed) is
  · exact attributed_of_fault? (fun _ => Query.understood_attributed) is
  · exact attributed_of_fault? (fun _ => Query.understood_attributed) is

/-- A fault that blames the last question can be reported. -/
theorem reportable_of_attributed {fault : Fault} {id : Int} {depth : Nat}
    (attributed : fault.Attributed (.int id)) (short : Decimal.Short id) :
    Reportable id depth fault := by
  cases fault with
  | monitor error =>
    obtain ⟨named, code⟩ := attributed
    refine ⟨rfl, ?_, ?_⟩
    · rw [writtenCode, code]
      exact short_defaultErrorCode
    · rw [blamedRequest, named]
      exact .int short
  | mute name raised => exact attributed.elim
  | _ =>
    refine reportable_of_other ?_ rfl short
    rintro _ ⟨⟩

/-- The table of a fault that blames the last question. -/
theorem errorTable_of_attributed {fault : Fault} {k : Nat} (attributed : fault.Attributed (.int k))
    (origin : Text) :
    errorTable origin k fault = ⟨report (writtenMessage fault) k origin, false, 0⟩ := by
  have one : Decimal.ofInt 1 = ("1" : Text) := Decimal.digits_of_lt_ten (by decide)
  have written : ∀ message, Table.writeError message (.int k) origin 1 = report message k origin := by
    intro message
    rw [Table.writeError, one]
    rfl
  cases fault with
  | monitor error =>
    obtain ⟨named, code⟩ := attributed
    show AlarmTable.mk (Table.writeError error.message error.requestId origin error.code) false 0 = _
    rw [named, code, written]
    rfl
  | _ =>
    refine congrArg (AlarmTable.mk · false 0) ?_
    exact written _

section Monitored

variable {client : Client} {feed after : Feed Reply Request} {replies : List Reply} {id : Int}
  {fault : Fault} {sent : List Request} {rest : List Reply}

/-- **Every fault blames the last question**, whether the client is ready or not. -/
theorem Course.attributed (course : Course feed replies id (.error fault) sent rest)
    (monitored : feed.source = client.source) : fault.Attributed (.int id) := by
  by_cases ready : ∃ address, client.Ready feed.token address
  · obtain ⟨address, ready⟩ := ready
    obtain ⟨k, rfl, kept⟩ := course.kept monitored ready
    exact attributed_of_faultOf kept.first kept.last (kept.failed fault rfl)
  · obtain ⟨stopped, attributed, alone⟩ := course_of_unready monitored (not_exists.mp ready)
    -- a run ends in one way, so this is the course that it takes
    have ended := (alone replies).run_eq.1.symm.trans course.run_eq.1
    obtain ⟨last, same⟩ := Prod.mk.inj (Except.ok.inj ended)
    obtain rfl : problemsId = id := congrArg Feed.lastRequestId last
    obtain rfl := Except.error.inj same
    exact attributed

/-- **Every fault of a monitored feed can be reported.** -/
theorem reportable_of_ended (monitored : feed.source = client.source)
    (ended : (feed.buildRows.run replies).result = .ok (after, .error fault)) :
    Reportable after.lastRequestId after.depth fault := by
  obtain ⟨id, result, sent, rest, course⟩ := feed.exists_course replies
  obtain ⟨rfl, rfl⟩ := Prod.mk.inj (Except.ok.inj (course.run_eq.1.symm.trans ended))
  exact reportable_of_attributed (course.attributed monitored) course.short_id

/-- A monitored feed makes a table in any case, and is left with the id of another request. -/
theorem exists_render (monitored : feed.source = client.source) (origin : Text)
    (replies : List Reply) :
    ∃ id table, ((feed.render origin).run replies).result =
      .ok ({ feed with lastRequestId := id }, table) := by
  obtain ⟨id, result, _, _, course⟩ := feed.exists_course replies
  have ended := course.run_eq.1
  cases result with
  | error fault =>
    exact ⟨_, _, (run_render_of_fault ended (reportable_of_ended monitored ended) origin).1⟩
  | ok rows => exact ⟨_, _, (run_render_of_rows ended origin).1⟩

end Monitored

/-- **A feed keeps the protocol of the three questions.** Asked for a table by a client that is ready,
whatever the replies, it sends the first `k` of the questions and remembers `k`. The ids that are asked for
are never none. A good table needs one question if there are no problems and three otherwise; a failed one
is the fault of the reply to the last question, and names that question. A client that is not connected,
or has a token that is not ASCII, sends nothing, and the first question is the one that fails. -/
theorem render_protocol (client : Client) (feed : Feed Reply Request)
    (monitored : feed.source = client.source) (replies : List Reply) (origin : Text) :
    (∀ address, client.Ready feed.token address →
      ∃ (k : Nat) (table : AlarmTable),
        1 ≤ k ∧ k ≤ 3 ∧
        ((feed.render origin).run replies).result = .ok ({ feed with lastRequestId := k }, table) ∧
        ((feed.render origin).run replies).sent =
          (questions client feed.token address (received address replies)).take k ∧
        (2 ≤ k →
          ((received address replies).map Problem.eventId).eraseDups ≠ [] ∧
          ((received address replies).map Problem.objectId).eraseDups ≠ []) ∧
        (∀ j, 1 ≤ j → j < k → faultOf address j replies[j - 1]? = none) ∧
        (table.ok = true → faultOf address k replies[k - 1]? = none ∧
          k = if received address replies = [] then 1 else 3) ∧
        (table.ok = false → ∃ fault, faultOf address k replies[k - 1]? = some fault ∧
          table = ⟨report (writtenMessage fault) k origin, false, 0⟩)) ∧
    (client.connected = false ∨ (∃ c ∈ client.effectiveToken feed.token, 0x80 ≤ c.val) →
      ((feed.render origin).run replies).sent = [] ∧
      ∃ fault, ((feed.render origin).run replies).result =
        .ok ({ feed with lastRequestId := 1 }, ⟨report (writtenMessage fault) 1 origin, false, 0⟩)) := by
  constructor
  · intro address ready
    obtain ⟨id, result, sent, rest, course⟩ := exists_course feed replies
    obtain ⟨k, rfl, kept⟩ := course.kept monitored ready
    obtain ⟨ended, asked, _⟩ := course.run_eq
    have nonempty : 2 ≤ k → ∀ id : Problem → Int,
        ((received address replies).map id).eraseDups ≠ [] :=
      fun second => ids_ne_nil (kept.nonempty second)
    cases result with
    | error fault =>
      have failed := kept.failed fault rfl
      have attributed := attributed_of_faultOf kept.first kept.last failed
      obtain ⟨rendered, quiet⟩ :=
        run_render_of_fault ended (reportable_of_ended monitored ended) origin
      rw [errorTable_of_attributed attributed] at rendered
      refine ⟨k, _, kept.first, kept.last, rendered, ?_, ?_, kept.earlier, ?_, ?_⟩
      · rw [quiet, asked, kept.asked]
      · exact fun second => ⟨nonempty second _, nonempty second _⟩
      · exact fun good => nomatch good
      · exact fun _ => ⟨fault, failed, rfl⟩
    | ok rows =>
      obtain ⟨rendered, quiet⟩ := run_render_of_rows ended origin
      refine ⟨k, _, kept.first, kept.last, rendered, ?_, ?_, kept.earlier, ?_, ?_⟩
      · rw [quiet, asked, kept.asked]
      · exact fun second => ⟨nonempty second _, nonempty second _⟩
      · exact fun _ => kept.answered rows rfl
      · exact fun bad => nomatch bad
  · intro unready
    obtain ⟨fault, log, attributed, one⟩ := run_askedProblems_of_unready monitored unready replies
    obtain ⟨ended, asked, _⟩ := (Course.problemsFailed one rfl).run_eq
    obtain ⟨rendered, quiet⟩ :=
      run_render_of_fault ended (reportable_of_ended monitored ended) origin
    refine ⟨by rw [quiet, asked], fault, ?_⟩
    rw [rendered]
    exact congrArg (fun table => Except.ok (_, table))
      (@errorTable_of_attributed fault 1 attributed origin)

/-! ### A client of the monitor -/

/-- A client with the usual settings, connected or not. -/
def usualClient (connected : Bool) : Client :=
  ⟨{}, connected⟩

/-- The feed of a client for a caller without a token. -/
def feedOf (client : Client) : Feed Reply Request where
  source := client.source
  token := none

theorem usual_ready :
    (usualClient true).Ready none
      { scheme := "http", host := "localhost", path := "/zabbix/api_jsonrpc.php" } where
  connected := rfl
  accepted := rfl
  named := rfl
  ascii := fun _ member => nomatch member

/-- Without any replies the first question fails, also if it is not even asked. -/
theorem usual_protocol :
    (∃ message, (((feedOf (usualClient true)).render "192.0.2.10").run []).result =
        .ok ({ feedOf (usualClient true) with lastRequestId := 1 },
          ⟨report message 1 "192.0.2.10", false, 0⟩) ∧
      (((feedOf (usualClient true)).render "192.0.2.10").run []).sent.length = 1) ∧
    (∃ message, (((feedOf (usualClient false)).render "192.0.2.10").run []).result =
        .ok ({ feedOf (usualClient false) with lastRequestId := 1 },
          ⟨report message 1 "192.0.2.10", false, 0⟩) ∧
      (((feedOf (usualClient false)).render "192.0.2.10").run []).sent = []) := by
  constructor
  · obtain ⟨k, table, first, _, rendered, asked, _, earlier, good, failed⟩ :=
      (render_protocol (usualClient true) (feedOf (usualClient true)) rfl [] "192.0.2.10").1 _
        usual_ready
    obtain rfl : k = 1 := by
      by_contra more
      exact nomatch earlier 1 (Nat.le_refl 1) (by omega)
    cases ok : table.ok with
    | true => exact nomatch (good ok).1
    | false =>
      obtain ⟨fault, _, rfl⟩ := failed ok
      exact ⟨_, rendered, by rw [asked]; rfl⟩
  · obtain ⟨quiet, fault, rendered⟩ :=
      (render_protocol (usualClient false) (feedOf (usualClient false)) rfl [] "192.0.2.10").2
        (Or.inl rfl)
    exact ⟨_, rendered, quiet⟩

end AlarmFeed.Feed
