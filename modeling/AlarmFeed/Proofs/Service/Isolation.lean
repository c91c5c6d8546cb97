/-
**Requests do not see each other.**

A `Visit` is a request with the replies that the monitor has for it. Served alone it takes some of
these (`Visit.consumed`). Served one after another with what each takes alone, all visits come to what
they come to alone, in any order and whichever of them failed (`answerAll_isolated`): a request takes the
replies to its own messages alone, and nothing else is handed on from one request to the next.

Only a `GET` on the route takes replies, at most three; whatever else is asked for is refused with a
status of its own (`Manner`).
-/

import AlarmFeed.Proofs.Service.Answer

namespace AlarmFeed

namespace Outcome

variable {ρ σ α : Type}

/-- What is seen of a run: its result, what was sent, and the log. -/
def seen (outcome : Outcome ρ σ α) : Except Fault α × List σ × List Log.Record :=
  (outcome.result, outcome.sent, outcome.log)

theorem seen_rest (outcome : Outcome ρ σ α) (more : List ρ) :
    { outcome with rest := more }.seen = outcome.seen := rfl

end Outcome

/-- A request and the replies that the monitor has for it. -/
structure Visit where
  request : WebRequest
  replies : List Reply

namespace Visit

variable {service : Service}

/-! ### One visit -/

/-- What a visit comes to when it is the only one. -/
def alone (service : Service) (visit : Visit) : Outcome Reply Request WebAnswer :=
  (service.answer visit.request).run visit.replies

/-- The replies that it takes then: those in front of the ones that are left. -/
def consumed (service : Service) (visit : Visit) : List Reply :=
  visit.replies.take (visit.replies.length - (visit.alone service).rest.length)

/-- The monitor has a reply to each message. -/
def Supplied (service : Service) (visit : Visit) : Prop :=
  (visit.alone service).sent.length ≤ visit.replies.length

/-- A visit takes one reply for each message. -/
theorem consumed_eq {visit : Visit} (supplied : visit.Supplied service) :
    visit.consumed service = visit.replies.take (visit.alone service).sent.length := by
  have left : (visit.alone service).rest = visit.replies.drop (visit.alone service).sent.length :=
    (service.contained_answer visit.request).closed.left visit.replies
  have few : (visit.alone service).sent.length ≤ visit.replies.length := supplied
  rw [consumed, left, List.length_drop, Nat.sub_sub_self few]

/-- **A visit that finds just what it takes alone**, with any replies behind it, comes to the same and
leaves those behind. -/
theorem run_consumed {visit : Visit} (supplied : visit.Supplied service) (more : List Reply) :
    (service.answer visit.request).run (visit.consumed service ++ more) =
      { visit.alone service with rest := more } := by
  have cut : visit.consumed service ++ visit.replies.drop (visit.alone service).sent.length =
      visit.replies := by
    rw [consumed_eq supplied, List.take_append_drop]
  have same : (visit.alone service).sent.length = (visit.consumed service).length := by
    rw [consumed_eq supplied, List.length_take_of_le supplied]
  have framed := (service.contained_answer visit.request).closed.framed (visit.consumed service)
    (visit.replies.drop (visit.alone service).sent.length) more
  rw [cut] at framed
  exact framed same

/-- Three replies do not run out. -/
theorem supplied_of_three {visit : Visit} (three : 3 ≤ visit.replies.length) :
    visit.Supplied service :=
  Nat.le_trans ((service.contained_answer visit.request).sends visit.replies).1 three

end Visit

namespace Service

/-! ### What is refused -/

/-- A request is refused with a status: nothing is sent and no reply is taken. -/
def Refused (status : Nat) (replies : List Reply) (outcome : Outcome Reply Request WebAnswer) : Prop :=
  (∃ answer, outcome.result = .ok answer ∧ answer.status = status) ∧
    outcome.sent = [] ∧ outcome.rest = replies

/-- **How a request is treated**: it is refused because of its head, its expectation, its path or its
method, and only a `GET` on the route takes replies, one for each of at most three messages. -/
structure Manner (service : Service) (request : WebRequest) (replies : List Reply)
    (outcome : Outcome Reply Request WebAnswer) : Prop where
  malformed : ∀ flaw, Head.read request.head = .error flaw → Refused 400 replies outcome
  unexpected : ∀ head, Head.read request.head = .ok head → head.Unexpected →
    Refused 417 replies outcome
  elsewhere : ∀ head, Head.read request.head = .ok head → ¬head.Unexpected →
    ¬service.route.serves head.path = true → Refused 404 replies outcome
  otherMethod : ∀ head, Head.read request.head = .ok head → ¬head.Unexpected →
    service.route.serves head.path = true → head.method ≠ "GET" →
    Refused 405 replies outcome ∧ ∃ answer, outcome.result = .ok answer ∧ answer.body = []
  few : outcome.sent.length ≤ 3
  taken : outcome.rest = replies.drop outcome.sent.length

theorem manner (service : Service) (request : WebRequest) (replies : List Reply) :
    service.Manner request replies ((service.answer request).run replies) where
  malformed flaw read := by
    rw [run_answer_of_malformed read]
    exact ⟨⟨_, rfl, rfl⟩, rfl, rfl⟩
  unexpected head read unexpected := by
    rw [run_answer_of_unexpected read unexpected]
    exact ⟨⟨_, rfl, head.shown_status _⟩, rfl, rfl⟩
  elsewhere head read expected elsewhere := by
    rw [run_answer_of_elsewhere read expected elsewhere]
    exact ⟨⟨_, rfl, head.shown_status _⟩, rfl, rfl⟩
  otherMethod head read expected served other := by
    rw [run_answer_of_otherMethod read expected served other]
    exact ⟨⟨⟨_, rfl, head.shown_status _⟩, rfl, rfl⟩, _, rfl, head.shown_notAllowed_body⟩
  few := ((service.contained_answer request).sends replies).1
  taken := (service.contained_answer request).closed.left replies

/-! ### Visits one after another -/

/-- Visits that are served one after another, each with what it takes alone, come to what they come to
alone. -/
theorem answerAll_consumed {service : Service} {visits : List Visit}
    (supplied : ∀ visit ∈ visits, visit.Supplied service) :
    (service.answerAll (visits.map Visit.request) (visits.flatMap (Visit.consumed service))).map
        Outcome.seen =
      visits.map fun visit => (visit.alone service).seen := by
  induction visits with
  | nil => rfl
  | cons visit visits ih =>
    obtain ⟨first, later⟩ := List.forall_mem_cons.mp supplied
    rw [List.map_cons, List.flatMap_cons, answerAll]
    rw [Visit.run_consumed first, List.map_cons, List.map_cons, Outcome.seen_rest, ih later]

/-- **Requests do not see each other.** Visits whose replies do not run out come, served one after
another in any order with what each takes alone, to what each comes to alone: the same result, the same
messages, the same log. Whatever is not a `GET` on the route is refused without taking a reply, and a
`GET` takes at most three. -/
theorem answerAll_isolated (service : Service) (visits : List Visit)
    (supplied : ∀ visit ∈ visits, visit.Supplied service) :
    (∀ order : List Visit, order.Perm visits →
      (service.answerAll (order.map Visit.request) (order.flatMap (Visit.consumed service))).map
          Outcome.seen =
        order.map fun visit => (visit.alone service).seen) ∧
    ∀ (request : WebRequest) (replies : List Reply),
      service.Manner request replies ((service.answer request).run replies) :=
  ⟨fun _ same => answerAll_consumed fun visit member => supplied visit (same.subset member),
    service.manner⟩

/-- Three replies that are of no use. -/
def failures : List Reply :=
  [.answer 500 [], .undelivered .readTimeout "timed out", .broken .runtime "broken"]

/-- A `GET`, a `POST` and another `GET`. -/
def threeVisits : List Visit :=
  [⟨{}, failures⟩, ⟨{ method := "POST" }, failures⟩, ⟨{ remote := some "192.0.2.10" }, failures⟩]

/-- In reverse order they are answered the same, in reverse order. -/
theorem isolated_thrice :
    (∀ visit ∈ threeVisits, visit.Supplied usual) ∧
    ∃ answers : List (Except Fault WebAnswer × List Request × List Log.Record),
      (usual.answerAll (threeVisits.map Visit.request)
          (threeVisits.flatMap (Visit.consumed usual))).map Outcome.seen = answers ∧
      (usual.answerAll (threeVisits.reverse.map Visit.request)
          (threeVisits.reverse.flatMap (Visit.consumed usual))).map Outcome.seen =
        answers.reverse := by
  have supplied : ∀ visit ∈ threeVisits, visit.Supplied usual := by
    intro visit member
    simp only [threeVisits, List.mem_cons, List.not_mem_nil, or_false] at member
    rcases member with rfl | rfl | rfl <;> exact Visit.supplied_of_three (Nat.le_refl 3)
  have isolated := (answerAll_isolated usual threeVisits supplied).1
  refine ⟨supplied, _, isolated _ (List.Perm.refl _), ?_⟩
  rw [isolated _ (List.reverse_perm _), List.map_reverse]

/-- A `POST` on the route whose expectation is not known. -/
def expecting : WebRequest where
  method := "POST"
  headers := [("Expect", "nonsense")]

/-- **An expectation goes before the method**: not every other method on the route is refused with
status 405. -/
theorem not_every_other_method_405 :
    ¬∀ (service : Service) (request : WebRequest) (head : Head) (replies : List Reply),
      Head.read request.head = .ok head → service.route.serves head.path = true →
      head.method ≠ "GET" →
      ∃ answer, ((service.answer request).run replies).result = .ok answer ∧ answer.status = 405 := by
  intro claimed
  have read : Head.read expecting.head = .ok ⟨"POST", "/api_csv.php", [("Expect", "nonsense")]⟩ :=
    Head.read_eq_ok (by decide +kernel)
  obtain ⟨answer, answered, refused⟩ := claimed usual expecting _ [] read rfl (by decide)
  rw [run_answer_of_unexpected read (by decide)] at answered
  obtain rfl := Except.ok.inj answered
  rw [Head.shown_status] at refused
  exact absurd refused (by decide)

end Service

end AlarmFeed
