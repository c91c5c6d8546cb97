/-
**What the service makes of a request.**

A request is settled at once, with nothing sent and no reply taken, unless it is a `GET` on the route:

* `run_answer_of_malformed` — its head cannot be read;
* `run_answer_of_unexpected` — it expects what is not known;
* `run_answer_of_elsewhere` — its path is not served;
* `run_answer_of_otherMethod` — its method is not allowed.

`run_answer_of_served` — on the route it is answered by what the handler comes to (`settled`), which is
status 500 if the handler fails. In all cases at most three messages are sent, with the authorization
that is chosen for the caller, and the replies to those alone are taken (`contained_answer`).
-/

import AlarmFeed.Proofs.Credential
import AlarmFeed.Proofs.Feed.Frame
import AlarmFeed.Service

namespace AlarmFeed

open Exchange

namespace Head

/-- Of a head it can be computed how it is read. -/
theorem read_eq_ok {t : Text} {head : Head} (computed : (read t).toOption = some head) :
    read t = .ok head := by
  cases found : read t with
  | error flaw =>
    rw [found] at computed
    cases computed
  | ok other =>
    rw [found] at computed
    exact congrArg Except.ok (Option.some.inj computed)

/-- The request expects what is not known. -/
def Unexpected (head : Head) : Prop :=
  head.header "expect" ≠ [] ∧ (head.header "expect").lower ≠ "100-continue"

instance (head : Head) : Decidable head.Unexpected :=
  inferInstanceAs (Decidable (_ ∧ _))

/-- What of an answer goes out to a request: its head alone if no more was asked for. -/
def shown (head : Head) (answer : WebAnswer) : WebAnswer :=
  if head.method = "HEAD" then answer.headOnly else answer

theorem shown_status (head : Head) (answer : WebAnswer) : (head.shown answer).status = answer.status := by
  rw [shown]
  split <;> rfl

theorem shown_notAllowed_body (head : Head) : (head.shown WebAnswer.notAllowed).body = [] := by
  rw [shown]
  split <;> rfl

theorem shown_of_get {head : Head} (get : head.method = "GET") (answer : WebAnswer) :
    head.shown answer = answer := by
  have other : head.method ≠ "HEAD" := by
    rw [get]
    decide
  rw [shown, if_neg other]

end Head

namespace Service

/-- The context in which a request is served. -/
def context (origin : Text) (head : Head) : Members :=
  [("origin", .text origin), ("method", .text head.method)]

variable {service : Service} {request : WebRequest} {origin : Text} {head : Head}

/-! ### Requests that are settled at once -/

theorem run_answer_of_malformed {flaw : HeadFlaw} (refused : Head.read request.head = .error flaw)
    (replies : List Reply) :
    (service.answer request).run replies = ⟨.ok (WebAnswer.malformed flaw), [], replies, []⟩ := by
  unfold answer
  rw [refused]
  exact run_pure _ _

/-- What the rest of the service makes of a head goes out as the head asks. -/
theorem run_answer_of_read (read : Head.read request.head = .ok head) (replies : List Reply) :
    (service.answer request).run replies =
      { (service.answerHead request.origin head).run replies with
        result := ((service.answerHead request.origin head).run replies).result.map head.shown } := by
  unfold answer
  rw [read]
  dsimp only
  cases ended : ((service.answerHead request.origin head).run replies).result with
  | error fault => exact run_bind_of_error ended
  | ok full =>
    rw [run_bind_of_ok ended, run_pure]
    simp only [List.append_nil]
    rfl

theorem answerHead_of_unexpected (unexpected : head.Unexpected) :
    service.answerHead origin head = pure (WebAnswer.unexpected (head.header "expect")) :=
  if_pos unexpected

theorem answerHead_of_elsewhere (expected : ¬head.Unexpected)
    (elsewhere : ¬service.route.serves head.path = true) :
    service.answerHead origin head = pure WebAnswer.notFound :=
  (if_neg expected).trans (if_neg elsewhere)

/-- What goes out when the handler comes to a result. -/
def settled (head : Head) : Except Fault WebAnswer → WebAnswer
  | .ok answer => answer
  | .error _ => WebAnswer.broken (Text.holds "text/html" (head.header "accept"))

/-- The handler in the context of a request, with an answer whatever it comes to. -/
def handle (service : Service) (origin : Text) (head : Head) : Talk WebAnswer := do
  match ← ((service.answerHere origin head).within (context origin head)).attempt with
  | .ok answer => return answer
  | .error _ => return WebAnswer.broken (Text.holds "text/html" (head.header "accept"))

theorem answerHead_of_served (expected : ¬head.Unexpected)
    (served : service.route.serves head.path = true) :
    service.answerHead origin head = service.handle origin head :=
  (if_neg expected).trans (if_pos served)

theorem run_handle (replies : List Reply) :
    (service.handle origin head).run replies =
      { (service.answerHere origin head).run replies with
        result := .ok (settled head ((service.answerHere origin head).run replies).result)
        log := ((service.answerHere origin head).run replies).log.map
          (Log.Record.within (context origin head)) } := by
  rw [handle, run_bind, run_attempt, run_within]
  dsimp only
  cases ((service.answerHere origin head).run replies).result with
  | error fault => simp only [run_pure, List.append_nil, settled]
  | ok answer => simp only [run_pure, List.append_nil, settled]

section Read

variable (read : Head.read request.head = .ok head)
include read

theorem run_answer_of_unexpected (unexpected : head.Unexpected) (replies : List Reply) :
    (service.answer request).run replies =
      ⟨.ok (head.shown (WebAnswer.unexpected (head.header "expect"))), [], replies, []⟩ := by
  rw [run_answer_of_read read, answerHead_of_unexpected unexpected, run_pure]
  rfl

theorem run_answer_of_elsewhere (expected : ¬head.Unexpected)
    (elsewhere : ¬service.route.serves head.path = true) (replies : List Reply) :
    (service.answer request).run replies =
      ⟨.ok (head.shown WebAnswer.notFound), [], replies, []⟩ := by
  rw [run_answer_of_read read, answerHead_of_elsewhere expected elsewhere, run_pure]
  rfl

/-- **A request on the route** is answered by what the handler comes to. -/
theorem run_answer_of_served (expected : ¬head.Unexpected)
    (served : service.route.serves head.path = true) (replies : List Reply) :
    (service.answer request).run replies =
      { (service.answerHere request.origin head).run replies with
        result := .ok (head.shown
          (settled head ((service.answerHere request.origin head).run replies).result))
        log := ((service.answerHere request.origin head).run replies).log.map
          (Log.Record.within (context request.origin head)) } := by
  rw [run_answer_of_read read, answerHead_of_served expected served, run_handle]
  rfl

theorem run_answer_of_otherMethod (expected : ¬head.Unexpected)
    (served : service.route.serves head.path = true) (other : head.method ≠ "GET")
    (replies : List Reply) :
    (service.answer request).run replies =
      ⟨.ok (head.shown WebAnswer.notAllowed), [], replies,
        [Log.Record.within (context request.origin head) ⟨.info, "csv_request_rejected", []⟩]⟩ := by
  have rejected : service.answerHere request.origin head =
      (do note .info "csv_request_rejected" []; return WebAnswer.notAllowed) := if_pos other
  rw [run_answer_of_served read expected served, rejected, run_note_bind, run_pure]
  rfl

end Read

/-! ### Messages and replies -/

/-- A message presents the authorization that is chosen for the caller. -/
def Authorized (service : Service) (request : WebRequest) (message : Request) : Prop :=
  ∃ head, Head.read request.head = .ok head ∧
    service.client.Presents
      (Credential.chosen head.bearer request.origin service.auth) message

theorem contained_answerTable {allowed : Request → Prop} (table : AlarmTable) :
    (answerTable table).Contained 0 allowed := by
  unfold answerTable
  split
  · exact contained_fail _
  · exact contained_note_bind (contained_pure _)

theorem contained_answerHere (service : Service) (origin : Text) (head : Head) :
    (service.answerHere origin head).Contained 3
      (service.client.Presents (Credential.chosen head.bearer origin service.auth)) := by
  unfold answerHere
  split
  · exact contained_note_bind (contained_pure _)
  · refine contained_ofExcept_bind fun token made => ?_
    obtain rfl := Credential.eq_chosen_of_resolve made
    exact (Feed.contained_render (Feed.asks_client _ _) origin).bind_quiet fun _ =>
      contained_answerTable _

theorem contained_answerHead (service : Service) (origin : Text) (head : Head) :
    (service.answerHead origin head).Contained 3
      (service.client.Presents (Credential.chosen head.bearer origin service.auth)) := by
  by_cases unexpected : head.Unexpected
  · rw [answerHead_of_unexpected unexpected]
    exact contained_pure _
  · by_cases served : service.route.serves head.path = true
    · rw [answerHead_of_served unexpected served, handle]
      have here := (contained_answerHere service origin head).within (context origin head)
      refine here.attempt.bind_quiet fun result => ?_
      cases result with
      | error fault => exact contained_pure _
      | ok answer => exact contained_pure _
    · rw [answerHead_of_elsewhere unexpected served]
      exact contained_pure _

/-- **At most three messages are sent for a request**, with the authorization for the caller, and the
replies to those alone are taken. -/
theorem contained_answer (service : Service) (request : WebRequest) :
    (service.answer request).Contained 3 (service.Authorized request) := by
  unfold answer
  cases read : Head.read request.head with
  | error flaw => exact contained_pure _
  | ok head =>
    have sent := (contained_answerHead service request.origin head).allow
      fun message good => (⟨head, read, good⟩ : service.Authorized request message)
    exact sent.bind_quiet fun full => contained_pure _

/-! ### The usual service -/

/-- A service over a connected client, with the usual settings. -/
def usual : Service where
  client := { settings := {}, connected := true }

end Service

end AlarmFeed
