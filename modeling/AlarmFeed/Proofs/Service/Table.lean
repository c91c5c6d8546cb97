/-
**When a request is answered by a table.**

A `GET` on the route is answered by a table as text/csv with its length announced (`Tabular`), whatever
the monitor replies and whatever the client is like, except in two cases (`Fails`), which become status
500: the choice of the token gets stuck, or what should be written into the error table has no bytes.
`answer_table_iff` — there is no third case, and no case without an answer.
-/

import AlarmFeed.Proofs.Feed.Carried
import AlarmFeed.Proofs.Service.Answer

namespace AlarmFeed.Service

open Exchange

/-- **An answer carries a table**: the alarm table, nothing if there are no rows, or the error table. -/
structure Tabular (origin : Text) (answer : WebAnswer) : Prop where
  status : answer.status = 200
  contentType : answer.contentType = some "text/csv; charset=utf-8"
  contentLength : answer.contentLength = some (Utf8.encode answer.body).length
  body : answer.body = [] ∨ (∃ row rows, answer.body = Table.writeRows (row :: rows)) ∨
    ∃ message id, answer.body = Table.writeError message (.int id) origin 1

/-- The questions that are asked for a caller. -/
def feedFor (service : Service) (origin : Text) (head : Head) : Feed Reply Request where
  source := service.client.source
  token := Credential.chosen head.bearer origin service.auth

/-- **Serving fails**: the choice of the token gets stuck, or the questions end in what cannot be
written. -/
def Fails (service : Service) (origin : Text) (head : Head) (replies : List Reply) : Prop :=
  Credential.Impeded head.bearer origin service.auth ∨
    (service.feedFor origin head).Unwritable origin replies

/-! ### The handler -/

theorem result_answerTable_of_scalar {table : AlarmTable} (carried : table.body.Scalar)
    (replies : List Reply) :
    ((answerTable table).run replies).result = .ok (WebAnswer.ofTable table) := by
  unfold answerTable
  rw [Text.unencodable?_utf8.mpr carried]
  rfl

theorem result_answerTable_of_not_scalar {table : AlarmTable} (refused : ¬table.body.Scalar)
    (replies : List Reply) :
    ∃ fault, ((answerTable table).run replies).result = .error fault := by
  unfold answerTable
  cases found : Charset.utf8.unencodable? table.body with
  | none => exact absurd (Text.unencodable?_utf8.mp found) refused
  | some run => exact ⟨.unencodable run, rfl⟩

theorem sent_answerTable (table : AlarmTable) (replies : List Reply) :
    ((answerTable table).run replies).sent = [] := by
  unfold answerTable
  cases Charset.utf8.unencodable? table.body <;> rfl

section Handler

variable {service : Service} {origin : Text} {head : Head}

/-- The choice of the token that gets stuck fails the handler. -/
theorem result_answerHere_of_impeded (get : head.method = "GET")
    (impeded : Credential.Impeded head.bearer origin service.auth) (replies : List Reply) :
    ∃ fault, ((service.answerHere origin head).run replies).result = .error fault := by
  obtain ⟨run, stuck⟩ := Credential.resolve_of_impeded impeded
  unfold answerHere
  rw [if_neg (not_not.mpr get), stuck]
  exact ⟨.unencodable run, rfl⟩

/-- Otherwise the handler answers the table that is made for the caller. -/
theorem run_answerHere (get : head.method = "GET")
    (free : ¬Credential.Impeded head.bearer origin service.auth) (replies : List Reply) :
    (service.answerHere origin head).run replies =
      ((service.feedFor origin head).render origin >>= fun rendered => answerTable rendered.2).run
        replies := by
  unfold answerHere
  rw [if_neg (not_not.mpr get), Credential.resolve_eq free, run_ofExcept_ok_bind, ← feedFor]

theorem result_answerHere_of_table (get : head.method = "GET")
    (free : ¬Credential.Impeded head.bearer origin service.auth) {replies : List Reply}
    {after : Feed Reply Request} {table : AlarmTable}
    (rendered : (((service.feedFor origin head).render origin).run replies).result = .ok (after, table)) :
    ((service.answerHere origin head).run replies).result =
      ((answerTable table).run
        (((service.feedFor origin head).render origin).run replies).rest).result := by
  rw [run_answerHere get free, run_bind_of_ok rendered]

/-- Nothing is sent but what the table is made from. -/
theorem sent_answerHere_of_table (get : head.method = "GET")
    (free : ¬Credential.Impeded head.bearer origin service.auth) {replies : List Reply}
    {after : Feed Reply Request} {table : AlarmTable}
    (rendered : (((service.feedFor origin head).render origin).run replies).result = .ok (after, table)) :
    ((service.answerHere origin head).run replies).sent =
      (((service.feedFor origin head).render origin).run replies).sent := by
  rw [run_answerHere get free, run_bind_of_ok rendered]
  dsimp only
  rw [sent_answerTable, List.append_nil]

end Handler

/-! ### The answer -/

theorem status_settled_of_error (head : Head) (fault : Fault) :
    (settled head (.error fault)).status = 500 := by
  rw [settled, WebAnswer.broken]
  split <;> rfl

/-- **A `GET` on the route is always answered**: by the table that was made for the caller, as a table,
unless serving fails, and by status 500 if it does. -/
theorem answer_table_iff (service : Service) (request : WebRequest) (head : Head)
    (read : Head.read request.head = .ok head) (get : head.method = "GET")
    (served : service.route.serves head.path = true) (expected : ¬head.Unexpected)
    (replies : List Reply) :
    ∃ answer, ((service.answer request).run replies).result = .ok answer ∧
      (¬service.Fails request.origin head replies →
        Tabular request.origin answer ∧
        ∃ after table, (((service.feedFor request.origin head).render request.origin).run
          replies).result = .ok (after, table) ∧ answer = WebAnswer.ofTable table) ∧
      (service.Fails request.origin head replies → answer.status = 500) := by
  refine ⟨settled head ((service.answerHere request.origin head).run replies).result, ?_, ?_, ?_⟩
  · rw [run_answer_of_served read expected served, Head.shown_of_get get]
  · intro free
    obtain ⟨after, table, rendered, carried, form⟩ :=
      Feed.exists_table (service.feedFor request.origin head) rfl request.origin replies
    have scalar := carried.mpr fun unwritable => free (Or.inr unwritable)
    rw [result_answerHere_of_table get (fun impeded => free (Or.inl impeded)) rendered,
      result_answerTable_of_scalar scalar]
    exact ⟨⟨rfl, rfl, congrArg some (Utf8.length_eq table.body), form⟩, after, table, rendered, rfl⟩
  · intro failing
    have broken : ∃ fault, ((service.answerHere request.origin head).run replies).result =
        .error fault := by
      by_cases impeded : Credential.Impeded head.bearer request.origin service.auth
      · exact result_answerHere_of_impeded get impeded replies
      · obtain ⟨after, table, rendered, carried, _⟩ :=
          Feed.exists_table (service.feedFor request.origin head) rfl request.origin replies
        rw [result_answerHere_of_table get impeded rendered]
        exact result_answerTable_of_not_scalar
          (fun scalar => carried.mp scalar (failing.resolve_left impeded)) _
    obtain ⟨fault, failed⟩ := broken
    rw [failed]
    exact status_settled_of_error head fault

/-! ### Two callers -/

/-- A `GET` of a caller without a token. -/
def plain : WebRequest where
  remote := some "192.0.2.10"

theorem read_plain : Head.read plain.head = .ok ⟨"GET", "/api_csv.php", []⟩ :=
  Head.read_eq_ok (by decide +kernel)

/-- The reply of a monitor without open problems. -/
def nothingOpen : Reply :=
  .answer 200 (Utf8.encode "\x7b\"result\":[]\x7d")

/-- It is served as a table. -/
theorem plain_tabular :
    ∃ answer, ((usual.answer plain).run [nothingOpen]).result = .ok answer ∧
      Tabular "192.0.2.10" answer := by
  obtain ⟨answer, answered, tabular, _⟩ := answer_table_iff usual plain _ read_plain rfl (by decide)
    (by decide) [nothingOpen]
  refine ⟨answer, answered, (tabular ?_).1⟩
  rintro (⟨own, known, _⟩ | ⟨after, fault, ended, _⟩)
  · cases known
  · have rows : ((usual.feedFor plain.origin ⟨"GET", "/api_csv.php", []⟩).buildRows.run
        [nothingOpen]).result.toOption.map (fun ended => ended.2.isOk) = some true := by
      decide +kernel
    rw [ended] at rows
    exact nomatch rows

/-- The reply of a monitor whose own words are a surrogate. -/
def surrogate : Reply :=
  .answer 200 (Utf8.encode "\x7b\"error\":\x7b\"data\":\"\\ud800\"\x7d\x7d")

/-- **Not every `GET` is answered by a table**: the monitor's own words may hold a surrogate. -/
theorem not_every_get_tabular :
    ¬∀ (service : Service) (request : WebRequest) (head : Head) (replies : List Reply),
      Head.read request.head = .ok head → head.method = "GET" →
      service.route.serves head.path = true → ¬head.Unexpected →
      ∃ answer, ((service.answer request).run replies).result = .ok answer ∧
        Tabular request.origin answer := by
  intro claimed
  obtain ⟨answer, answered, tabular⟩ :=
    claimed usual plain _ [surrogate] read_plain rfl (by decide) (by decide)
  have broken : ((usual.answer plain).run [surrogate]).result.toOption.map WebAnswer.status =
      some 500 := by decide +kernel
  rw [answered] at broken
  exact absurd ((Option.some.inj broken).symm.trans tabular.status) (by decide)

end AlarmFeed.Service
