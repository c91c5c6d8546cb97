/-
**The command and the service agree.**

The command prints the table that the service serves. It takes its token from an option or from the
environment (`Invoked`), the service takes it from a header and chooses by its rules (`Asked`), and each
has a connection of its own. What both come to is decided by one feed, that of the caller over a connected
client (`callersFeed`):

* `run_invoked` — the command sends what that feed sends, and prints the table that it makes;
* `run_asked` — the service sends the same, and serves the same table;
* `agrees_with_service` — so the two agree on every script of replies, also where the table has no bytes
  (`Agrees`). A token that is too long for its header never comes to the service, and is the one that the
  command alone can use (`not_every_token_agrees`).
-/

import AlarmFeed.Command.Serve
import AlarmFeed.Proofs.Command.Options
import AlarmFeed.Proofs.Feed.Carried
import AlarmFeed.Proofs.Feed.Redaction
import AlarmFeed.Proofs.Feed.Unambiguous
import AlarmFeed.Proofs.Log.Setup
import AlarmFeed.Proofs.Service.Asking
import AlarmFeed.Proofs.Service.Table

namespace AlarmFeed

open Exchange

namespace Fetch

/-! ### What both come to -/

/-- The questions for a caller over a connected client. -/
def callersFeed (settings : Settings) (caller : Option Text) : Feed Reply Request where
  source := Client.source { settings := settings.monitor, connected := true }
  token := caller

/-- **The command is called** with options that have their values, and finds settings and a caller's
token. -/
structure Invoked (environment : Environment) (options : Fields Text) (settings : Settings)
    (caller : Option Text) : Prop where
  written : environment.arguments = options.map Options.attached
  known : ∀ option ∈ options, option.1 ∈ names
  loaded : Settings.load environment.files (Fields.get? "--config" (Fields.ofPairs options)) =
    .ok settings
  level : ∀ level ∈ Fields.get? "--log-level" (Fields.ofPairs options), Log.IsStandard level
  token : token environment (Fields.ofPairs options) = caller

/-- **The service is asked** by a `GET` of the local host that brings the caller's token. -/
structure Asked (service : Service) (settings : Settings) (request : WebRequest) (head : Head)
    (caller : Option Text) : Prop where
  started : ∃ replies, ((Serve.start settings).run replies).result = .ok service
  read : Head.read request.head = .ok head
  get : head.method = "GET"
  served : service.route.serves head.path = true
  expected : ¬head.Unexpected
  remote : request.remote = some origin
  brings : head.Brings caller

/-- **No rule stands in the way**: a token is passed on, none of the rules is for the caller, and those
that list the local host can be compared with. -/
structure Unruled (settings : Settings) (caller : Option Text) : Prop where
  forwarded : settings.auth.forwardBearer = true
  unmatched : ∀ token ∈ caller, ∀ rule ∈ settings.auth.overrides, ¬Credential.IsFor token origin rule
  comparable : ∀ token ∈ caller, ∀ rule ∈ settings.auth.overrides, origin ∈ rule.allowedAddresses →
    rule.bearer.content.Scalar

/-- **The command and the service agree**: they send the same, and what the one prints, if it has bytes, is
what the other serves; the status of the command says which of the two tables it is. Only an error table can
be without bytes, and breaks off the one as well as the other. -/
structure Agrees (settings : Settings) (caller : Option Text) (replies : List Reply) (report : Report)
    (outcome : Outcome Reply Request WebAnswer) : Prop where
  sent : report.sent = outcome.sent
  table : ∃ after table, (((callersFeed settings caller).render origin).run replies).result =
      .ok (after, table) ∧
    (table.body.Scalar → outcome.result = .ok (WebAnswer.ofTable table) ∧ report.output = table.body ∧
      report.status = .ok (if Table.isError table.body then 1 else 0)) ∧
    (¬table.body.Scalar → Table.isError table.body = true ∧ report.output = [] ∧
      (∃ fault, report.status = .error fault) ∧
      ∃ answer, outcome.result = .ok answer ∧ answer.status = 500)

section Agreeing

variable {environment : Environment} {options : Fields Text} {settings : Settings}
  {caller : Option Text} {replies : List Reply} {after : Feed Reply Request} {table : AlarmTable}

/-! ### The command -/

theorem run_table
    (rendered : (((callersFeed settings caller).render origin).run replies).result = .ok (after, table)) :
    ((Fetch.table settings.monitor caller).run replies).result = .ok table ∧
      ((Fetch.table settings.monitor caller).run replies).sent =
        (((callersFeed settings caller).render origin).run replies).sent := by
  have opened : (Client.connect { settings := settings.monitor }).run replies =
      ⟨.ok { settings := settings.monitor, connected := true }, [], replies,
        [⟨.info, "zabbix_client_connected", [("url", .text settings.monitor.url)]⟩]⟩ := rfl
  have closed : ∀ rest, ((do
      let _ ← ({ settings := settings.monitor, connected := true } : Client).close
      return table : Talk AlarmTable).run rest).sent = [] := fun _ => rfl
  rw [callersFeed] at rendered ⊢
  rw [Fetch.table, run_bind, opened]
  dsimp only
  rw [run_bind_of_ok rendered]
  dsimp only
  rw [closed, List.append_nil, List.nil_append]
  exact ⟨rfl, rfl⟩

/-- **The command sends what the feed sends**, and prints its table if it has bytes. -/
theorem run_invoked (invoked : Invoked environment options settings caller)
    (rendered : (((callersFeed settings caller).render origin).run replies).result = .ok (after, table)) :
    (run environment replies).sent = (((callersFeed settings caller).render origin).run replies).sent ∧
      (table.body.Scalar → (run environment replies).output = table.body ∧
        (run environment replies).status = .ok (if table.ok then 0 else 1)) ∧
      (¬table.body.Scalar → (run environment replies).output = [] ∧
        ∃ fault, (run environment replies).status = .error fault) := by
  obtain ⟨made, sent⟩ := run_table rendered
  have standard : Log.IsStandard
      ((Fields.get? "--log-level" (Fields.ofPairs options)).getD defaultLevel) := by
    cases chosen : Fields.get? "--log-level" (Fields.ofPairs options) with
    | none => exact ⟨("WARNING", 30), by decide, by decide⟩
    | some level => exact invoked.level level chosen
  obtain ⟨setup, applied⟩ := Log.Setup.apply_of_standard standard {} settings.log
  rw [run_attached invoked.written invoked.known, runWith, invoked.loaded]
  dsimp only
  rw [applied, invoked.token]
  dsimp only
  rw [made, sent]
  dsimp only
  refine ⟨rfl, fun scalar => ?_, fun refused => ?_⟩
  · rw [printed, Text.unencodable?_utf8.mpr scalar]
    exact ⟨rfl, rfl⟩
  · rw [printed]
    cases found : Charset.utf8.unencodable? table.body with
    | none => exact absurd (Text.unencodable?_utf8.mp found) refused
    | some run => exact ⟨rfl, _, rfl⟩

/-! ### The service -/

/-- The service that is started is one over a connected client. -/
theorem service_of_started {service : Service} {replies : List Reply}
    (started : ((Serve.start settings).run replies).result = .ok service) :
    service.client = { settings := settings.monitor, connected := true } ∧
      service.auth = settings.auth := by
  have result : ((Serve.start settings).run replies).result =
      (Route.read settings.server.path).map fun route =>
        ⟨{ settings := settings.monitor, connected := true }, settings.auth, route⟩ := by
    unfold Serve.start Service.start
    cases Route.read settings.server.path <;> rfl
  rw [result] at started
  cases route : Route.read settings.server.path with
  | error fault =>
    rw [route] at started
    cases started
  | ok _ =>
    rw [route] at started
    obtain rfl := Except.ok.inj started
    exact ⟨rfl, rfl⟩

section Ruled

variable (unruled : Unruled settings caller)
include unruled

/-- The choice of the token does not get stuck. -/
theorem Unruled.not_impeded (printable : ∀ token ∈ caller, token.Token) :
    ¬Credential.Impeded caller origin settings.auth := by
  cases caller with
  | none => exact fun ⟨_, known, _⟩ => nomatch known
  | some token =>
    refine Credential.not_impeded (fun own known => ?_) (unruled.comparable token rfl)
    obtain rfl := Option.some.inj known
    exact (printable _ rfl).scalar

/-- It falls on the caller's own. -/
theorem Unruled.chosen_eq : Credential.chosen caller origin settings.auth = caller := by
  cases caller with
  | none => rfl
  | some token =>
    have none : Credential.matching? token origin settings.auth.overrides = none :=
      List.find?_eq_none.mpr fun rule member => by
        rw [decide_eq_true_iff]
        exact unruled.unmatched token rfl rule member
    rw [Credential.chosen, none]
    exact if_pos unruled.forwarded

end Ruled

/-- **The service sends what the feed sends**, and serves its table if it has bytes. -/
theorem run_asked {service : Service} {request : WebRequest} {head : Head}
    (asked : Asked service settings request head caller) (unruled : Unruled settings caller)
    (printable : ∀ token ∈ caller, token.Token)
    (rendered : (((callersFeed settings caller).render origin).run replies).result = .ok (after, table)) :
    ((service.answer request).run replies).sent =
        (((callersFeed settings caller).render origin).run replies).sent ∧
      (table.body.Scalar →
        ((service.answer request).run replies).result = .ok (WebAnswer.ofTable table)) ∧
      (¬table.body.Scalar →
        ∃ answer, ((service.answer request).run replies).result = .ok answer ∧ answer.status = 500) := by
  obtain ⟨_, started⟩ := asked.started
  obtain ⟨client, auth⟩ := service_of_started started
  have from_here : request.origin = origin := by rw [WebRequest.origin, asked.remote, Option.getD_some]
  have bearer : head.bearer = caller := asked.brings.bearer_eq printable
  have free : ¬Credential.Impeded head.bearer origin service.auth := by
    rw [bearer, auth]
    exact unruled.not_impeded printable
  have feed : service.feedFor origin head = callersFeed settings caller := by
    rw [Service.feedFor, callersFeed, client, auth, bearer, unruled.chosen_eq]
  rw [← feed] at rendered ⊢
  rw [Service.run_answer_of_served asked.read asked.expected asked.served, from_here,
    Head.shown_of_get asked.get]
  dsimp only
  refine ⟨Service.sent_answerHere_of_table asked.get free rendered, fun scalar => ?_, fun refused => ?_⟩
  · rw [Service.result_answerHere_of_table asked.get free rendered,
      Service.result_answerTable_of_scalar scalar]
    rfl
  · obtain ⟨fault, failed⟩ := Service.result_answerTable_of_not_scalar refused
      (((service.feedFor origin head).render origin).run replies).rest
    rw [Service.result_answerHere_of_table asked.get free rendered, failed]
    exact ⟨_, rfl, Service.status_settled_of_error head fault⟩

/-! ### Both -/

/-- The feed makes a table in any case: its first line says which of the two it is, and only the error table
can be without bytes. -/
theorem exists_rendered (settings : Settings) (caller : Option Text) (replies : List Reply) :
    ∃ after table, (((callersFeed settings caller).render origin).run replies).result =
        .ok (after, table) ∧
      table.ok = (!Table.isError table.body) ∧
      (¬table.body.Scalar → table.ok = false) := by
  obtain ⟨id, result, _, _, course⟩ := (callersFeed settings caller).exists_course replies
  have ended := course.run_eq.1
  have monitored : (callersFeed settings caller).source =
      Client.source { settings := settings.monitor, connected := true } := rfl
  cases result with
  | error fault =>
    exact ⟨_, _,
      (Feed.run_render_of_fault ended (Feed.reportable_of_ended monitored ended) origin).1,
      (Feed.tells_errorTable ended origin id).ok_eq, fun _ => rfl⟩
  | ok rows =>
    exact ⟨_, _, (Feed.run_render_of_rows ended origin).1, (Feed.tells_rows course).ok_eq,
      fun refused => absurd course.scalar_writeRows refused⟩

theorem agrees_of_asked {service : Service} {request : WebRequest} {head : Head}
    (invoked : Invoked environment options settings caller) (unruled : Unruled settings caller)
    (printable : ∀ token ∈ caller, token.Token)
    (asked : Asked service settings request head caller) (replies : List Reply) :
    Agrees settings caller replies (run environment replies)
      ((service.answer request).run replies) := by
  obtain ⟨after, table, rendered, form, bad⟩ := exists_rendered settings caller replies
  obtain ⟨sent, printed, unprinted⟩ := run_invoked invoked rendered
  obtain ⟨sent', served, broken⟩ := run_asked asked unruled printable rendered
  refine ⟨sent.trans sent'.symm, after, table, rendered, fun scalar => ?_, fun refused => ?_⟩
  · obtain ⟨output, status⟩ := printed scalar
    refine ⟨served scalar, output, status.trans (congrArg Except.ok ?_)⟩
    rw [form]
    cases Table.isError table.body <;> rfl
  · obtain ⟨output, status⟩ := unprinted refused
    have failed : Table.isError table.body = true := by
      rw [← Bool.not_eq_false', ← form]
      exact bad refused
    exact ⟨failed, output, status, broken refused⟩

/-- A request with the header alone asks the service, if the header is not too long. -/
theorem asked_of_asking {service : Service} {target : Text} {head : Head}
    (started : ∃ replies, ((Serve.start settings).run replies).result = .ok service)
    (isPath : Head.IsPath target) (read : Head.read (asking origin target none).head = .ok head)
    (served : service.route.serves head.path = true) (printable : ∀ token ∈ caller, token.Token)
    (short : ∀ token ∈ caller, (bearerValue token).length ≤ Head.sizeLimit) :
    Asked service settings (asking origin target caller)
      { head with headers := bearerHeaders caller } caller where
  started := started
  read := Head.read_asking isPath read printable short
  get := by rw [Head.eq_of_read_bare isPath read]
  served := served
  expected := by
    rintro ⟨some, _⟩
    refine some ?_
    cases caller <;> rfl
  remote := rfl
  brings := Head.brings_bearerHeaders head caller

/-- **The command and the service agree.** The command is called with its options and a caller's token,
and a service is started with the same settings, by which the token of a caller at the local host is
passed on. If the service is asked by a `GET` that brings the token, both send the same, on every script of
replies; the command prints what the service serves, and nothing else, and its status is 1 for an error
table and 0 for any other. That `GET` can have the header of the token alone, as long as the value of the
header is not too long. -/
theorem agrees_with_service (environment : Environment) (options : Fields Text) (settings : Settings)
    (caller : Option Text) (invoked : Invoked environment options settings caller)
    (unruled : Unruled settings caller) (printable : ∀ token ∈ caller, token.Token)
    (service : Service) (started : ∃ replies, ((Serve.start settings).run replies).result = .ok service)
    (replies : List Reply) :
    (∀ request head, Asked service settings request head caller →
      Agrees settings caller replies (run environment replies)
        ((service.answer request).run replies)) ∧
    (∀ target head, Head.IsPath target → Head.read (asking origin target none).head = .ok head →
      service.route.serves head.path = true →
      (∀ token ∈ caller, (bearerValue token).length ≤ Head.sizeLimit) →
      Agrees settings caller replies (run environment replies)
        ((service.answer (asking origin target caller)).run replies)) := by
  constructor
  · exact fun request head asked => agrees_of_asked invoked unruled printable asked replies
  · intro target head isPath read served short
    exact agrees_of_asked invoked unruled printable
      (asked_of_asking started isPath read served printable short) replies

end Agreeing

/-! ### A caller with a token -/

/-- A command line with a token alone. -/
def withToken (token : Text) : Environment where
  arguments := [Options.attached ("--token", token)]

theorem invoked_withToken {token : Text} (nonempty : token ≠ []) :
    Invoked (withToken token) [("--token", token)] {} (some token) where
  written := rfl
  known := by
    have named : ("--token" : Text) ∈ names := by decide
    exact List.forall_mem_singleton.mpr named
  loaded := rfl
  level := fun _ chosen => nomatch chosen
  token := by
    obtain ⟨c, rest, rfl⟩ := List.exists_cons_of_ne_nil nonempty
    rfl

theorem unruled_usual (caller : Option Text) : Unruled {} caller where
  forwarded := rfl
  unmatched := fun _ _ _ member => nomatch member
  comparable := fun _ _ _ member => nomatch member

theorem started_usual : ((Serve.start {}).run []).result = .ok Service.usual := rfl

theorem isPath_usual : Head.IsPath "/api_csv.php" where
  slash := rfl
  solid := by
    intro c member
    have plain : ("/api_csv.php" : Text).all (fun c => !Head.isTargetEnd c) = true := by decide
    rw [← Bool.not_eq_true']
    exact List.all_eq_true.mp plain c member

theorem read_usual :
    Head.read (asking origin "/api_csv.php" none).head = .ok ⟨"GET", "/api_csv.php", []⟩ :=
  Head.read_eq_ok (by decide +kernel)

/-- A short token. -/
theorem token_short : Text.Token "me" where
  nonempty := by decide
  printable := by
    intro c member
    have plain : ("me" : Text).all (fun c => 0x20 ≤ c.val ∧ c.val < 0x7F) = true := by decide
    exact of_decide_eq_true (List.all_eq_true.mp plain c member)
  first := by decide
  last := by decide

/-- The replies of a monitor with one problem, which someone has acknowledged. -/
def oneProblem : List Reply :=
  Feed.listedScript "disk full" "db1"

/-- It is the same whether it is an option or stands in a header: the table has one row. -/
theorem short_agrees :
    Invoked (withToken "me") [("--token", "me")] {} (some "me") ∧
    Agrees {} (some "me") oneProblem (run (withToken "me") oneProblem)
      ((Service.usual.answer (asking origin "/api_csv.php" (some "me"))).run oneProblem) ∧
    (run (withToken "me") oneProblem).output =
      ("clock;severity;suppressed;hostid;host;name\n100;5;1;7;;\n" : Text) := by
  have invoked : Invoked (withToken "me") [("--token", "me")] {} (some "me") :=
    invoked_withToken token_short.nonempty
  have printable : ∀ token ∈ some ("me" : Text), token.Token := by
    rintro _ ⟨⟩
    exact token_short
  have fits : ∀ token ∈ some ("me" : Text), (bearerValue token).length ≤ Head.sizeLimit := by
    rintro _ ⟨⟩
    decide
  refine ⟨invoked, ?_, by decide +kernel⟩
  exact (agrees_with_service _ _ _ _ invoked (unruled_usual _) printable Service.usual
    ⟨[], started_usual⟩ oneProblem).2 _ _ isPath_usual read_usual rfl fits

/-- A token that does not fit into a header. -/
def longToken : Text :=
  List.replicate 8184 (CodePoint.ofChar 'x')

theorem token_long : longToken.Token where
  nonempty := by
    rw [longToken, Ne, List.replicate_eq_nil_iff]
    decide
  printable := by
    intro c member
    rw [List.eq_of_mem_replicate member]
    decide
  first := by
    rw [longToken, List.head?_replicate]
    decide
  last := by
    rw [longToken, List.getLast?_replicate]
    decide

theorem long_bearer : Head.sizeLimit < (bearerValue longToken).length := by
  rw [bearerValue, List.length_append, longToken, List.length_replicate]
  decide

/-- The command asks about problems whatever the token of the caller is. -/
theorem sent_ne_nil {token : Text} (isToken : token.Token) (replies : List Reply) :
    (((callersFeed {} (some token)).render origin).run replies).sent ≠ [] := by
  have ascii : ∀ c ∈ Client.effectiveToken { settings := {}, connected := true } (some token),
      c.val < 0x80 := by
    intro c member
    obtain ⟨first, rest, rfl⟩ := List.exists_cons_of_ne_nil isToken.nonempty
    exact Nat.lt_succ_of_lt (isToken.printable c member).2
  have ready : Client.Ready { settings := {}, connected := true } (some token)
      { scheme := "http", host := "localhost", path := "/zabbix/api_jsonrpc.php" } :=
    { connected := rfl, accepted := rfl, named := rfl, ascii := ascii }
  obtain ⟨id, result, sent, _, course⟩ := (callersFeed {} (some token)).exists_course replies
  obtain ⟨k, _, kept⟩ := course.kept rfl ready
  obtain ⟨n, rfl⟩ := Nat.exists_eq_add_of_le' kept.first
  rw [course.sent_render origin, kept.asked, Feed.questions, List.take_succ_cons]
  exact List.cons_ne_nil _ _

/-- **Not every token comes to the service**: one that is too long for its header is of use to the command
alone. -/
theorem not_every_token_agrees :
    ¬∀ (environment : Environment) (options : Fields Text) (settings : Settings) (caller : Option Text)
      (service : Service) (target : Text) (head : Head) (replies : List Reply),
      Invoked environment options settings caller → Unruled settings caller →
      (∀ token ∈ caller, token.Token) →
      (∃ replies, ((Serve.start settings).run replies).result = .ok service) →
      Head.IsPath target → Head.read (asking origin target none).head = .ok head →
      service.route.serves head.path = true →
      Agrees settings caller replies (run environment replies)
        ((service.answer (asking origin target caller)).run replies) := by
  intro claimed
  have invoked : Invoked (withToken longToken) [("--token", longToken)] {} (some longToken) :=
    invoked_withToken token_long.nonempty
  have printable : ∀ token ∈ some longToken, token.Token := by
    rintro _ ⟨⟩
    exact token_long
  have agrees := claimed _ _ _ _ Service.usual _ _ [] invoked (unruled_usual _) printable
    ⟨[], started_usual⟩ isPath_usual read_usual rfl
  obtain ⟨after, table, rendered, _⟩ := exists_rendered {} (some longToken) []
  have tooLong := Head.read_asking_tooLong isPath_usual read_usual token_long long_bearer
  -- the service sends nothing for a head that it cannot read, the command does
  have unheard : ((Service.usual.answer (asking origin "/api_csv.php" (some longToken))).run
      []).sent = [] := by
    rw [Service.run_answer_of_malformed tooLong]
  have silent : (run (withToken longToken) []).sent = [] := agrees.sent.trans unheard
  exact sent_ne_nil token_long [] ((run_invoked invoked rendered).1.symm.trans silent)

end Fetch

end AlarmFeed
