/-
**What a client does, step by step.**

A step opens the connection, closes it, makes one call, or is a query without ids, which passes without
one (`Client.Course`). All that a step does to the client is in the first two of these
(`Session.client_step`), and all that it does to the replies is in the one request that it may send.

* `Session.connected_after` — a client is connected if it was opened and not closed since (`LeavesOpen`);
* `Session.step_of_unconnected` — what asks something without a connection fails, and names its request;
* `Session.step_congr` — a step depends on the client and the next reply, and on nothing before them;
* `Session.after_lawful` — the law of a client in use (`Session.Lawful`), for every run of steps.
-/

import AlarmFeed.Monitor.Session
import AlarmFeed.Proofs.Monitor.Frame
import AlarmFeed.Proofs.Monitor.Query

namespace AlarmFeed.Client

/-! ### Kinds of steps -/

/-- What kind of step it is: it opens the connection, closes it, is a query without ids, which has its
answer at once, or makes a call. -/
inductive Kind
  | opening
  | closing
  | passing (answer : Answer)
  | asking (call : Call)

/-- Whether there is a connection after a step of a kind. -/
def Kind.leaves : Kind → Bool → Bool
  | .opening, _ => true
  | .closing, _ => false
  | _, connected => connected

theorem Kind.leaves_eq_true {kind : Kind} {connected : Bool} :
    kind.leaves connected = true ↔ kind = .opening ∨ (connected = true ∧ kind ≠ .closing) := by
  cases kind <;> simp [leaves]

namespace Step

/-- The kind of a step. -/
def kind : Step → Kind
  | .connect | .enter => .opening
  | .exit | .close => .closing
  | .call made => .asking made
  | .problems id token => .asking ⟨"problem.get", Query.problemParams, id, token, true⟩
  | .events [] _ _ => .passing (.events [])
  | .events ids id token => .asking ⟨"event.get", Query.eventParams ids, id, token, true⟩
  | .triggers [] _ _ => .passing (.triggers [])
  | .triggers ids id token => .asking ⟨"trigger.get", Query.triggerParams ids, id, token, true⟩

/-- **What a step asks can be said**: JSON can carry its parameters, and its id survives. -/
def Sayable : Step → Prop
  | .call made => Request.Sendable made.params made.id
  | .problems id _ => Json.Survives Request.innerDepth id
  | .events ids id _ | .triggers ids id _ =>
    (∀ n ∈ ids, Decimal.Short n) ∧ Json.Survives Request.innerDepth id
  | _ => True

theorem Sayable.sendable {step : Step} {call : Call} (sayable : step.Sayable)
    (asks : step.kind = .asking call) : Request.Sendable call.params call.id := by
  cases step with
  | call made =>
    obtain rfl := Kind.asking.inj asks
    exact sayable
  | problems id token =>
    obtain rfl := Kind.asking.inj asks
    exact ⟨(@Query.portable_problemParams 0).carried.deeper (by decide), sayable⟩
  | events ids id token =>
    cases ids with
    | nil => cases asks
    | cons first ids =>
      obtain rfl := Kind.asking.inj asks
      exact ⟨(@Query.portable_eventParams 0 _ sayable.1).carried.deeper (by decide), sayable.2⟩
  | triggers ids id token =>
    cases ids with
    | nil => cases asks
    | cons first ids =>
      obtain rfl := Kind.asking.inj asks
      exact ⟨(@Query.portable_triggerParams 0 _ sayable.1).carried.deeper (by decide), sayable.2⟩
  | connect | enter | exit | close => cases asks

end Step

/-! ### What a step does -/

/-- **What a step does**, whatever the replies: only one that makes a call looks at them, and what it
makes of the result leaves the client as it is. -/
inductive Course (client : Client) (step : Step) : Talk (Client × Answer) → Prop
  | opens {talk : Talk (Client × Answer)} {answer : Answer} {log : List Log.Record}
      (kind : step.kind = .opening)
      (blind : ∀ replies,
        talk.run replies = ⟨.ok ({ client with connected := true }, answer), [], replies, log⟩) :
      Course client step talk
  | closes {talk : Talk (Client × Answer)} {log : List Log.Record} (kind : step.kind = .closing)
      (quiet : client.connected = false → log = [])
      (blind : ∀ replies,
        talk.run replies = ⟨.ok ({ client with connected := false }, .done), [], replies, log⟩) :
      Course client step talk
  | passes {talk : Talk (Client × Answer)} {answer : Answer} {log : List Log.Record}
      (kind : step.kind = .passing answer)
      (blind : ∀ replies, talk.run replies = ⟨.ok (client, answer), [], replies, log⟩) :
      Course client step talk
  | asks {call : Call} {finish : Value → Except Fault (Client × Answer)}
      (kind : step.kind = .asking call)
      (keeps : ∀ value found, finish value = .ok found → found.1 = client) :
      Course client step (client.call call >>= fun value => Exchange.ofExcept (finish value))

section Performing

variable (client : Client)

/-- A query that asks is its call, and what is read of the result. -/
theorem course_ask {α : Type} {step : Step} {method : Text} {params id : Value} {token : Option Text}
    (kind : step.kind = .asking ⟨method, params, id, token, true⟩) (title : Text)
    (reader : Schema.Reader α) (answer : List α → Answer) :
    Course client step (do
      let found ← Query.ask client method params id token title reader
      return (client, answer found)) := by
  have whole : (do
      let found ← Query.ask client method params id token title reader
      return (client, answer found)) =
      client.call ⟨method, params, id, token, true⟩ >>= fun value => Exchange.ofExcept
        ((Query.readResult title reader value).map fun found => (client, answer found)) := by
    rw [Query.ask, Exchange.bind_assoc]
    simp only [Exchange.ofExcept_bind_pure]
  rw [whole]
  refine .asks kind ?_
  intro value found read
  cases items : Query.readResult title reader value with
  | error fault =>
    rw [items] at read
    cases read
  | ok records =>
    rw [items] at read
    cases read
    rfl

/-- The record of an opened connection. -/
def openedRecord (settings : MonitorSettings) : Log.Record :=
  ⟨.info, "zabbix_client_connected", [("url", .text settings.url)]⟩

def closedRecord : Log.Record :=
  ⟨.info, "zabbix_client_closed", []⟩

def passedRecord (method : Text) : Log.Record :=
  ⟨.debug, "zabbix_request_skipped", [("method", .text method), ("reason", .text "no_ids")]⟩

theorem run_closing (replies : List Reply) :
    Exchange.run (do let next ← client.close; return (next, Answer.done)) replies =
      ⟨.ok ({ client with connected := false }, .done), [], replies,
        if client.connected then [closedRecord] else []⟩ := by
  obtain ⟨settings, connected⟩ := client
  cases connected with
  | false => rfl
  | true => rfl

/-- **Every step takes its course.** -/
theorem course_perform (step : Step) : Course client step (client.perform step) := by
  have quiet : client.connected = false → (if client.connected then [closedRecord] else []) = [] :=
    fun closed => by rw [closed, if_neg Bool.false_ne_true]
  cases step with
  | connect =>
    have blind : ∀ replies, (client.perform .connect).run replies =
        ⟨.ok ({ client with connected := true }, .done), [], replies,
          [openedRecord client.settings]⟩ := fun _ => rfl
    exact .opens rfl blind
  | enter =>
    have blind : ∀ replies, (client.perform .enter).run replies =
        ⟨.ok ({ client with connected := true }, .client { client with connected := true }), [],
          replies, [openedRecord client.settings]⟩ := fun _ => rfl
    exact .opens rfl blind
  | exit => exact .closes rfl quiet client.run_closing
  | close => exact .closes rfl quiet client.run_closing
  | call call =>
    have keeps : ∀ value found, (Except.ok (client, Answer.result value) : Except Fault _) = .ok found →
        found.1 = client := by
      rintro value found ⟨⟩
      rfl
    exact .asks rfl keeps
  | problems id token => exact course_ask client rfl _ _ _
  | events ids id token =>
    cases ids with
    | nil =>
      have blind : ∀ replies, (client.perform (.events [] id token)).run replies =
          ⟨.ok (client, .events []), [], replies, [passedRecord "event.get"]⟩ := fun _ => rfl
      exact .passes rfl blind
    | cons first ids => exact course_ask client rfl _ _ _
  | triggers ids id token =>
    cases ids with
    | nil =>
      have blind : ∀ replies, (client.perform (.triggers [] id token)).run replies =
          ⟨.ok (client, .triggers []), [], replies, [passedRecord "trigger.get"]⟩ := fun _ => rfl
      exact .passes rfl blind
    | cons first ids => exact course_ask client rfl _ _ _

/-- **A step sends one request at most**, and takes the reply to it alone. -/
theorem contained_perform (step : Step) :
    (client.perform step).Contained 1 fun _ => True := by
  have course := course_perform client step
  generalize client.perform step = talk at course
  cases course with
  | opens _ blind => exact Exchange.contained_of_blind blind
  | closes _ _ blind => exact Exchange.contained_of_blind blind
  | passes _ blind => exact Exchange.contained_of_blind blind
  | asks =>
    refine Exchange.Contained.bind_quiet ?_ fun value => Exchange.contained_ofExcept _
    exact (client.contained_call _).allow fun _ _ => trivial

/-- A call without a connection fails before anything is sent or logged. -/
theorem run_call_of_closed {call : Call} (sendable : Request.Sendable call.params call.id)
    (closed : client.connected = false) (replies : List Reply) :
    (client.call call).run replies =
      ⟨.error (Reply.fault .connection call.id "HTTP client not connected"), [], replies, []⟩ := by
  rw [Client.call, Request.idOfText_encode call.method sendable, Exchange.run_ofExcept_ok_bind, closed]
  rfl

end Performing

namespace Session

/-! ### One step -/

section Steps

variable {session : Session} {step : Step}

theorem step_of_ok {client : Client} {answer : Answer} {sent : List Request} {rest : List Reply}
    {log : List Log.Record}
    (ran : (session.client.perform step).run session.replies = ⟨.ok (client, answer), sent, rest, log⟩) :
    session.step step = (⟨client, rest⟩, ⟨.ok answer, sent, rest, log⟩) := by
  rw [Session.step, ran]

theorem step_of_error {fault : Fault} {sent : List Request} {rest : List Reply} {log : List Log.Record}
    (ran : (session.client.perform step).run session.replies = ⟨.error fault, sent, rest, log⟩) :
    session.step step = (⟨session.client, rest⟩, ⟨.error fault, sent, rest, log⟩) := by
  rw [Session.step, ran]

/-- What was sent and what is left is that of the run. -/
theorem sent_step : (session.step step).2.sent =
    ((session.client.perform step).run session.replies).sent := by
  rw [Session.step]
  split <;> rfl

theorem replies_step : (session.step step).1.replies =
    ((session.client.perform step).run session.replies).rest := by
  rw [Session.step]
  split <;> rfl

/-- A call leaves the client as it is, whatever is made of its result. -/
theorem client_of_asks {call : Call} {finish : Value → Except Fault (Client × Answer)}
    (performed : session.client.perform step =
      session.client.call call >>= fun value => Exchange.ofExcept (finish value))
    (keeps : ∀ value found, finish value = .ok found → found.1 = session.client) :
    (session.step step).1.client = session.client := by
  have ran := congrArg (Exchange.run · session.replies) performed
  cases ended : ((session.client.call call).run session.replies).result with
  | error fault =>
    rw [step_of_error (ran.trans (Exchange.run_bind_of_error ended))]
  | ok value =>
    have whole := ran.trans (Exchange.run_bind_of_ok ended)
    cases made : finish value with
    | error fault =>
      rw [made] at whole
      rw [step_of_error whole]
    | ok found =>
      rw [made] at whole
      rw [step_of_ok whole]
      exact keeps value found made

/-- **A step does nothing to a client** but open or close its connection. -/
theorem client_step : (session.step step).1.client =
    { session.client with connected := step.kind.leaves session.client.connected } := by
  have course := course_perform session.client step
  generalize ran : session.client.perform step = talk at course
  cases course with
  | opens kind blind =>
    rw [step_of_ok (by rw [ran, blind]), kind]
    rfl
  | closes kind quiet blind =>
    rw [step_of_ok (by rw [ran, blind]), kind]
    rfl
  | passes kind blind =>
    rw [step_of_ok (by rw [ran, blind]), kind]
    rfl
  | asks kind keeps =>
    rw [client_of_asks ran keeps, kind]
    rfl

/-- **A step sends one request at most.** -/
theorem sent_le_one : (session.step step).2.sent.length ≤ 1 := by
  rw [sent_step]
  exact ((session.client.contained_perform step).sends session.replies).1

/-- **A step takes one reply for its request.** -/
theorem replies_step_eq_drop : (session.step step).1.replies =
    session.replies.drop (session.step step).2.sent.length := by
  rw [replies_step, sent_step]
  exact (session.client.contained_perform step).closed.left session.replies

/-- Closing what is not connected changes nothing. -/
theorem step_of_closed (kind : step.kind = .closing) (closed : session.client.connected = false) :
    session.step step = (session, ⟨.ok .done, [], session.replies, []⟩) := by
  have same : { session.client with connected := false } = session.client := by rw [← closed]
  have course := course_perform session.client step
  generalize ran : session.client.perform step = talk at course
  cases course with
  | closes _ quiet blind => rw [step_of_ok (by rw [ran, blind]), quiet closed, same]
  | opens other | passes other | asks other => exact nomatch other.symm.trans kind

/-- **What asks something without a connection** sends nothing, and fails for its request. -/
theorem step_of_unconnected {call : Call} (kind : step.kind = .asking call) (sayable : step.Sayable)
    (closed : session.client.connected = false) :
    session.step step = (session,
      ⟨.error (Reply.fault .connection call.id "HTTP client not connected"), [], session.replies,
        []⟩) := by
  have failed := session.client.run_call_of_closed (sayable.sendable kind) closed session.replies
  have course := course_perform session.client step
  generalize ran : session.client.perform step = talk at course
  cases course with
  | asks asked keeps =>
    obtain rfl := Kind.asking.inj (asked.symm.trans kind)
    refine step_of_error ?_
    rw [ran, Exchange.run_bind_of_error (by rw [failed]), failed]
  | opens other | closes other | passes other => exact nomatch other.symm.trans kind

/-- **A query without ids** is answered by nothing, connected or not. -/
theorem step_of_passing {answer : Answer} (kind : step.kind = .passing answer) :
    ∃ log, session.step step = (session, ⟨.ok answer, [], session.replies, log⟩) := by
  have course := course_perform session.client step
  generalize ran : session.client.perform step = talk at course
  cases course with
  | passes passed blind =>
    obtain rfl := Kind.passing.inj (passed.symm.trans kind)
    exact ⟨_, step_of_ok (by rw [ran, blind])⟩
  | opens other | closes other | asks other => exact nomatch other.symm.trans kind

/-- **A step depends on the client and the next reply**, and on nothing else of its session. -/
theorem step_congr {session' : Session} (client : session'.client = session.client)
    (next : session'.replies.head? = session.replies.head?) :
    (session'.step step).1.client = (session.step step).1.client ∧
      (session'.step step).2.result = (session.step step).2.result ∧
      (session'.step step).2.sent = (session.step step).2.sent ∧
      (session'.step step).2.log = (session.step step).2.log := by
  have again := (session.client.contained_perform step).run_of_head? next
  unfold Session.step
  rw [client, again]
  dsimp only
  cases ((session.client.perform step).run session.replies).result with
  | error fault => exact ⟨rfl, rfl, rfl, rfl⟩
  | ok found => exact ⟨rfl, rfl, rfl, rfl⟩

/-- **A step that fails** leaves the client as it is. -/
theorem step_of_failed {fault : Fault} (failed : (session.step step).2.result = .error fault) :
    (session.step step).1 =
      ⟨session.client, session.replies.drop (session.step step).2.sent.length⟩ := by
  have client : (session.step step).1.client = session.client := by
    unfold Session.step at failed ⊢
    cases ended : ((session.client.perform step).run session.replies).result with
    | error fault =>
      dsimp only
      rw [ended]
    | ok found =>
      dsimp only at failed
      rw [ended] at failed
      cases failed
  rw [← client, ← replies_step_eq_drop]

end Steps

/-! ### Runs of steps -/

theorem after_append (session : Session) (earlier later : List Step) :
    session.after (earlier ++ later) = (session.after earlier).after later :=
  List.foldl_append

theorem after_concat (session : Session) (steps : List Step) (step : Step) :
    session.after (steps ++ [step]) = ((session.after steps).step step).1 :=
  after_append session steps [step]

/-- No step touches the settings. -/
theorem settings_after (session : Session) (steps : List Step) :
    (session.after steps).client.settings = session.client.settings := by
  induction steps using List.reverseRecOn with
  | nil => rfl
  | append_singleton steps step ih => rw [after_concat, client_step, ih]

/-- **Some steps leave a connection open**: one of them opened it, and none of those behind it opened
or closed one. -/
def LeavesOpen (steps : List Step) : Prop :=
  ∃ before step later, steps = before ++ step :: later ∧ step.kind = .opening ∧
    ∀ other ∈ later, other.kind ≠ .opening ∧ other.kind ≠ .closing

theorem not_leavesOpen_nil : ¬LeavesOpen [] := by
  rintro ⟨before, step, later, none, _⟩
  exact List.append_ne_nil_of_right_ne_nil before (List.cons_ne_nil step later) none.symm

/-- One step more: it opens a connection itself, or leaves the one that is open. -/
theorem leavesOpen_concat {steps : List Step} {step : Step} :
    LeavesOpen (steps ++ [step]) ↔
      step.kind = .opening ∨ (LeavesOpen steps ∧ step.kind ≠ .closing) := by
  constructor
  · rintro ⟨before, opening, later, same, opens, quiet⟩
    rcases List.eq_nil_or_concat' later with rfl | ⟨later, last, rfl⟩
    · obtain ⟨_, rfl⟩ := List.append_singleton_inj.mp same
      exact Or.inl opens
    · rw [← List.cons_append, ← List.append_assoc] at same
      obtain ⟨rfl, rfl⟩ := List.append_singleton_inj.mp same
      have unclosed := (quiet step (List.mem_append_right _ List.mem_cons_self)).2
      exact Or.inr ⟨⟨before, opening, later, rfl, opens,
        fun other member => quiet other (List.mem_append_left _ member)⟩, unclosed⟩
  · intro either
    by_cases opens : step.kind = .opening
    · exact ⟨steps, step, [], rfl, opens, fun _ member => nomatch member⟩
    · obtain ⟨⟨before, opening, later, rfl, opened, quiet⟩, unclosed⟩ := either.resolve_left opens
      refine ⟨before, opening, later ++ [step], by simp, opened, ?_⟩
      exact List.forall_mem_append.mpr ⟨quiet, List.forall_mem_singleton.mpr ⟨opens, unclosed⟩⟩

/-- **A client is connected** if it was opened and not closed since. -/
theorem connected_after (settings : MonitorSettings) (replies : List Reply) (steps : List Step) :
    ((start settings replies).after steps).client.connected = true ↔ LeavesOpen steps := by
  induction steps using List.reverseRecOn with
  | nil => exact ⟨fun opened => (nomatch opened), fun leaves => absurd leaves not_leavesOpen_nil⟩
  | append_singleton steps step ih =>
    rw [after_concat, client_step, leavesOpen_concat, ← ih]
    exact Kind.leaves_eq_true

/-! ### The law -/

/-- There is no more to a client than its settings and its connection. -/
theorem client_ext {client client' : Client} (settings : client.settings = client'.settings)
    (connected : client.connected = client'.connected) : client = client' := by
  cases client
  cases client'
  cases settings
  cases connected
  rfl

/-- **The law of a client in use**, for what some steps leave of the replies that there were. -/
structure Lawful (settings : MonitorSettings) (replies : List Reply) (steps : List Step)
    (session : Session) : Prop where
  /-- The settings stay, and what was opened and not closed since is connected. -/
  configured : session.client.settings = settings
  connected : session.client.connected = true ↔ LeavesOpen steps
  /-- Closing what is not connected changes nothing. -/
  closed : ∀ step, step.kind = .closing → session.client.connected = false →
    session.step step = (session, ⟨.ok .done, [], session.replies, []⟩)
  /-- A step sends one request at most, and takes one reply for each that it sends. -/
  sends : ∀ step, (session.step step).2.sent.length ≤ 1
  takes : ∀ step, (session.step step).1.replies =
    session.replies.drop (session.step step).2.sent.length
  /-- What makes a call without a connection sends nothing, and fails for the request of that call. -/
  unconnected : ∀ step call, step.kind = .asking call → step.Sayable →
    session.client.connected = false → session.step step = (session,
      ⟨.error (Reply.fault .connection call.id "HTTP client not connected"), [], session.replies, []⟩)
  /-- A query without ids finds nothing and sends nothing, connected or not. -/
  noEvents : ∀ id token, ∃ log, session.step (.events [] id token) =
    (session, ⟨.ok (.events []), [], session.replies, log⟩)
  noTriggers : ∀ id token, ∃ log, session.step (.triggers [] id token) =
    (session, ⟨.ok (.triggers []), [], session.replies, log⟩)
  /-- A step comes to the same after any other steps that leave as much of a connection, if the reply
  that is next is the same. -/
  history : ∀ replies' steps', (LeavesOpen steps' ↔ LeavesOpen steps) →
    ((start settings replies').after steps').replies.head? = session.replies.head? → ∀ step,
    (((start settings replies').after steps').step step).2.result = (session.step step).2.result ∧
      (((start settings replies').after steps').step step).2.sent = (session.step step).2.sent ∧
      (((start settings replies').after steps').step step).2.log = (session.step step).2.log
  /-- After a step that failed all goes on with the client as it was, and with the replies that are
  left. -/
  failed : ∀ step fault later, (session.step step).2.result = .error fault →
    (start settings replies).after (steps ++ step :: later) =
      Session.after ⟨session.client, session.replies.drop (session.step step).2.sent.length⟩ later

/-- **The law of a client in use holds after every run of steps**, failing or not. -/
theorem after_lawful (settings : MonitorSettings) (replies : List Reply) (steps : List Step) :
    Lawful settings replies steps ((start settings replies).after steps) where
  configured := settings_after (start settings replies) steps
  connected := connected_after settings replies steps
  closed step := step_of_closed
  sends step := sent_le_one
  takes step := replies_step_eq_drop
  unconnected step call := step_of_unconnected
  noEvents id token := step_of_passing rfl
  noTriggers id token := step_of_passing rfl
  history replies' steps' alike next step := by
    have client : ((start settings replies').after steps').client =
        ((start settings replies).after steps).client := by
      refine client_ext ?_ ?_
      · rw [settings_after, settings_after]
        rfl
      · rw [Bool.eq_iff_iff, connected_after, connected_after, alike]
    exact (step_congr client next).2
  failed step fault later failed := by
    rw [after_append]
    show ((Session.step _ step).1).after later = _
    rw [step_of_failed failed]

end Session

end AlarmFeed.Client
