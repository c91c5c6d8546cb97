/-
**How a call ends.**

`Client.Classified address call reply result` says in so many words how a call ends whose request was
sent to an address and answered by a reply: one constructor for each outcome, with the conditions under
which it applies. The conditions follow the order in which a client looks at a reply: whether it came at
all, its status, its body, an error in it, a result in it.

* `Reply.exists_explains`, `Reply.Explains.errorText_eq` — every error has a readable part
  (`Reply.Explains`), and that is what `errorText` picks;
* `classified_iff` — every reply is classified in one way, as it is understood;
* `run_call_classified` — a ready client sends one request, takes one reply, and ends as classified.
-/

import AlarmFeed.Proofs.Monitor.Client
import AlarmFeed.Proofs.Monitor.Request

namespace AlarmFeed

/-! ### The readable part of an error -/

namespace Reply

/-- **The readable part of an error**: of an object the details unless they are empty, else the message,
else nothing; of any other value the value itself. -/
inductive Explains : Value → Text → Prop
  | details {members : Members} {detail : Value} (found : Fields.get? "data" members = some detail)
      (full : detail.isEmpty = false) : Explains (.object members) detail.display
  | message {members : Members} {message : Value}
      (noDetail : ∀ detail, Fields.get? "data" members = some detail → detail.isEmpty = true)
      (found : Fields.get? "message" members = some message) :
      Explains (.object members) message.display
  | silent {members : Members}
      (noDetail : ∀ detail, Fields.get? "data" members = some detail → detail.isEmpty = true)
      (missing : Fields.get? "message" members = Option.none) : Explains (.object members) []
  | other {error : Value} (noObject : ∀ members, error ≠ .object members) :
      Explains error error.display

theorem errorText_of_detail {members : Members} {detail : Value}
    (found : Fields.get? "data" members = some detail) (full : detail.isEmpty = false) :
    errorText (.object members) = detail.display := by
  simp only [errorText, found, full, Bool.false_eq_true, if_false]

/-- Details that are empty are passed over, as missing ones are. -/
theorem errorText_of_noDetail {members : Members}
    (noDetail : ∀ detail, Fields.get? "data" members = some detail → detail.isEmpty = true) :
    errorText (.object members) = ((Fields.get? "message" members).getD (.text [])).display := by
  cases found : Fields.get? "data" members with
  | none => simp only [errorText, found]
  | some detail => simp only [errorText, found, noDetail detail found, if_true]

theorem Explains.errorText_eq {error : Value} {text : Text} (explains : Explains error text) :
    errorText error = text := by
  cases explains with
  | details found full => exact errorText_of_detail found full
  | message noDetail found => rw [errorText_of_noDetail noDetail, found, Option.getD_some]
  | silent noDetail missing =>
    rw [errorText_of_noDetail noDetail, missing]
    rfl
  | other noObject =>
    cases error with
    | object members => exact absurd rfl (noObject members)
    | _ => rfl

/-- **An error has a readable part.** -/
theorem exists_explains (error : Value) : ∃ text, Explains error text := by
  by_cases object : ∃ members, error = .object members
  · obtain ⟨members, rfl⟩ := object
    by_cases noDetail : ∀ detail, Fields.get? "data" members = some detail → detail.isEmpty = true
    · cases found : Fields.get? "message" members with
      | none => exact ⟨_, .silent noDetail found⟩
      | some message => exact ⟨_, .message noDetail found⟩
    · simp only [not_forall, Bool.not_eq_true] at noDetail
      obtain ⟨detail, found, full⟩ := noDetail
      exact ⟨_, .details found full⟩
  · exact ⟨_, .other fun members same => object ⟨members, same⟩⟩

/-! ### Bodies and results -/

section Bodies

variable {id result : Value} {body : Bytes} {members : Members} {method : Text} {expectList : Bool}

theorem members_of_error {error : Json.ReadError} (invalid : Json.readBytes body = .error error)
    (other : ∀ container, error ≠ .tooDeep container) :
    Reply.members id body = .error (fault .response id "Zabbix API returned invalid JSON") := by
  rw [Reply.members, invalid]
  cases error with
  | tooDeep container => exact absurd rfl (other container)
  | _ => rfl

theorem members_of_other {value : Value} (said : Json.readBytes body = .ok value)
    (other : ∀ members, value ≠ .object members) :
    Reply.members id body =
      .error (fault .response id "Zabbix API returned a non-object response") := by
  rw [Reply.members, said]
  cases value with
  | object members => exact absurd rfl (other members)
  | _ => rfl

/-- A result that is no list is good only if others than lists will do. -/
theorem resultOf_of_other (found : Fields.get? "result" members = some result)
    (other : ∀ items, result ≠ .list items) :
    resultOf method id expectList members =
      if expectList then .error (fault .response id (method ++ (" did not return a list" : Text)))
      else .ok result := by
  rw [resultOf, found]
  cases result with
  | list items => exact absurd rfl (other items)
  | _ => rfl

theorem resultOf_of_fits (found : Fields.get? "result" members = some result)
    (fits : expectList = true → ∃ items, result = .list items) :
    resultOf method id expectList members = .ok result := by
  by_cases list : ∃ items, result = .list items
  · obtain ⟨items, rfl⟩ := list
    rw [resultOf, found]
  · have any : expectList ≠ true := fun asked => list (fits asked)
    rw [resultOf_of_other found (not_exists.mp list), if_neg any]

end Bodies

end Reply

/-! ### Outcomes -/

namespace Client

/-- A reply says an object: it is a success, to an address that is not relative, with such a body. -/
structure Says (address : Address) (reply : Reply) (members : Members) : Prop where
  absolute : address.isRelative = false
  said : ∃ status body, reply = .answer status body ∧ (200 ≤ status ∧ status < 300) ∧
    Json.readBytes body = .ok (.object members)

/-- **How a call ends** whose request was sent to an address and answered by a reply. -/
inductive Classified (address : Address) (call : Call) : Reply → Except Fault Value → Prop
  /-- The request was not delivered, or the answer to it. -/
  | undelivered (flaw : DeliveryFlaw) (detail : Text) :
      Classified address call (.undelivered flaw detail) (.error (Reply.fault .connection call.id
        (("Zabbix API request failed: " : Text) ++ detail)))
  /-- What delivers the requests failed in a way of its own. -/
  | broken (flaw : GeneralFlaw) (detail : Text) :
      Classified address call (.broken flaw detail) (.error (.general flaw detail))
  /-- What delivers the requests has no use for an answer to a relative address. -/
  | unusable {status : Nat} {body : Bytes} (relative : address.isRelative = true) :
      Classified address call (.answer status body)
        (.error (.general .value (("unknown url type: " : Text) ++ address.text.quoted)))
  /-- The status is no success, whatever the body. -/
  | status {status : Nat} {body : Bytes} (absolute : address.isRelative = false)
      (failed : ¬(200 ≤ status ∧ status < 300)) :
      Classified address call (.answer status body) (.error (Reply.fault .connection call.id
        (("Zabbix API returned " : Text) ++ Decimal.digits status)))
  /-- The body is nested too deeply to be read. -/
  | nested {status : Nat} {body : Bytes} {container : Json.Container}
      (absolute : address.isRelative = false) (success : 200 ≤ status ∧ status < 300)
      (deep : Json.readBytes body = .error (.tooDeep container)) :
      Classified address call (.answer status body) (.error (.nesting container))
  /-- The body is no JSON for another reason. -/
  | malformed {status : Nat} {body : Bytes} {error : Json.ReadError}
      (absolute : address.isRelative = false) (success : 200 ≤ status ∧ status < 300)
      (invalid : Json.readBytes body = .error error) (other : ∀ container, error ≠ .tooDeep container) :
      Classified address call (.answer status body)
        (.error (Reply.fault .response call.id "Zabbix API returned invalid JSON"))
  /-- The body says no object. -/
  | noObject {status : Nat} {body : Bytes} {value : Value}
      (absolute : address.isRelative = false) (success : 200 ≤ status ∧ status < 300)
      (said : Json.readBytes body = .ok value) (other : ∀ members, value ≠ .object members) :
      Classified address call (.answer status body)
        (.error (Reply.fault .response call.id "Zabbix API returned a non-object response"))
  /-- The object has an error, whatever the error and whatever else it has. -/
  | refused {reply : Reply} {members : Members} {error : Value} {text : Text}
      (told : Says address reply members) (found : Fields.get? "error" members = some error)
      (explains : Reply.Explains error text) :
      Classified address call reply (.error (Reply.fault .refusal call.id text))
  /-- The object has neither an error nor a result. -/
  | noResult {reply : Reply} {members : Members} (told : Says address reply members)
      (noError : Fields.get? "error" members = none)
      (missing : Fields.get? "result" members = none) :
      Classified address call reply
        (.error (Reply.fault .response call.id "Zabbix API response has no result"))
  /-- The result is no list, where only a list would do. -/
  | noList {reply : Reply} {members : Members} {result : Value} (told : Says address reply members)
      (noError : Fields.get? "error" members = none)
      (found : Fields.get? "result" members = some result) (asked : call.expectList = true)
      (other : ∀ items, result ≠ .list items) :
      Classified address call reply (.error (Reply.fault .response call.id
        (call.method ++ (" did not return a list" : Text))))
  /-- The result is as it was asked for. -/
  | good {reply : Reply} {members : Members} {result : Value} (told : Says address reply members)
      (noError : Fields.get? "error" members = none)
      (found : Fields.get? "result" members = some result)
      (fits : call.expectList = true → ∃ items, result = .list items) :
      Classified address call reply (.ok result)

section Classifying

variable {address : Address} {call : Call} {reply : Reply} {result : Except Fault Value}

section Saying

variable {members : Members} {method : Text} {expectList : Bool} {id : Value}

theorem payload_of_success {status : Nat} {body : Bytes} (absolute : address.isRelative = false)
    (success : 200 ≤ status ∧ status < 300) :
    (usable address (.answer status body)).payload id = Reply.members id body := by
  rw [usable, absolute, if_neg Bool.false_ne_true, Reply.payload, if_pos success]

theorem Says.payload_eq (told : Says address reply members) (id : Value) :
    (usable address reply).payload id = .ok members := by
  obtain ⟨absolute, status, body, rfl, success, said⟩ := told
  rw [payload_of_success absolute success, Reply.members, said]

theorem Says.understood_of_error (told : Says address reply members) {error : Value}
    (found : Fields.get? "error" members = some error) :
    understood address method expectList id (some reply) =
      .error (Reply.fault .refusal id (Reply.errorText error)) := by
  rw [understood, Option.getD_some, told.payload_eq]
  dsimp only
  rw [found]

theorem Says.understood_of_noError (told : Says address reply members)
    (noError : Fields.get? "error" members = none) :
    understood address method expectList id (some reply) =
      Reply.resultOf method id expectList members := by
  rw [understood, Option.getD_some, told.payload_eq]
  dsimp only
  rw [noError]

/-- What is wrong with the reply itself ends the call. -/
theorem understood_of_error {fault : Fault}
    (wrong : (usable address reply).payload id = .error fault) :
    understood address method expectList id (some reply) = .error fault := by
  rw [understood, Option.getD_some, wrong]

end Saying

/-- Each outcome is the one that the reply is understood as. -/
theorem Classified.understood_eq (classified : Classified address call reply result) :
    understood address call.method call.expectList call.id (some reply) = result := by
  cases classified with
  | undelivered flaw detail => exact understood_of_error rfl
  | broken flaw detail => exact understood_of_error rfl
  | unusable relative =>
    refine understood_of_error ?_
    rw [usable, if_pos relative, Reply.payload]
  | status absolute failed =>
    refine understood_of_error ?_
    rw [usable, absolute, if_neg Bool.false_ne_true, Reply.payload, if_neg failed]
  | nested absolute success deep =>
    refine understood_of_error ?_
    rw [payload_of_success absolute success, Reply.members, deep]
  | malformed absolute success invalid other =>
    refine understood_of_error ?_
    rw [payload_of_success absolute success, Reply.members_of_error invalid other]
  | noObject absolute success said other =>
    refine understood_of_error ?_
    rw [payload_of_success absolute success, Reply.members_of_other said other]
  | refused told found explains => rw [told.understood_of_error found, explains.errorText_eq]
  | noResult told noError missing => rw [told.understood_of_noError noError, Reply.resultOf, missing]
  | noList told noError found asked other =>
    rw [told.understood_of_noError noError, Reply.resultOf_of_other found other, if_pos asked]
  | good told noError found fits =>
    rw [told.understood_of_noError noError, Reply.resultOf_of_fits found fits]

/-- An object that was said ends the call one way or another. -/
theorem Says.exists_classified {members : Members} (told : Says address reply members) :
    ∃ result, Classified address call reply result := by
  cases refused : Fields.get? "error" members with
  | some error =>
    obtain ⟨text, explains⟩ := Reply.exists_explains error
    exact ⟨_, .refused told refused explains⟩
  | none =>
    cases found : Fields.get? "result" members with
    | none => exact ⟨_, .noResult told refused found⟩
    | some result =>
      by_cases fits : call.expectList = true → ∃ items, result = .list items
      · exact ⟨_, .good told refused found fits⟩
      · simp only [Classical.not_imp, not_exists] at fits
        exact ⟨_, .noList told refused found fits.1 fits.2⟩

/-- **Every reply ends the call** one way or another. -/
theorem exists_classified (address : Address) (call : Call) (reply : Reply) :
    ∃ result, Classified address call reply result := by
  cases reply with
  | undelivered flaw detail => exact ⟨_, .undelivered flaw detail⟩
  | broken flaw detail => exact ⟨_, .broken flaw detail⟩
  | answer status body =>
    cases absolute : address.isRelative with
    | true => exact ⟨_, .unusable absolute⟩
    | false =>
      by_cases success : 200 ≤ status ∧ status < 300
      · cases said : Json.readBytes body with
        | error error =>
          by_cases deep : ∃ container, error = .tooDeep container
          · obtain ⟨container, rfl⟩ := deep
            exact ⟨_, .nested absolute success said⟩
          · exact ⟨_, .malformed absolute success said (not_exists.mp deep)⟩
        | ok value =>
          by_cases object : ∃ members, value = .object members
          · obtain ⟨members, rfl⟩ := object
            exact Says.exists_classified ⟨absolute, status, body, rfl, success, said⟩
          · exact ⟨_, .noObject absolute success said (not_exists.mp object)⟩
      · exact ⟨_, .status absolute success⟩

/-- **A reply is classified in one way**: as it is understood. -/
theorem classified_iff : Classified address call reply result ↔
    understood address call.method call.expectList call.id (some reply) = result := by
  constructor
  · exact Classified.understood_eq
  · rintro rfl
    obtain ⟨result, classified⟩ := exists_classified address call reply
    rwa [classified.understood_eq]

/-- **A ready client sends a call once**, as it is written, takes one reply, and ends in the one way in
which the reply is classified. -/
theorem run_call_classified {client : Client} (ready : client.Ready call.token address)
    (sendable : Request.Sendable call.params call.id) (reply : Reply) (later : List Reply) :
    ∃ result log, (client.call call).run (reply :: later) =
        ⟨result, [⟨address.text, address.authorization.or (bearer (client.effectiveToken call.token)),
          Request.encode call.method call.params call.id⟩], later, log⟩ ∧
      ∀ other, Classified address call reply other ↔ other = result := by
  have named := Request.idOfText_encode call.method sendable
  obtain ⟨log, ran⟩ := run_call ready named (reply :: later)
  refine ⟨_, log, ran, fun other => ?_⟩
  rw [classified_iff]
  exact eq_comm

end Classifying

/-- A call that is answered by an error without a readable part, beside a result. -/
theorem mutedError_classified :
    let client : Client := { settings := {}, connected := true }
    let address : Address := { scheme := "http", host := "localhost", path := "/zabbix/api_jsonrpc.php" }
    let call : Call := ⟨"problem.get", Request.nestedIds, .text "é\n", none, true⟩
    let reply : Reply :=
      .answer 200 (Utf8.encode "\x7b\"error\": \x7b\"data\": 0\x7d, \"result\": []\x7d")
    client.Ready call.token address ∧ Request.Sendable call.params call.id ∧
      ∃ result log, (client.call call).run [reply] =
          ⟨result, [⟨address.text,
            address.authorization.or (bearer (client.effectiveToken call.token)),
            Request.encode call.method call.params call.id⟩], [], log⟩ ∧
        ∀ other, Classified address call reply other ↔ other = result := by
  intro client address call reply
  have ready : client.Ready call.token address :=
    ⟨rfl, rfl, rfl, fun _ member => nomatch member⟩
  have sendable : Request.Sendable call.params call.id :=
    Request.sendable_of_portable Request.portable_nestedIds (.text (Text.scalar_ofString "é\n"))
      (by decide)
  exact ⟨ready, sendable, run_call_classified ready sendable reply []⟩

end Client

end AlarmFeed
