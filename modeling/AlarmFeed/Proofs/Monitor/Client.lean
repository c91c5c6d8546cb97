/-
**What a call of the monitor comes to.**

A client is ready (`Client.Ready`) if it is connected, its address can be sent to, and its token is
ASCII. What a ready client makes of a reply is a function of the reply alone (`Client.understood`):

* `run_call` — a ready client sends the call once and understands the next reply;
* `run_call_of_unready` — one that is not ready (`Client.Unready`) sends nothing and fails;
* `understood_attributed` — whatever the reply, an error of the monitor names the id of the call;
* `understood_bounded` — what is understood holds no integer that is too long to be sent.

The first two need that the id is read back out of the written call; the monitor's errors carry the id
that was read, all other faults carry none.
-/

import AlarmFeed.Monitor.Client
import AlarmFeed.Proofs.Exchange
import AlarmFeed.Proofs.Json.Limits
import AlarmFeed.Proofs.Text.Scalar

namespace AlarmFeed

/-- **The fault blames a request**: it has words, and if it is an error of the monitor, it names that
request, with the usual code. -/
def Fault.Attributed (id : Value) : Fault → Prop
  | .monitor error => error.requestId = id ∧ error.code = 1
  | .mute _ _ => False
  | _ => True

theorem Fault.attributed_fault (flaw : MonitorFlaw) (id : Value) (message : Text) :
    (Reply.fault flaw id message).Attributed id :=
  ⟨rfl, rfl⟩

theorem AddressFlaw.fault_attributed (flaw : AddressFlaw) (id : Value) :
    flaw.fault.Attributed id := by
  cases flaw <;> trivial

theorem Address.checkHost_attributed {address : Address} {fault : Fault}
    (refused : address.checkHost = .error fault) (id : Value) : fault.Attributed id := by
  rw [checkHost.eq_def] at refused
  dsimp only at refused
  split at refused <;> cases refused <;> trivial

/-! ### Replies -/

namespace Reply

theorem members_attributed {id : Value} {body : Bytes} {fault : Fault}
    (failed : members id body = .error fault) : fault.Attributed id := by
  rw [members.eq_def] at failed
  split at failed
  · cases failed
  · cases failed
    exact Fault.attributed_fault _ _ _
  · cases failed
    trivial
  · cases failed
    exact Fault.attributed_fault _ _ _

theorem payload_attributed {id : Value} {reply : Reply} {fault : Fault}
    (failed : reply.payload id = .error fault) : fault.Attributed id := by
  cases reply with
  | answer status body =>
    rw [payload] at failed
    split at failed
    · exact members_attributed failed
    · cases failed
      exact Fault.attributed_fault _ _ _
  | undelivered flaw detail =>
    cases failed
    exact Fault.attributed_fault _ _ _
  | broken flaw detail =>
    cases failed
    trivial

theorem resultOf_attributed {method : Text} {id : Value} {expectList : Bool} {members : Members}
    {fault : Fault} (failed : resultOf method id expectList members = .error fault) :
    fault.Attributed id := by
  rw [resultOf.eq_def] at failed
  split at failed
  · cases failed
    exact Fault.attributed_fault _ _ _
  · cases failed
  · split at failed
    · cases failed
      exact Fault.attributed_fault _ _ _
    · cases failed

/-- The object that a reply says holds no integer that is too long. -/
theorem payload_bounded {id : Value} {reply : Reply} {said : Members}
    (told : reply.payload id = .ok said) : ∀ member ∈ said, member.2.Bounded := by
  cases reply with
  | answer status body =>
    rw [payload] at told
    split at told
    · rw [members.eq_def] at told
      split at told
      · next read =>
        cases told
        cases Json.readBytes_bounded read with
        | object each => exact each
      · cases told
      · cases told
      · cases told
    · cases told
  | undelivered flaw detail => cases told
  | broken flaw detail => cases told

theorem resultOf_bounded {method : Text} {id result : Value} {expectList : Bool} {members : Members}
    (bounded : ∀ member ∈ members, member.2.Bounded)
    (told : resultOf method id expectList members = .ok result) : result.Bounded := by
  rw [resultOf.eq_def] at told
  split at told
  · cases told
  · next found =>
    cases told
    exact bounded _ (Fields.mem_of_get? found)
  · next found =>
    split at told
    · cases told
    · cases told
      exact bounded _ (Fields.mem_of_get? found)

/-- **A reply delivers values**: it is a success whose object has them as the result, and no error. -/
def Delivers (reply : Reply) (values : List Value) : Prop :=
  ∃ status body members, reply = .answer status body ∧ (200 ≤ status ∧ status < 300) ∧
    Json.readBytes body = .ok (.object members) ∧ Fields.get? "error" members = Option.none ∧
    Fields.get? "result" members = some (.list values)

/-- A reply delivers one list. -/
theorem Delivers.unique {reply : Reply} {values values' : List Value}
    (delivers : reply.Delivers values) (delivers' : reply.Delivers values') : values = values' := by
  obtain ⟨_, body, members, rfl, _, read, _, result⟩ := delivers
  obtain ⟨_, _, _, same, _, read', _, result'⟩ := delivers'
  cases same
  cases read.symm.trans read'
  cases result.symm.trans result'
  rfl

end Reply

namespace Client

/-! ### What a reply says -/

/-- What a client makes of the reply to a call; one that is missing is one that was not delivered. -/
def understood (address : Address) (method : Text) (expectList : Bool) (id : Value)
    (reply : Option Reply) : Except Fault Value :=
  match (usable address (reply.getD Reply.none)).payload id with
  | .error fault => .error fault
  | .ok members =>
    match Fields.get? "error" members with
    | some error => .error (Reply.fault .refusal id (Reply.errorText error))
    | none => Reply.resultOf method id expectList members

/-- What a client makes of a reply that delivers values: an answer to a relative address is of no use. -/
theorem understood_of_delivers {reply : Reply} {values : List Value} (delivers : reply.Delivers values)
    (address : Address) (method : Text) (expectList : Bool) (id : Value) :
    understood address method expectList id (some reply) =
      if address.isRelative then
        .error (.general .value (("unknown url type: " : Text) ++ address.text.quoted))
      else .ok (.list values) := by
  obtain ⟨status, body, members, rfl, success, read, noError, result⟩ := delivers
  rw [understood, Option.getD_some, usable]
  by_cases relative : address.isRelative
  · rw [if_pos relative, if_pos relative]
    rfl
  · rw [if_neg relative, if_neg relative, Reply.payload, if_pos success, Reply.members, read]
    dsimp only
    rw [noError]
    dsimp only
    rw [Reply.resultOf, result]

/-- **Whatever the reply**, an error of the monitor names the id of the call. -/
theorem understood_attributed {address : Address} {method : Text} {expectList : Bool} {id : Value}
    {reply : Option Reply} {fault : Fault}
    (failed : understood address method expectList id reply = .error fault) :
    fault.Attributed id := by
  rw [understood] at failed
  split at failed
  · next refused =>
    cases failed
    exact Reply.payload_attributed refused
  · split at failed
    · cases failed
      exact Fault.attributed_fault _ _ _
    · exact Reply.resultOf_attributed failed

/-- **What is understood** holds no integer that is too long, since the body of no reply does. -/
theorem understood_bounded {address : Address} {method : Text} {expectList : Bool} {id result : Value}
    {reply : Option Reply} (told : understood address method expectList id reply = .ok result) :
    result.Bounded := by
  rw [understood] at told
  split at told
  · cases told
  · next said =>
    split at told
    · cases told
    · exact Reply.resultOf_bounded (Reply.payload_bounded said) told

/-! ### Tokens -/

/-- How a token is presented; an empty one is not. -/
def bearer (token : Text) : Option Text :=
  if token = [] then none else some (("Bearer " : Text) ++ token)

theorem authorization_of_ascii {token : Text} (ascii : ∀ c ∈ token, c.val < 0x80) :
    authorization token = .ok (bearer token) := by
  rw [authorization, bearer]
  by_cases empty : token = []
  · rw [if_pos empty, if_pos empty]
  · have carried : Charset.ascii.unencodable? (("Bearer " : Text) ++ token) = none := by
      refine Charset.unencodable?_eq_none.mpr ?_
      intro c member
      have small : c.val < 0x80 := by
        rcases List.mem_append.mp member with front | behind
        · have word : (("Bearer " : Text).all fun c => c.val < 0x80) = true := by decide
          exact of_decide_eq_true (List.all_eq_true.mp word c front)
        · exact ascii c behind
      exact decide_eq_false (Nat.not_le.mpr small)
    rw [if_neg empty, if_neg empty]
    dsimp only
    rw [carried]

theorem authorization_of_not_ascii {token : Text} {c : CodePoint} (member : c ∈ token)
    (large : 0x80 ≤ c.val) : ∃ run, authorization token = .error (.unencodable run) := by
  rw [authorization, if_neg (List.ne_nil_of_mem member)]
  dsimp only
  cases found : Charset.ascii.unencodable? (("Bearer " : Text) ++ token) with
  | some run => exact ⟨run, rfl⟩
  | none =>
    have carried := Charset.unencodable?_eq_none.mp found c (List.mem_append_right _ member)
    exact absurd large (of_decide_eq_false carried)

/-! ### Calls -/

/-- **A client that can send**: it is connected, its address can be sent to, and its token is ASCII. -/
structure Ready (client : Client) (token : Option Text) (address : Address) : Prop where
  connected : client.connected = true
  accepted : Address.toSend client.settings.url = .ok address
  named : address.checkHost = .ok ()
  ascii : ∀ c ∈ client.effectiveToken token, c.val < 0x80

/-- **A client that cannot send**, to whatever address. -/
def Unready (client : Client) (token : Option Text) : Prop :=
  ∀ address, ¬client.Ready token address

/-- A client that is not connected, or has a token that is not ASCII, cannot send. -/
theorem unready_of {client : Client} {token : Option Text}
    (cause : client.connected = false ∨ ∃ c ∈ client.effectiveToken token, 0x80 ≤ c.val) :
    client.Unready token := by
  intro address ready
  rcases cause with closed | ⟨c, member, large⟩
  · exact absurd (closed.symm.trans ready.connected) (by decide)
  · exact absurd (ready.ascii c member) (Nat.not_lt.mpr large)

/-- The message that a call is. -/
def message (client : Client) (address : Address) (token : Option Text) (method : Text)
    (params id : Value) : Request :=
  ⟨address.text, address.authorization.or (bearer (client.effectiveToken token)),
    Request.encode method params id⟩

section Calls

variable {client : Client} {address : Address} {call : Call} {id : Value}

theorem run_post (ready : client.Ready call.token address) (id : Value) (replies : List Reply) :
    (client.post call id).run replies =
      ⟨(usable address (replies.head?.getD Reply.none)).payload id,
        [client.message address call.token call.method call.params call.id], replies.tail, []⟩ := by
  rw [post, ready.accepted, authorization_of_ascii ready.ascii, Except.mapError,
    Exchange.run_ofExcept_ok_bind, Exchange.run_ofExcept_ok_bind, ready.named,
    Exchange.run_ofExcept_ok_bind, Exchange.run_send_bind]
  rfl

/-- **A ready client sends a call once** and understands the next reply. -/
theorem run_call (ready : client.Ready call.token address)
    (named : Request.idOfText (Request.encode call.method call.params call.id) = .ok id)
    (replies : List Reply) :
    ∃ log, (client.call call).run replies =
      ⟨understood address call.method call.expectList id replies.head?,
        [client.message address call.token call.method call.params call.id], replies.tail, log⟩ := by
  rw [Client.call, named, Exchange.run_ofExcept_ok_bind, ready.connected]
  simp only [Bool.not_true, Bool.false_eq_true, if_false]
  rw [Exchange.run_note_bind, Exchange.run_bind, run_post ready, understood]
  cases (usable address (replies.head?.getD Reply.none)).payload id with
  | error fault => exact ⟨_, rfl⟩
  | ok members =>
    dsimp only
    cases Fields.get? "error" members with
    | none => exact ⟨_, rfl⟩
    | some error => exact ⟨_, rfl⟩

/-- What is at fault with a connected client stops it in front of the message. -/
theorem run_post_of_unready (connected : client.connected = true) (unready : client.Unready call.token)
    (id : Value) :
    ∃ fault, fault.Attributed id ∧
      ∀ replies, (client.post call id).run replies = ⟨.error fault, [], replies, []⟩ := by
  rw [post]
  cases accepted : Address.toSend client.settings.url with
  | error flaw => exact ⟨flaw.fault, flaw.fault_attributed id, fun _ => rfl⟩
  | ok address =>
    by_cases ascii : ∀ c ∈ client.effectiveToken call.token, c.val < 0x80
    · cases host : address.checkHost with
      | error fault =>
        refine ⟨fault, Address.checkHost_attributed host id, fun replies => ?_⟩
        rw [authorization_of_ascii ascii, Except.mapError, Exchange.run_ofExcept_ok_bind,
          Exchange.run_ofExcept_ok_bind, host]
        rfl
      | ok checked => exact absurd ⟨connected, accepted, host, ascii⟩ (unready address)
    · obtain ⟨c, member, large⟩ : ∃ c ∈ client.effectiveToken call.token, ¬c.val < 0x80 := by
        simpa only [not_forall, exists_prop] using ascii
      obtain ⟨run, refused⟩ := authorization_of_not_ascii member (Nat.not_lt.mp large)
      rw [refused]
      exact ⟨.unencodable run, trivial, fun _ => rfl⟩

/-- **A client that is not ready sends nothing** and fails, whatever the replies. -/
theorem run_call_of_unready (unready : client.Unready call.token)
    (named : Request.idOfText (Request.encode call.method call.params call.id) = .ok id) :
    ∃ fault log, fault.Attributed id ∧
      ∀ replies, (client.call call).run replies = ⟨.error fault, [], replies, log⟩ := by
  rw [Client.call, named]
  by_cases connected : client.connected = true
  · obtain ⟨fault, attributed, stopped⟩ := run_post_of_unready connected unready id
    refine ⟨fault, [⟨.debug, "zabbix_request", [("method", .text call.method), ("request_id", call.id)]⟩],
      attributed, fun replies => ?_⟩
    rw [Exchange.run_ofExcept_ok_bind, connected]
    simp only [Bool.not_true, Bool.false_eq_true, if_false]
    rw [Exchange.run_note_bind, Exchange.run_bind_of_error (by rw [stopped]), stopped]
  · rw [Bool.not_eq_true] at connected
    rw [connected]
    exact ⟨_, _, Fault.attributed_fault .connection id "HTTP client not connected", fun _ => rfl⟩

end Calls

end Client

end AlarmFeed
