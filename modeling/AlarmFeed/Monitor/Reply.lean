/-
**Replies of the monitor.**

A reply is a status with a body, a failure to deliver one, or a break of the connection itself. The
monitor's own errors are none of these: they are made here, and `Reply.payload` and `resultOf`
attribute each of them to the request whose id they are given. `Reply.payload` is the object that a good
reply says; `errorText` picks the readable part out of an error that the monitor reports.
-/

import AlarmFeed.Fault
import AlarmFeed.Json.Encoding

namespace AlarmFeed

/-- What comes back for a request. -/
inductive Reply
  | answer (status : Nat) (body : Bytes)
  /-- The request, or the answer to it, was not delivered. -/
  | undelivered (flaw : DeliveryFlaw) (detail : Text)
  /-- What delivers the requests failed in a way of its own. -/
  | broken (flaw : GeneralFlaw) (detail : Text)

namespace Reply

/-- The reply when no more are to be had. -/
def none : Reply :=
  undelivered .connect "no reply scripted"

/-- What is readable of an error: of an object its details, else its message; anything else as it is. -/
def errorText : Value → Text
  | .object members =>
    let message := ((Fields.get? "message" members).getD (.text [])).display
    match Fields.get? "data" members with
    | some detail => if detail.isEmpty then message else detail.display
    | .none => message
  | error => error.display

/-- The fault of a request with a given id. -/
def fault (flaw : MonitorFlaw) (id : Value) (message : Text) : Fault :=
  .monitor { flaw := flaw, message := message, requestId := id }

/-- The object that a body says. -/
def members (id : Value) (body : Bytes) : Except Fault Members :=
  match Json.readBytes body with
  | .ok (.object members) => .ok members
  | .ok _ => .error (fault .response id "Zabbix API returned a non-object response")
  | .error (.tooDeep container) => .error (.nesting container)
  | .error _ => .error (fault .response id "Zabbix API returned invalid JSON")

/-- The object that a reply says; only a status from 200 to 299 is a success. -/
def payload (id : Value) : Reply → Except Fault Members
  | answer status body =>
    if 200 ≤ status ∧ status < 300 then members id body
    else .error (fault .connection id (("Zabbix API returned " : Text) ++ Decimal.digits status))
  | undelivered _ detail =>
    .error (fault .connection id (("Zabbix API request failed: " : Text) ++ detail))
  | broken flaw detail => .error (.general flaw detail)

/-- The result in an object that reports no error. -/
def resultOf (method : Text) (id : Value) (expectList : Bool) (members : Members) :
    Except Fault Value :=
  match Fields.get? "result" members with
  | .none => .error (fault .response id "Zabbix API response has no result")
  | some (.list items) => .ok (.list items)
  | some value =>
    if expectList then
      .error (fault .response id (method ++ (" did not return a list" : Text)))
    else .ok value

end Reply

end AlarmFeed
