/-
**A client of the monitor.**

A client is connected or not. `Client.call` sends one request and returns its result; it sends nothing
when the client is not connected, the configured address is none, or the token is not ASCII. A caller's
token goes before the configured one, and an empty token is none; who asks by the address goes before
any token.
-/

import AlarmFeed.Exchange
import AlarmFeed.Monitor.Address
import AlarmFeed.Monitor.Reply
import AlarmFeed.Monitor.Request
import AlarmFeed.Settings.Basic

namespace AlarmFeed

/-- A run that talks to the monitor. -/
abbrev Talk (α : Type) := Exchange Reply Request α

/-- A client of the monitor. -/
structure Client where
  settings : MonitorSettings
  connected : Bool := false

/-- A call of a method of the monitor. -/
structure Call where
  method : Text
  params : Value
  id : Value
  token : Option Text
  /-- Whether only a list is a good result. -/
  expectList : Bool

namespace Client

/-- Opens the connection. -/
def connect (client : Client) : Talk Client := do
  Exchange.note .info "zabbix_client_connected" [("url", .text client.settings.url)]
  return { client with connected := true }

/-- Closes the connection if it is open. -/
def close (client : Client) : Talk Client := do
  if client.connected then
    Exchange.note .info "zabbix_client_closed" []
  return { client with connected := false }

/-- The token that is presented: the caller's, or else the configured one. -/
def effectiveToken (client : Client) (token : Option Text) : Text :=
  match token with
  | some (c :: rest) => c :: rest
  | _ => client.settings.token.content

/-- The authorization for a token; none for the empty one, a fault for one that is not ASCII. -/
def authorization (token : Text) : Except Fault (Option Text) :=
  if token = [] then .ok none
  else
    let header := ("Bearer " : Text) ++ token
    match Charset.ascii.unencodable? header with
    | some run => .error (.unencodable run)
    | none => .ok (some header)

/-- What is left of a reply to a request that was sent to an address: an answer to a relative one is of
no use. -/
def usable (address : Address) : Reply → Reply
  | .answer status body =>
    if address.isRelative then
      .broken .value (("unknown url type: " : Text) ++ address.text.quoted)
    else .answer status body
  | reply => reply

/-- Sends a request and returns the object that the reply says. -/
def post (client : Client) (call : Call) (id : Value) : Talk Members := do
  let address ← Exchange.ofExcept ((Address.toSend client.settings.url).mapError AddressFlaw.fault)
  let bearer ← Exchange.ofExcept (authorization (client.effectiveToken call.token))
  Exchange.ofExcept address.checkHost
  let body := Request.encode call.method call.params call.id
  let reply ← Exchange.send ⟨address.text, address.authorization.or bearer, body⟩
  Exchange.ofExcept ((usable address (reply.getD Reply.none)).payload id)

/-- Sends a request and returns its result. -/
def call (client : Client) (call : Call) : Talk Value := do
  let id ← Exchange.ofExcept (Request.idOfText (Request.encode call.method call.params call.id))
  if !client.connected then
    Exchange.fail (Reply.fault .connection id "HTTP client not connected")
  else
    Exchange.note .debug "zabbix_request" [("method", .text call.method), ("request_id", call.id)]
    let members ← client.post call id
    match Fields.get? "error" members with
    | some error =>
      let message := Reply.errorText error
      Exchange.note .warning "zabbix_api_error"
        [("method", .text call.method), ("request_id", call.id), ("error", .text message)]
      Exchange.fail (Reply.fault .refusal id message)
    | none => Exchange.ofExcept (Reply.resultOf call.method id call.expectList members)

end Client

end AlarmFeed
