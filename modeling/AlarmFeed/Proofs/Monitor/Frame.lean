/-
**What a client sends, and what it leaves alone.**

Each question to the monitor is one request at most, and all requests of a client for one caller
present the same authorization (`Client.Presents`), whatever is asked and whatever the replies. Of the
replies a question takes the one to its request, and depends on no other.

* `Client.contained_call` — so it is for a call;
* `Query.contained_ask`, `Query.contained_askFor` — and for a query.
-/

import AlarmFeed.Monitor.Query
import AlarmFeed.Proofs.Exchange.Frame
import AlarmFeed.Proofs.Monitor.Client

namespace AlarmFeed

open Exchange

namespace Client

/-- **A request presents the authorization of a client for a caller**: who asks by the address goes
before any token. -/
def Presents (client : Client) (token : Option Text) (request : Request) : Prop :=
  ∃ address, Address.toSend client.settings.url = .ok address ∧
    request.authorization = address.authorization.or (bearer (client.effectiveToken token))

theorem eq_bearer_of_authorization {token : Text} {written : Option Text}
    (accepted : authorization token = .ok written) : written = bearer token := by
  rw [authorization] at accepted
  rw [bearer]
  split at accepted
  · next none =>
    rw [if_pos none]
    exact (Except.ok.inj accepted).symm
  · next some =>
    rw [if_neg some]
    dsimp only at accepted
    split at accepted
    · cases accepted
    · exact (Except.ok.inj accepted).symm

theorem toSend_of_mapError {client : Client} {address : Address}
    (sendable : (Address.toSend client.settings.url).mapError AddressFlaw.fault = .ok address) :
    Address.toSend client.settings.url = .ok address := by
  cases found : Address.toSend client.settings.url with
  | error flaw =>
    rw [found] at sendable
    cases sendable
  | ok other =>
    rw [found] at sendable
    exact congrArg Except.ok (Except.ok.inj sendable)

section Calls

variable (client : Client) (call : Call)

theorem contained_post (id : Value) :
    (client.post call id).Contained 1 (client.Presents call.token) := by
  unfold post
  refine contained_ofExcept_bind fun address sendable => ?_
  refine contained_ofExcept_bind fun written accepted => ?_
  refine contained_ofExcept_bind fun _ _ => ?_
  refine Contained.bind_quiet (contained_send ?_) fun _ => contained_ofExcept _
  exact ⟨address, toSend_of_mapError sendable, by rw [eq_bearer_of_authorization accepted]⟩

/-- **A call sends at most one request**, with the authorization for the caller. -/
theorem contained_call : (client.call call).Contained 1 (client.Presents call.token) := by
  unfold Client.call
  refine contained_ofExcept_bind fun id _ => ?_
  split
  · exact contained_fail _
  · refine contained_note_bind ?_
    refine (client.contained_post call id).bind_quiet fun members => ?_
    split
    · exact contained_note_bind (contained_fail _)
    · exact contained_ofExcept _

end Calls

end Client

namespace Query

variable {α : Type} (client : Client) (method : Text) (id : Value) (token : Option Text) (title : Text)
  (reader : Schema.Reader α)

theorem contained_ask (params : Value) :
    (ask client method params id token title reader).Contained 1 (client.Presents token) := by
  unfold ask
  exact (client.contained_call ⟨method, params, id, token, true⟩).bind_quiet fun _ =>
    contained_ofExcept _

theorem contained_askFor (params : List Int → Value) (ids : List Int) :
    (askFor client method params ids id token title reader).Contained 1 (client.Presents token) := by
  unfold askFor
  split
  · exact contained_note_bind (contained_pure _)
  · exact contained_ask client method id token title reader _

end Query

end AlarmFeed
