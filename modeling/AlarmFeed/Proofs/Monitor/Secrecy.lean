/-
**Tokens go into the authorization and nowhere else.**

Two clients that differ in their tokens alone, asked by callers with tokens of their own, stay in step
(`Exchange.InStep`): they send the same messages but for the authorization (`Request.SameBut`), make the
same of the replies, and log the same. A token acts on a run in one more way, which is left out here: if
it is not ASCII it cannot be sent at all, so `Client.Presentable` asks that it is.

* `Client.authorization_eq_none_iff` — an authorization is left out exactly if there is no token to
  present, and no one who asks in the address (`Client.Nameless`).
-/

import AlarmFeed.Proofs.Exchange.Lockstep
import AlarmFeed.Proofs.Monitor.Frame

namespace AlarmFeed

open Exchange

/-- Two requests are the same but for the authorization. -/
def Request.SameBut (first second : Request) : Prop :=
  second.url = first.url ∧ second.body = first.body

theorem Request.sameBut_refl (request : Request) : request.SameBut request :=
  ⟨rfl, rfl⟩

namespace Client

/-- The client with another token. -/
def withToken (client : Client) (token : Secret) : Client :=
  { client with settings := { client.settings with token := token } }

/-! ### Tokens that can be presented -/

/-- The token of a caller, if there is one, and the configured one can be sent. -/
structure Presentable (client : Client) (token : Option Text) : Prop where
  caller : ∀ own, token = some own → ∀ c ∈ own, c.val < 0x80
  configured : ∀ c ∈ client.settings.token.content, c.val < 0x80

theorem Presentable.effective {client : Client} {token : Option Text}
    (presentable : client.Presentable token) : ∀ c ∈ client.effectiveToken token, c.val < 0x80 := by
  unfold effectiveToken
  split
  · exact presentable.caller _ rfl
  · exact presentable.configured

/-- **There is no token to present**: neither the caller brings one nor one is configured. -/
def Tokenless (client : Client) (token : Option Text) : Prop :=
  token.getD [] = [] ∧ client.settings.token.content = []

instance (client : Client) (token : Option Text) : Decidable (client.Tokenless token) :=
  inferInstanceAs (Decidable (_ ∧ _))

/-- The address of a client says nothing of who asks. -/
def Nameless (client : Client) : Prop :=
  ∀ address, Address.toSend client.settings.url = .ok address → address.authorization = none

theorem effectiveToken_eq_nil_iff (client : Client) (token : Option Text) :
    client.effectiveToken token = [] ↔ client.Tokenless token := by
  unfold effectiveToken Tokenless
  match token with
  | none => simp
  | some [] => simp
  | some (c :: rest) => simp

theorem bearer_eq_none_iff (token : Text) : bearer token = none ↔ token = [] := by
  unfold bearer
  split
  · next none => exact iff_of_true rfl none
  · next some => exact iff_of_false (Option.some_ne_none _) some

/-- **When a request has no authorization.** -/
theorem authorization_eq_none_iff {client : Client} {token : Option Text} {request : Request}
    (presents : client.Presents token request) :
    request.authorization = none ↔ client.Tokenless token ∧ client.Nameless := by
  obtain ⟨address, sendable, authorization⟩ := presents
  have nameless : client.Nameless ↔ address.authorization = none := by
    constructor
    · exact fun all => all address sendable
    · intro none other found
      obtain rfl := Except.ok.inj (sendable.symm.trans found)
      exact none
  rw [authorization, Option.or_eq_none_iff, bearer_eq_none_iff, effectiveToken_eq_nil_iff, nameless,
    and_comm]

/-! ### Two clients in step -/

section Calls

variable {client : Client} {secret : Secret} {call : Call} {token : Option Text}

theorem inStep_post (presentable : client.Presentable call.token)
    (presentable' : (client.withToken secret).Presentable token) (id : Value) :
    InStep Request.SameBut Eq (client.post call id)
      ((client.withToken secret).post { call with token := token } id) := by
  unfold post
  rw [authorization_of_ascii presentable.effective, authorization_of_ascii presentable'.effective]
  refine InStep.after Request.sameBut_refl _ fun address => ?_
  refine InStep.bind (R := fun _ _ => True) (fun _ => ⟨.ok trivial, .nil, rfl, rfl⟩) fun _ _ _ => ?_
  refine InStep.after Request.sameBut_refl _ fun _ => ?_
  exact (InStep.send ⟨rfl, rfl⟩).bind_eq fun _ => InStep.refl Request.sameBut_refl _

/-- **Two calls stay in step** whatever tokens are presented. -/
theorem inStep_call (presentable : client.Presentable call.token)
    (presentable' : (client.withToken secret).Presentable token) :
    InStep Request.SameBut Eq (client.call call)
      ((client.withToken secret).call { call with token := token }) := by
  unfold Client.call
  refine InStep.after Request.sameBut_refl _ fun id => ?_
  show InStep _ _ (if !client.connected then _ else _) (if !client.connected then _ else _)
  split
  · exact InStep.refl Request.sameBut_refl _
  · refine InStep.after Request.sameBut_refl _ fun _ => ?_
    exact (inStep_post presentable presentable' id).bind_eq fun _ =>
      InStep.refl Request.sameBut_refl _

end Calls

end Client

namespace Query

variable {α : Type} {client : Client} {secret : Secret} {token token' : Option Text}

theorem inStep_ask (presentable : client.Presentable token)
    (presentable' : (client.withToken secret).Presentable token') (method : Text) (params id : Value)
    (title : Text) (reader : Schema.Reader α) :
    InStep Request.SameBut Eq (ask client method params id token title reader)
      (ask (client.withToken secret) method params id token' title reader) := by
  unfold ask
  have calls : InStep Request.SameBut Eq (client.call ⟨method, params, id, token, true⟩)
      ((client.withToken secret).call ⟨method, params, id, token', true⟩) :=
    Client.inStep_call presentable presentable'
  exact calls.bind_eq fun _ => InStep.refl Request.sameBut_refl _

theorem inStep_askFor (presentable : client.Presentable token)
    (presentable' : (client.withToken secret).Presentable token') (method : Text)
    (params : List Int → Value) (ids : List Int) (id : Value) (title : Text)
    (reader : Schema.Reader α) :
    InStep Request.SameBut Eq (askFor client method params ids id token title reader)
      (askFor (client.withToken secret) method params ids id token' title reader) := by
  unfold askFor
  split
  · exact InStep.refl Request.sameBut_refl _
  · exact inStep_ask presentable presentable' method _ id title reader

end Query

end AlarmFeed
