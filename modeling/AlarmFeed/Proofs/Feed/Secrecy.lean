/-
**No table, no log and no message body tells a token.**

Two feeds over one client that differ in tokens alone, the caller's and the configured one, stay in step
(`inStep_render`), so that all that is seen of them is the same but for the authorization of their
messages.

* `render_secret` — so it is for every script of replies and every caller; and a message has no
  authorization exactly if there is no token to present and the address of the client names no one;
* `not_every_tokenless_message_bare` — without the latter there can be one although there is no token:
  who asks by the address goes before any token.
-/

import AlarmFeed.Proofs.Feed.Frame
import AlarmFeed.Proofs.Feed.Protocol
import AlarmFeed.Proofs.Monitor.Secrecy

namespace AlarmFeed.Feed

open Exchange

variable {ρ σ : Type}

/-! ### Feeds in step -/

section Asking

variable {S : σ → σ → Prop} {feed feed' : Feed ρ σ}

/-- **The questions of two feeds are in step**, and what they print may be nested equally deep. -/
structure AsksInStep (S : σ → σ → Prop) (feed feed' : Feed ρ σ) : Prop where
  reflexive : ∀ message, S message message
  depth : feed'.depth = feed.depth
  problems : InStep S Eq (feed.source.problems (.int problemsId) feed.token)
    (feed'.source.problems (.int problemsId) feed'.token)
  events : ∀ ids, InStep S Eq (feed.source.events ids (.int eventsId) feed.token)
    (feed'.source.events ids (.int eventsId) feed'.token)
  triggers : ∀ ids, InStep S Eq (feed.source.triggers ids (.int triggersId) feed.token)
    (feed'.source.triggers ids (.int triggersId) feed'.token)

theorem inStep_askTriggers (asks : AsksInStep S feed feed') (problems : List Problem)
    (events : List Event) :
    InStep S Eq (feed.askTriggers problems events) (feed'.askTriggers problems events) := by
  unfold askTriggers
  refine (asks.triggers _).attempt_bind fun result => ?_
  cases result with
  | error fault => exact InStep.refl asks.reflexive _
  | ok triggers => exact InStep.refl asks.reflexive _

theorem inStep_askEvents (asks : AsksInStep S feed feed') (problems : List Problem) :
    InStep S Eq (feed.askEvents problems) (feed'.askEvents problems) := by
  unfold askEvents
  refine (asks.events _).attempt_bind fun result => ?_
  cases result with
  | error fault => exact InStep.refl asks.reflexive _
  | ok events => exact inStep_askTriggers asks problems events

theorem inStep_askProblems (asks : AsksInStep S feed feed') :
    InStep S Eq feed.askProblems feed'.askProblems := by
  unfold askProblems
  refine asks.problems.attempt_bind fun result => ?_
  split
  · exact InStep.refl asks.reflexive _
  · exact InStep.refl asks.reflexive _
  · exact inStep_askEvents asks _

/-- Two feeds are left with the same last request, and gave the same table. -/
def SameTable (left left' : Feed ρ σ × AlarmTable) : Prop :=
  left'.1.lastRequestId = left.1.lastRequestId ∧ left'.2 = left.2

/-- **Tables are made in step** if the questions are asked so. -/
theorem inStep_render (asks : AsksInStep S feed feed') (origin : Text) :
    InStep S SameTable (feed.render origin) (feed'.render origin) := by
  unfold render buildRows
  refine InStep.bind (R := fun built built' =>
    built'.1.lastRequestId = built.1.lastRequestId ∧ built'.1.depth = built.1.depth ∧
      built'.2 = built.2) ?_ ?_
  · exact (inStep_askProblems asks).bind_eq fun _ => .pure ⟨rfl, asks.depth, rfl⟩
  · rintro ⟨after, result⟩ ⟨after', result'⟩ ⟨last, depth, same⟩
    dsimp only at last depth same ⊢
    subst same
    rw [last, depth]
    cases result' with
    | error fault => exact .after asks.reflexive _ fun table => .pure ⟨last, rfl⟩
    | ok rows => exact .pure ⟨last, rfl⟩

end Asking

/-! ### Feeds over a client -/

/-- The feed of a client for a caller with a token, or without one. -/
def overClient (client : Client) (token : Option Text) : Feed Reply Request where
  source := client.source
  token := token

section Monitored

variable {client : Client} {secret : Secret} {token token' : Option Text}

theorem asksInStep_client (presentable : client.Presentable token)
    (presentable' : (client.withToken secret).Presentable token') :
    AsksInStep Request.SameBut (overClient client token)
      (overClient (client.withToken secret) token') where
  reflexive := Request.sameBut_refl
  depth := rfl
  problems := Query.inStep_ask presentable presentable' _ _ _ _ _
  events ids := Query.inStep_askFor presentable presentable' _ _ ids _ _ _
  triggers ids := Query.inStep_askFor presentable presentable' _ _ ids _ _ _

/-- **A run leaves the authorization out as it should**: of all its messages if there is no token to
present and the address names no one who asks, and of none of them otherwise. -/
def Authorizes (client : Client) (token : Option Text) (sent : List Request) : Prop :=
  ∀ request ∈ sent, request.authorization = none ↔ client.Tokenless token ∧ client.Nameless

theorem authorizes_render (client : Client) (token : Option Text) (origin : Text)
    (replies : List Reply) :
    Authorizes client token (((overClient client token).render origin).run replies).sent := by
  have contained := contained_render (asks_client client token) origin
  exact fun request member =>
    Client.authorization_eq_none_iff ((contained.sends replies).2 request member)

end Monitored

/-- **Tokens go into the authorization and nowhere else.** Two runs for a table that differ in tokens
alone give the same table, remember the same last request, leave the same replies and the same log, and
send the same messages but for the authorization; in each run it is left out as it should. -/
theorem render_secret (client : Client) (secret : Secret) (token token' : Option Text)
    (presentable : client.Presentable token)
    (presentable' : (client.withToken secret).Presentable token') (origin : Text)
    (replies : List Reply) :
    let run := ((overClient client token).render origin).run replies
    let run' := ((overClient (client.withToken secret) token').render origin).run replies
    (∃ after after' table, run.result = .ok (after, table) ∧ run'.result = .ok (after', table) ∧
        after'.lastRequestId = after.lastRequestId) ∧
      run'.log = run.log ∧ run'.rest = run.rest ∧ List.Forall₂ Request.SameBut run.sent run'.sent ∧
      Authorizes client token run.sent ∧ Authorizes (client.withToken secret) token' run'.sent := by
  intro run run'
  obtain ⟨ended, sent, rest, log⟩ :=
    inStep_render (asksInStep_client presentable presentable') origin replies
  refine ⟨?_, log, rest, sent, authorizes_render client token origin replies,
    authorizes_render (client.withToken secret) token' origin replies⟩
  have monitored : (overClient client token).source = client.source := rfl
  obtain ⟨id, made, rendered⟩ := exists_render monitored origin replies
  rcases ended.cases with ⟨_, failed, _⟩ | ⟨⟨after, table⟩, ⟨after', table'⟩, ⟨last, same⟩, good, good'⟩
  · exact nomatch rendered.symm.trans failed
  · obtain rfl : table' = table := same
    exact ⟨after, after', table', good, good', last⟩

/-! ### A client with a token -/

/-- The usual client with a token of its own. -/
def trusted : Client :=
  (usualClient true).withToken ⟨"configured"⟩

/-- A monitor that refuses the first question. -/
def refusing : List Reply :=
  [.answer 200 (Utf8.encode "\x7b\"error\": \"Not authorized.\"\x7d")]

/-- The usual address says nothing of who asks. -/
theorem nameless_trusted : trusted.Nameless := by
  intro address sendable
  obtain rfl := Except.ok.inj (usual_ready.accepted.symm.trans sendable)
  decide

/-- A caller with a token and a client with another are told from a caller and a client without any by
the authorization alone. -/
theorem trusted_secret :
    trusted.Presentable (some "mine") ∧ (trusted.withToken ⟨[]⟩).Presentable none ∧
    ∃ after after' table,
      (((overClient trusted (some "mine")).render "192.0.2.10").run refusing).result =
        .ok (after, table) ∧
      (((overClient (trusted.withToken ⟨[]⟩) none).render "192.0.2.10").run refusing).result =
        .ok (after', table) ∧
      (∀ request ∈ (((overClient trusted (some "mine")).render "192.0.2.10").run refusing).sent,
        request.authorization ≠ none) ∧
      ∀ request ∈ (((overClient (trusted.withToken ⟨[]⟩) none).render "192.0.2.10").run
        refusing).sent, request.authorization = none := by
  have mine : (("mine" : Text).all fun c => c.val < 0x80) = true := by decide +kernel
  have configured : (("configured" : Text).all fun c => c.val < 0x80) = true := by decide +kernel
  have presentable : trusted.Presentable (some "mine") := by
    constructor
    · rintro _ ⟨⟩ c member
      exact of_decide_eq_true (List.all_eq_true.mp mine c member)
    · intro c member
      exact of_decide_eq_true (List.all_eq_true.mp configured c member)
  have presentable' : (trusted.withToken ⟨[]⟩).Presentable none :=
    ⟨fun _ brought => (nomatch brought), fun _ member => (nomatch member)⟩
  obtain ⟨⟨after, after', table, rendered, rendered', _⟩, _, _, _, authorizes, authorizes'⟩ :=
    render_secret trusted ⟨[]⟩ (some "mine") none presentable presentable' "192.0.2.10" refusing
  refine ⟨presentable, presentable', after, after', table, rendered, rendered', ?_, ?_⟩
  · intro request member bare
    exact absurd ((authorizes request member).mp bare).1 (by decide +kernel)
  · intro request member
    exact (authorizes' request member).mpr ⟨by decide +kernel, nameless_trusted⟩

/-- A client whose address holds a name and a password. -/
def namedClient : Client where
  settings := { url := "http://u:p@h/x" }
  connected := true

/-- **Not every message without a token is bare**: who asks by the address goes before any token. -/
theorem not_every_tokenless_message_bare :
    ¬∀ (client : Client) (token : Option Text) (origin : Text) (replies : List Reply),
      client.Presentable token →
      ∀ message ∈ (((overClient client token).render origin).run replies).sent,
        (message.authorization = none ↔ client.Tokenless token) := by
  intro claimed
  have presentable : namedClient.Presentable none :=
    ⟨fun _ brought => (nomatch brought), fun _ member => (nomatch member)⟩
  have bare := claimed namedClient none "192.0.2.10" [] presentable
  have sent : (((overClient namedClient none).render "192.0.2.10").run []).sent.map
      Request.authorization = [some ("Basic dTpw" : Text)] := by decide +kernel
  obtain ⟨message, one, named⟩ := List.map_eq_singleton_iff.mp sent
  have none := (bare message (one ▸ List.mem_singleton_self message)).mpr (by decide)
  rw [named] at none
  exact nomatch none

end AlarmFeed.Feed
