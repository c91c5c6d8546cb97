/-
**Whose token goes to the monitor.**

All messages that are sent for a request present one authorization: that of the token chosen for the
caller, or else of the configured one (`answer_token`). Of the rules only those for the caller have a part
in the choice, and their order; any others can stand anywhere in the list, and no rule matters for a
caller without a token. A rule that lists the caller's address but has a token without bytes is left out
of account: the choice gets stuck at it (`Credential.Impeded`).
-/

import AlarmFeed.Proofs.Service.Answer

namespace AlarmFeed.Service

open Credential

section Choice

variable {service : Service} {request : WebRequest} {head : Head} {auth : AuthSettings}

/-- **The rules act through the choice alone.** -/
theorem answer_congr (read : Head.read request.head = .ok head)
    (same : resolve head.bearer request.origin auth =
      resolve head.bearer request.origin service.auth) :
    { service with auth := auth }.answer request = service.answer request := by
  have here : { service with auth := auth }.answerHere request.origin head =
      service.answerHere request.origin head := by
    unfold answerHere
    dsimp only
    rw [same]
  unfold answer
  rw [read]
  dsimp only
  unfold answerHead
  rw [here]

end Choice

/-- **Whose token goes to the monitor.** All messages for a request present the same authorization: the
one in the address of the monitor if there is one, else that of the chosen token, of the configured one if
none was chosen, and none if that is empty too. Rules that are not for the caller can be added, removed
or changed without any difference, and all rules can for a caller without a token. -/
theorem answer_token (service : Service) (request : WebRequest) (head : Head)
    (read : Head.read request.head = .ok head) (replies : List Reply) :
    (∀ message ∈ ((service.answer request).run replies).sent,
      ∃ address, Address.toSend service.client.settings.url = .ok address ∧
        message.authorization = address.authorization.or
          (Client.bearer (service.client.effectiveToken
            (chosen head.bearer request.origin service.auth)))) ∧
    (∀ auth : AuthSettings, auth.forwardBearer = service.auth.forwardBearer →
      rulesFor head.bearer request.origin auth.overrides =
        rulesFor head.bearer request.origin service.auth.overrides →
      ¬Impeded head.bearer request.origin auth →
      ¬Impeded head.bearer request.origin service.auth →
      ({ service with auth := auth }.answer request).run replies =
        (service.answer request).run replies) ∧
    (head.bearer = none → ∀ auth : AuthSettings,
      ({ service with auth := auth }.answer request).run replies =
        (service.answer request).run replies) := by
  refine ⟨?_, ?_, ?_⟩
  · intro message sent
    obtain ⟨other, readOther, presents⟩ :=
      ((service.contained_answer request).sends replies).2 message sent
    obtain rfl : other = head := Except.ok.inj (readOther.symm.trans read)
    exact presents
  · intro auth forward same free freeBefore
    rw [answer_congr read]
    rw [resolve_eq free, resolve_eq freeBefore, chosen_congr forward same]
  · intro none auth
    rw [answer_congr read]
    rw [none]
    rfl

/-! ### A caller with a token -/

/-- A request of a caller with a token. -/
def mine : WebRequest where
  headers := [("Authorization", "Bearer me")]
  remote := some "192.0.2.10"

theorem read_mine :
    Head.read mine.head = .ok ⟨"GET", "/api_csv.php", [("Authorization", "Bearer me")]⟩ :=
  Head.read_eq_ok (by decide +kernel)

/-- A rule that stands for the same token at another address. -/
def elsewhere : TokenOverride where
  bearer := ⟨"me"⟩
  allowedAddresses := ["203.0.113.7"]
  token := ⟨"privileged"⟩

/-- The caller's token goes to the monitor, and the rule for another address makes no difference. -/
theorem mine_is_presented :
    (∀ message ∈ ((usual.answer mine).run []).sent, message.authorization = some "Bearer me") ∧
    ({ usual with auth := { overrides := [elsewhere] } }.answer mine).run [] =
      (usual.answer mine).run [] := by
  obtain ⟨presented, same, _⟩ := answer_token usual mine _ read_mine []
  constructor
  · intro message sent
    obtain ⟨address, sendable, authorization⟩ := presented message sent
    obtain rfl := Except.ok.inj sendable
    exact authorization
  · refine same { overrides := [elsewhere] } rfl (by decide) ?_ ?_
    · refine not_impeded (fun own known => ?_) ?_
      · obtain rfl := Option.some.inj known
        exact Text.scalar_ofString "me"
      · exact List.forall_mem_singleton.mpr fun _ => Text.scalar_ofString "me"
    · refine not_impeded (fun own known => ?_) (List.forall_mem_nil _)
      obtain rfl := Option.some.inj known
      exact Text.scalar_ofString "me"

/-- A service over a client whose address holds a name and a password. -/
def asNamed : Service where
  client := { settings := { url := "http://u:p@h/x" }, connected := true }

/-- **The address goes before the token**: not every message presents the chosen token. -/
theorem not_every_message_presents_token :
    ¬∀ (service : Service) (request : WebRequest) (head : Head) (replies : List Reply),
      Head.read request.head = .ok head → (∀ own, head.bearer = some own → own.Scalar) →
      ∀ message ∈ ((service.answer request).run replies).sent,
        message.authorization = Client.bearer (service.client.effectiveToken
          (chosen head.bearer request.origin service.auth)) := by
  intro claimed
  have presented := claimed asNamed mine _ [] read_mine fun own known => by
    obtain rfl := Option.some.inj known
    exact Text.scalar_ofString "me"
  have sent : ((asNamed.answer mine).run []).sent.map Request.authorization =
      [some ("Basic dTpw" : Text)] := by decide +kernel
  obtain ⟨message, one, named⟩ := List.map_eq_singleton_iff.mp sent
  have token := presented message (one ▸ List.mem_singleton_self message)
  rw [named] at token
  exact absurd token (by decide)

end AlarmFeed.Service
