/-
**What the three queries come to.**

A query sends one request and reads the records of the reply; what it makes of the reply is again a
function of the reply alone (`Query.understood`).

* `run_ask`, `run_askFor` — a ready client sends the query once, with ids if it has some;
* `run_ask_of_unready` — a client that is not ready sends nothing and fails;
* `understood_attributed` — an error of the monitor names the request;
* `short_of_problems` — the ids of the problems that were understood are not too long to be asked for,
  so the id of the next request is read back too (`portable_eventParams`, `portable_triggerParams`).
-/

import AlarmFeed.Monitor.Query
import AlarmFeed.Proofs.Monitor.Client
import AlarmFeed.Proofs.Monitor.Request
import AlarmFeed.Proofs.Schema.Accepted

namespace AlarmFeed

/-- The ids of a problem that was read are integers of the value that it was read from. -/
theorem Problem.short_of_read {value : Value} {problem : Problem} (bounded : value.Bounded)
    (accepted : Problem.read value = .ok problem) :
    Decimal.Short problem.eventId ∧ Decimal.Short problem.objectId := by
  obtain ⟨members, rfl, accepted⟩ := Schema.record_eq_ok.mp accepted
  cases bounded with
  | object each =>
    -- the fields are taken off from the last to the first
    obtain ⟨_, _, seven, _, rfl⟩ := Schema.Checked.seq_eq_ok.mp accepted
    obtain ⟨_, _, six, _, rfl⟩ := Schema.Checked.seq_eq_ok.mp seven
    obtain ⟨_, _, five, _, rfl⟩ := Schema.Checked.seq_eq_ok.mp six
    obtain ⟨_, _, four, _, rfl⟩ := Schema.Checked.seq_eq_ok.mp five
    obtain ⟨_, _, three, _, rfl⟩ := Schema.Checked.seq_eq_ok.mp four
    obtain ⟨_, objectId, two, owner, rfl⟩ := Schema.Checked.seq_eq_ok.mp three
    obtain ⟨_, _, one, _, rfl⟩ := Schema.Checked.seq_eq_ok.mp two
    obtain ⟨eventId, event, rfl⟩ := Schema.Checked.map_eq_ok.mp one
    have short : ∀ name number, Schema.required name Schema.integer members = .ok number →
        Decimal.Short number := by
      intro name number found
      obtain ⟨value, there, read⟩ := Schema.required_eq_ok.mp found
      exact Schema.integer_short (each _ (Fields.mem_of_get? there)) read
    exact ⟨short _ _ event, short _ _ owner⟩

namespace Query

/-! ### Parameters -/

theorem portable_names {depth : Nat} (fields : List String) :
    Json.Portable (depth + 1) (names fields) := by
  refine .list ?_
  intro item member
  obtain ⟨field, _, rfl⟩ := List.mem_map.mp member
  exact .text (Text.scalar_ofString field)

theorem portable_ids {depth : Nat} {ids : List Int} (short : ∀ id ∈ ids, Decimal.Short id) :
    Json.Portable (depth + 1) (.list (ids.map .int)) := by
  refine .list ?_
  intro item member
  obtain ⟨id, among, rfl⟩ := List.mem_map.mp member
  exact .int (short id among)

theorem portable_problemParams {depth : Nat} : Json.Portable (depth + 2) problemParams := by
  have distinct : List.Nodup [("output" : Text), "source", "object", "recent", "severities"] := by
    decide
  have figure : ∀ n : Nat, n < 10 → Decimal.Short n := fun n small =>
    Decimal.short_of_natAbs_lt_ten small
  refine .object_of_names distinct ?_
  intro member among
  simp only [List.mem_cons, List.not_mem_nil, or_false] at among
  rcases among with rfl | rfl | rfl | rfl | rfl
  · exact ⟨⟨_, rfl⟩, portable_names _⟩
  · exact ⟨⟨_, rfl⟩, .int (figure 0 (by decide))⟩
  · exact ⟨⟨_, rfl⟩, .int (figure 0 (by decide))⟩
  · exact ⟨⟨_, rfl⟩, .bool false⟩
  · exact ⟨⟨_, rfl⟩, @portable_ids _ [5] (List.forall_mem_singleton.mpr (figure 5 (by decide)))⟩

theorem portable_eventParams {depth : Nat} {ids : List Int}
    (short : ∀ id ∈ ids, Decimal.Short id) : Json.Portable (depth + 2) (eventParams ids) := by
  have distinct : List.Nodup [("output" : Text), "eventids"] := by decide
  refine .object_of_names distinct ?_
  intro member among
  simp only [List.mem_cons, List.not_mem_nil, or_false] at among
  rcases among with rfl | rfl
  · exact ⟨⟨_, rfl⟩, portable_names _⟩
  · exact ⟨⟨_, rfl⟩, portable_ids short⟩

theorem portable_triggerParams {depth : Nat} {ids : List Int}
    (short : ∀ id ∈ ids, Decimal.Short id) : Json.Portable (depth + 2) (triggerParams ids) := by
  have distinct : List.Nodup [("output" : Text), "selectHosts", "selectItems", "triggerids"] := by
    decide
  refine .object_of_names distinct ?_
  intro member among
  simp only [List.mem_cons, List.not_mem_nil, or_false] at among
  rcases among with rfl | rfl | rfl | rfl
  · exact ⟨⟨_, rfl⟩, portable_names _⟩
  · exact ⟨⟨_, rfl⟩, portable_names _⟩
  · exact ⟨⟨_, rfl⟩, portable_names _⟩
  · exact ⟨⟨_, rfl⟩, portable_ids short⟩

/-! ### Records -/

section Asking

variable {α : Type} {client : Client} {address : Address} {method title : Text} {params id : Value}
  {token : Option Text} {reader : Schema.Reader α}

/-- What a query makes of the reply to it: the records that it lists, or what is wrong. -/
def understood (address : Address) (method : Text) (id : Value) (title : Text)
    (reader : Schema.Reader α) (reply : Option Reply) : Except Fault (List α) :=
  match Client.understood address method true id reply with
  | .error fault => .error fault
  | .ok result => readResult title reader result

theorem readItems_attributed {values : List Value} {fault : Fault}
    (failed : readItems title reader values = .error fault) : fault.Attributed id := by
  induction values with
  | nil => cases failed
  | cons value values ih =>
    rw [readItems] at failed
    split at failed
    · cases failed
      trivial
    · cases rest : readItems title reader values with
      | error fault =>
        rw [rest] at failed
        cases failed
        exact ih rest
      | ok items =>
        rw [rest] at failed
        cases failed

/-- **Whatever the reply**, an error of the monitor names the request. -/
theorem understood_attributed {reply : Option Reply} {fault : Fault}
    (failed : understood address method id title reader reply = .error fault) :
    fault.Attributed id := by
  rw [understood] at failed
  split at failed
  · next refused =>
    cases failed
    exact Client.understood_attributed refused
  · next result _ =>
    cases result with
    | list values => exact readItems_attributed failed
    | _ => cases failed

/-- **A ready client asks once** and understands the next reply. -/
theorem run_ask (ready : client.Ready token address)
    (named : Request.idOfText (Request.encode method params id) = .ok id) (replies : List Reply) :
    ∃ log, (ask client method params id token title reader).run replies =
      ⟨understood address method id title reader replies.head?,
        [client.message address token method params id], replies.tail, log⟩ := by
  obtain ⟨log, called⟩ :=
    @Client.run_call client address ⟨method, params, id, token, true⟩ id ready named replies
  rw [ask, Exchange.run_bind, called, understood]
  cases Client.understood address method true id replies.head? with
  | error fault => exact ⟨_, rfl⟩
  | ok result => exact ⟨_, rfl⟩

/-- **A ready client asks for some ids once.** -/
theorem run_askFor (ready : client.Ready token address) {params : List Int → Value} {ids : List Int}
    (some : ids ≠ [])
    (named : Request.idOfText (Request.encode method (params ids) id) = .ok id)
    (replies : List Reply) :
    ∃ log, (askFor client method params ids id token title reader).run replies =
      ⟨understood address method id title reader replies.head?,
        [client.message address token method (params ids) id], replies.tail, log⟩ := by
  rw [askFor, if_neg some]
  exact run_ask ready named replies

/-- **A client that is not ready asks nothing** and fails. -/
theorem run_ask_of_unready
    (unready : client.Unready token)
    (named : Request.idOfText (Request.encode method params id) = .ok id) :
    ∃ fault log, fault.Attributed id ∧
      ∀ replies, (ask client method params id token title reader).run replies =
        ⟨.error fault, [], replies, log⟩ := by
  obtain ⟨fault, log, attributed, called⟩ :=
    @Client.run_call_of_unready client ⟨method, params, id, token, true⟩ id unready named
  exact ⟨fault, log, attributed, fun replies => by rw [ask, Exchange.run_bind, called]⟩

end Asking

/-! ### The ids of problems -/

/-- The items that were read are accepted by the reader, each from a value of the list. -/
theorem accepted_of_mem_readItems {α : Type} {title : Text} {reader : Schema.Reader α}
    {values : List Value} {items : List α} (read : readItems title reader values = .ok items) :
    ∀ item ∈ items, ∃ value ∈ values, reader value = .ok item := by
  induction values generalizing items with
  | nil =>
    cases read
    exact fun item member => nomatch member
  | cons value values ih =>
    rw [readItems] at read
    split at read
    · cases read
    · next first accepted =>
      cases rest : readItems title reader values with
      | error fault =>
        rw [rest] at read
        cases read
      | ok later =>
        rw [rest] at read
        cases read
        refine List.forall_mem_cons.mpr
          ⟨⟨value, List.mem_cons_self, Schema.Checked.reported_eq_ok.mp accepted⟩, ?_⟩
        intro item member
        obtain ⟨other, among, read⟩ := ih rest item member
        exact ⟨other, List.mem_cons_of_mem _ among, read⟩

/-- **The ids of understood problems** are not too long. -/
theorem short_of_problems {address : Address} {id : Value} {reply : Option Reply}
    {problems : List Problem}
    (told : understood address "problem.get" id "Problem" Problem.read reply = .ok problems) :
    ∀ problem ∈ problems, Decimal.Short problem.eventId ∧ Decimal.Short problem.objectId := by
  rw [understood] at told
  split at told
  · cases told
  · next result answer =>
    cases Client.understood_bounded answer with
    | list each =>
      intro problem member
      obtain ⟨value, among, accepted⟩ := accepted_of_mem_readItems told problem member
      exact Problem.short_of_read (each value among) accepted
    | _ =>
      cases told
      exact fun problem member => nomatch member

end Query

end AlarmFeed
