/-
**What a feed sends, and what it leaves alone.**

If each of the three questions sends at most one message and takes the reply to it alone (`Asks`), a
table needs at most three messages, and is made of the replies to those alone (`contained_render`).
`asks_client` — the questions of a feed over a client do.
-/

import AlarmFeed.Feed
import AlarmFeed.Proofs.Monitor.Frame

namespace AlarmFeed.Feed

open Exchange

variable {ρ σ : Type}

/-- **Each question is one message at most**: an allowed one, and the reply to it is all that is taken. -/
structure Asks (feed : Feed ρ σ) (allowed : σ → Prop) : Prop where
  problems : (feed.source.problems (.int problemsId) feed.token).Contained 1 allowed
  events : ∀ ids, (feed.source.events ids (.int eventsId) feed.token).Contained 1 allowed
  triggers : ∀ ids, (feed.source.triggers ids (.int triggersId) feed.token).Contained 1 allowed

/-- A feed over a client asks so, with the authorization for the caller. -/
theorem asks_client (client : Client) (token : Option Text) :
    Asks { source := client.source, token := token } (client.Presents token) where
  problems := Query.contained_ask client _ _ token _ _ _
  events ids := Query.contained_askFor client _ _ token _ _ _ ids
  triggers ids := Query.contained_askFor client _ _ token _ _ _ ids

section Rendering

variable {feed : Feed ρ σ} {allowed : σ → Prop}

theorem contained_combine (problems : List Problem) (events : List Event) (triggers : List Trigger) :
    (combine problems events triggers : Exchange ρ σ (List Row)).Contained 0 allowed := by
  unfold combine assemble
  refine Contained.bind_quiet ?_ fun _ => contained_note_bind (contained_pure _)
  exact contained_note_bind (contained_pure _)

theorem contained_askTriggers (asks : feed.Asks allowed) (problems : List Problem)
    (events : List Event) : (feed.askTriggers problems events).Contained 1 allowed := by
  unfold askTriggers
  refine (asks.triggers _).attempt.bind_quiet fun result => ?_
  cases result with
  | error fault => exact contained_pure _
  | ok triggers =>
    exact (contained_combine problems events triggers).bind_quiet fun _ => contained_pure _

theorem contained_askEvents (asks : feed.Asks allowed) (problems : List Problem) :
    (feed.askEvents problems).Contained 2 allowed := by
  unfold askEvents
  refine Contained.bind (n := 1) (asks.events _).attempt fun result => ?_
  cases result with
  | error fault => exact contained_pure _
  | ok events => exact contained_askTriggers asks problems events

theorem contained_askProblems (asks : feed.Asks allowed) :
    feed.askProblems.Contained 3 allowed := by
  unfold askProblems
  refine Contained.bind (n := 2) asks.problems.attempt fun result => ?_
  split
  · exact contained_pure _
  · exact contained_note_bind (contained_pure _)
  · exact contained_askEvents asks _

theorem contained_failed (origin : Text) (lastRequestId : Int) (depth : Nat) (fault : Fault) :
    (failed origin lastRequestId depth fault : Exchange ρ σ AlarmTable).Contained 0 allowed := by
  cases fault <;> exact contained_note_bind (contained_ofExcept _)

/-- **A table needs at most three messages**, and is made of the replies to those alone. -/
theorem contained_render (asks : feed.Asks allowed) (origin : Text) :
    (feed.render origin).Contained 3 allowed := by
  unfold render
  refine Contained.bind_quiet ?_ fun built => ?_
  · unfold buildRows
    exact (contained_askProblems asks).bind_quiet fun _ => contained_pure _
  · dsimp only
    split
    · exact (contained_failed _ _ _ _).bind_quiet fun _ => contained_pure _
    · exact contained_pure _

end Rendering

end AlarmFeed.Feed
