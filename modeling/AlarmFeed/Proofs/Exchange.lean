/-
**Running an exchange step by step.**

What basic runs do, and what a run does that starts with one of them: a good result is passed on, a log
record changes the log alone, and a message is answered by the next reply. Runs one after another can be
put together in any order (`bind_assoc`).
-/

import AlarmFeed.Exchange

namespace AlarmFeed.Exchange

variable {ρ σ α β : Type}

/-! ### Basic runs -/

theorem run_pure (a : α) (replies : List ρ) :
    (pure a : Exchange ρ σ α).run replies = ⟨.ok a, [], replies, []⟩ := rfl

theorem run_note (level : Log.Level) (event : Text) (fields : Members) (replies : List ρ) :
    (note level event fields : Exchange ρ σ Unit).run replies =
      ⟨.ok (), [], replies, [⟨level, event, fields⟩]⟩ := rfl

theorem run_within (context : Members) (exchange : Exchange ρ σ α) (replies : List ρ) :
    (exchange.within context).run replies =
      { exchange.run replies with
        log := (exchange.run replies).log.map (Log.Record.within context) } := rfl

/-! ### First steps -/

section Ended

variable {first : Exchange ρ σ α} {next : α → Exchange ρ σ β} {replies : List ρ}

theorem run_bind_of_error {fault : Fault} (ended : (first.run replies).result = .error fault) :
    (first >>= next).run replies = { first.run replies with result := .error fault } := by
  rw [run_bind, ended]

theorem run_bind_of_ok {a : α} (ended : (first.run replies).result = .ok a) :
    (first >>= next).run replies =
      { (next a).run (first.run replies).rest with
        sent := (first.run replies).sent ++ ((next a).run (first.run replies).rest).sent
        log := (first.run replies).log ++ ((next a).run (first.run replies).rest).log } := by
  rw [run_bind, ended]

end Ended

section Steps

variable (next : α → Exchange ρ σ β) (replies : List ρ)

theorem run_ofExcept_ok_bind (a : α) :
    (ofExcept (.ok a) >>= next).run replies = (next a).run replies := rfl

theorem run_note_bind (level : Log.Level) (event : Text) (fields : Members)
    (next : Unit → Exchange ρ σ β) :
    (note level event fields >>= next).run replies =
      { (next ()).run replies with
        log := ⟨level, event, fields⟩ :: ((next ()).run replies).log } := rfl

theorem run_send_bind (message : σ) (next : Option ρ → Exchange ρ σ β) :
    (send message >>= next).run replies =
      { (next replies.head?).run replies.tail with
        sent := message :: ((next replies.head?).run replies.tail).sent } := rfl

end Steps

/-! ### Runs one after another -/

/-- Of three runs it makes no difference which two are put together first. -/
theorem bind_assoc {γ : Type} (first : Exchange ρ σ α) (second : α → Exchange ρ σ β)
    (third : β → Exchange ρ σ γ) :
    (first >>= second) >>= third = first >>= fun a => second a >>= third := by
  funext replies
  show Exchange.run _ replies = Exchange.run _ replies
  rw [run_bind, run_bind, run_bind]
  cases (first.run replies).result with
  | error fault => rfl
  | ok a =>
    dsimp only
    rw [run_bind]
    cases ((second a).run (first.run replies).rest).result with
    | error fault => rfl
    | ok b =>
      dsimp only
      rw [List.append_assoc, List.append_assoc]

theorem ofExcept_bind_pure (result : Except Fault α) (answer : α → β) :
    (ofExcept result >>= fun a => (pure (answer a) : Exchange ρ σ β)) =
      ofExcept (result.map answer) := by
  cases result with
  | error fault => rfl
  | ok a => rfl

end AlarmFeed.Exchange
