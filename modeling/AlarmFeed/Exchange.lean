/-
**Exchanges.**

An `Exchange ρ σ α` is a run that sends messages of type `σ`, each answered by the next of a list of
replies of type `ρ`, writes log records, and ends in a result or a fault. Running it on the replies
that are left gives an `Outcome`: the result, what was sent, the replies that are still left, and the
log. What one run consumes is a prefix of its replies, so runs can be put one after another.
-/

import AlarmFeed.Fault
import AlarmFeed.Log.Record

namespace AlarmFeed

/-- What a run comes to. -/
structure Outcome (ρ σ α : Type) where
  result : Except Fault α
  /-- The messages that were sent, in order. -/
  sent : List σ
  /-- The replies that were not consumed. -/
  rest : List ρ
  /-- The log records, in order. -/
  log : List Log.Record

/-- A run from the replies that are left to its outcome. -/
def Exchange (ρ σ α : Type) := List ρ → Outcome ρ σ α

namespace Exchange

variable {ρ σ α β : Type}

/-- The outcome of a run. -/
def run (exchange : Exchange ρ σ α) (replies : List ρ) : Outcome ρ σ α :=
  exchange replies

/-- The run that does nothing. -/
def done (a : α) : Exchange ρ σ α :=
  fun replies => ⟨.ok a, [], replies, []⟩

/-- One run after another; a fault ends both. -/
def andThen (first : Exchange ρ σ α) (next : α → Exchange ρ σ β) : Exchange ρ σ β :=
  fun replies =>
    let one := first replies
    match one.result with
    | .error fault => ⟨.error fault, one.sent, one.rest, one.log⟩
    | .ok a =>
      let two := next a one.rest
      ⟨two.result, one.sent ++ two.sent, two.rest, one.log ++ two.log⟩

instance : Monad (Exchange ρ σ) where
  pure := done
  bind := andThen

/-- The run that ends in a fault. -/
def fail (fault : Fault) : Exchange ρ σ α :=
  fun replies => ⟨.error fault, [], replies, []⟩

/-- The run with a given result. -/
def ofExcept (result : Except Fault α) : Exchange ρ σ α :=
  fun replies => ⟨result, [], replies, []⟩

/-- Writes a log record. -/
def note (level : Log.Level) (event : Text) (fields : Members) : Exchange ρ σ Unit :=
  fun replies => ⟨.ok (), [], replies, [⟨level, event, fields⟩]⟩

/-- Sends a message and takes the next reply, if one is left. -/
def send (message : σ) : Exchange ρ σ (Option ρ) :=
  fun replies => ⟨.ok replies.head?, [message], replies.tail, []⟩

/-- The same run with its fault, if it has one, as the result. -/
def attempt (exchange : Exchange ρ σ α) : Exchange ρ σ (Except Fault α) :=
  fun replies =>
    let outcome := exchange replies
    { outcome with result := .ok outcome.result }

/-- The same run with a context for its log records. -/
def within (context : Members) (exchange : Exchange ρ σ α) : Exchange ρ σ α :=
  fun replies =>
    let outcome := exchange replies
    { outcome with log := outcome.log.map (Log.Record.within context) }

/-! ### What running does -/

/-- One run is gone on with from the replies that it left, unless it ends in a fault. -/
theorem run_bind (exchange : Exchange ρ σ α) (next : α → Exchange ρ σ β) (replies : List ρ) :
    (exchange >>= next).run replies =
      match (exchange.run replies).result with
      | .error fault =>
        ⟨.error fault, (exchange.run replies).sent, (exchange.run replies).rest,
          (exchange.run replies).log⟩
      | .ok a =>
        let after := (next a).run (exchange.run replies).rest
        ⟨after.result, (exchange.run replies).sent ++ after.sent, after.rest,
          (exchange.run replies).log ++ after.log⟩ :=
  rfl

/-- A run that is attempted has its outcome as its result, and never a fault. -/
theorem run_attempt (exchange : Exchange ρ σ α) (replies : List ρ) :
    exchange.attempt.run replies =
      ⟨.ok (exchange.run replies).result, (exchange.run replies).sent,
        (exchange.run replies).rest, (exchange.run replies).log⟩ :=
  rfl

end Exchange

end AlarmFeed
