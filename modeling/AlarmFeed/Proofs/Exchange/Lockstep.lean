/-
**Two runs in step.**

Two runs are in step (`InStep S R`) if on all replies they come to the same but for what `S` and `R` leave
open: they end in the same fault or in results that `R` relates, they send as many messages, each pair
of them related by `S`, and they leave the same replies and the same log. Runs that are put one after
another are in step if the first two are, and the later two are on related results (`InStep.bind`); so
what two programs do differently has to be looked at only where they send.
-/

import AlarmFeed.Proofs.Exchange
import Mathlib.Data.List.Forall2

namespace AlarmFeed

variable {ρ σ α β γ δ : Type}

/-- Two ends are alike: the same fault, or results that are related. -/
inductive AlikeEnds (R : α → β → Prop) : Except Fault α → Except Fault β → Prop
  | error (fault : Fault) : AlikeEnds R (.error fault) (.error fault)
  | ok {a : α} {b : β} (related : R a b) : AlikeEnds R (.ok a) (.ok b)

theorem AlikeEnds.cases {R : α → β → Prop} {first : Except Fault α} {second : Except Fault β}
    (alike : AlikeEnds R first second) :
    (∃ fault, first = .error fault ∧ second = .error fault) ∨
      ∃ a b, R a b ∧ first = .ok a ∧ second = .ok b := by
  cases alike with
  | error fault => exact Or.inl ⟨fault, rfl, rfl⟩
  | ok related => exact Or.inr ⟨_, _, related, rfl, rfl⟩

theorem AlikeEnds.eq {first second : Except Fault α} (alike : AlikeEnds Eq first second) :
    first = second := by
  rcases alike.cases with ⟨fault, rfl, rfl⟩ | ⟨a, _, rfl, rfl, rfl⟩ <;> rfl

/-- **Two outcomes match**: they end alike, what was sent is related, and the rest is the same. -/
structure Outcome.Matches (S : σ → σ → Prop) (R : α → β → Prop) (one : Outcome ρ σ α)
    (two : Outcome ρ σ β) : Prop where
  result : AlikeEnds R one.result two.result
  sent : List.Forall₂ S one.sent two.sent
  rest : two.rest = one.rest
  log : two.log = one.log

namespace Exchange

/-- **Two runs are in step**: their outcomes match on all replies. -/
def InStep (S : σ → σ → Prop) (R : α → β → Prop) (first : Exchange ρ σ α)
    (second : Exchange ρ σ β) : Prop :=
  ∀ replies, (first.run replies).Matches S R (second.run replies)

variable {S : σ → σ → Prop} {R : α → β → Prop} {Q : γ → δ → Prop}

/-! ### Basic runs -/

/-- A run is in step with itself. -/
theorem InStep.refl (reflexive : ∀ message, S message message) (exchange : Exchange ρ σ α) :
    InStep S Eq exchange exchange := by
  intro replies
  refine ⟨?_, List.forall₂_same.mpr fun message _ => reflexive message, rfl, rfl⟩
  cases (exchange.run replies).result with
  | error fault => exact .error fault
  | ok a => exact .ok rfl

theorem InStep.pure {a : α} {b : β} (related : R a b) :
    InStep S R (Pure.pure a : Exchange ρ σ α) (Pure.pure b) :=
  fun _ => ⟨.ok related, .nil, rfl, rfl⟩

/-- Related messages are answered by the same reply. -/
theorem InStep.send {first second : σ} (related : S first second) :
    InStep S Eq (Exchange.send first : Exchange ρ σ (Option ρ)) (Exchange.send second) :=
  fun _ => ⟨.ok rfl, .cons related .nil, rfl, rfl⟩

/-! ### Runs one after another -/

/-- **Runs one after another stay in step.** -/
theorem InStep.bind {first : Exchange ρ σ α} {second : Exchange ρ σ β} {next : α → Exchange ρ σ γ}
    {next' : β → Exchange ρ σ δ} (one : InStep S R first second)
    (two : ∀ a b, R a b → InStep S Q (next a) (next' b)) :
    InStep S Q (first >>= next) (second >>= next') := by
  intro replies
  obtain ⟨ended, sent, rest, log⟩ := one replies
  rcases ended.cases with ⟨fault, failed, failed'⟩ | ⟨a, b, related, good, good'⟩
  · rw [run_bind_of_error failed, run_bind_of_error failed']
    exact ⟨.error fault, sent, rest, log⟩
  · obtain ⟨endedLater, sentLater, restLater, logLater⟩ := two a b related (first.run replies).rest
    rw [run_bind_of_ok good, run_bind_of_ok good', rest]
    refine ⟨endedLater, List.rel_append sent sentLater, restLater, ?_⟩
    show (second.run replies).log ++ _ = (first.run replies).log ++ _
    rw [log, logLater]

/-- Runs stay in step behind two that come to the same. -/
theorem InStep.bind_eq {first second : Exchange ρ σ α} {next : α → Exchange ρ σ γ}
    {next' : α → Exchange ρ σ δ} (one : InStep S Eq first second)
    (two : ∀ a, InStep S Q (next a) (next' a)) : InStep S Q (first >>= next) (second >>= next') :=
  one.bind fun a _ same => same ▸ two a

/-- Runs stay in step behind one that both begin with. -/
theorem InStep.after {next : α → Exchange ρ σ γ} {next' : α → Exchange ρ σ δ}
    (reflexive : ∀ message, S message message) (first : Exchange ρ σ α)
    (two : ∀ a, InStep S Q (next a) (next' a)) : InStep S Q (first >>= next) (first >>= next') :=
  (InStep.refl reflexive first).bind_eq two

/-- Attempts stay in step, and what comes behind them if they come to the same. -/
theorem InStep.attempt_bind {first second : Exchange ρ σ α} {next : Except Fault α → Exchange ρ σ γ}
    {next' : Except Fault α → Exchange ρ σ δ} (one : InStep S Eq first second)
    (two : ∀ result, InStep S Q (next result) (next' result)) :
    InStep S Q (first.attempt >>= next) (second.attempt >>= next') := by
  refine InStep.bind_eq (fun replies => ?_) two
  obtain ⟨ended, sent, rest, log⟩ := one replies
  exact ⟨.ok ended.eq, sent, rest, log⟩

end Exchange

end AlarmFeed
