/-
**What a run writes to the log.**

A run writes records of a kind (`Writes`) if, whatever the replies, there is no other record in its log.
Each basic run writes nothing but what it notes, runs that are put one after another write what each of
them writes, and in a context a run writes its records with the context.
-/

import AlarmFeed.Proofs.Exchange

namespace AlarmFeed.Exchange

variable {ρ σ α β : Type} {kind : Log.Record → Prop}

/-- **A run writes records of a kind**, and no others. -/
def Writes (kind : Log.Record → Prop) (exchange : Exchange ρ σ α) : Prop :=
  ∀ replies, ∀ record ∈ (exchange.run replies).log, kind record

/-! ### Basic runs -/

theorem writes_pure (a : α) : (pure a : Exchange ρ σ α).Writes kind :=
  fun _ _ member => nomatch member

theorem writes_fail (fault : Fault) : (fail fault : Exchange ρ σ α).Writes kind :=
  fun _ _ member => nomatch member

theorem writes_ofExcept (result : Except Fault α) : (ofExcept result : Exchange ρ σ α).Writes kind :=
  fun _ _ member => nomatch member

theorem writes_send (message : σ) : (send message : Exchange ρ σ (Option ρ)).Writes kind :=
  fun _ _ member => nomatch member

theorem writes_note {level : Log.Level} {event : Text} {fields : Members}
    (good : kind ⟨level, event, fields⟩) : (note level event fields : Exchange ρ σ Unit).Writes kind :=
  fun _ => List.forall_mem_singleton.mpr good

/-! ### Runs of runs -/

/-- **Two runs one after another** write what each of them writes. -/
theorem Writes.bind {first : Exchange ρ σ α} {next : α → Exchange ρ σ β} (one : first.Writes kind)
    (two : ∀ a, (next a).Writes kind) : (first >>= next).Writes kind := by
  intro replies record member
  rw [run_bind] at member
  cases ended : (first.run replies).result with
  | error fault =>
    rw [ended] at member
    exact one replies record member
  | ok a =>
    rw [ended] at member
    exact (List.mem_append.mp member).elim (one replies record) (two a _ record)

theorem writes_note_bind {level : Log.Level} {event : Text} {fields : Members}
    {next : Unit → Exchange ρ σ β} (good : kind ⟨level, event, fields⟩) (two : (next ()).Writes kind) :
    (note level event fields >>= next).Writes kind :=
  (writes_note good).bind fun _ => two

theorem Writes.attempt {exchange : Exchange ρ σ α} (one : exchange.Writes kind) :
    exchange.attempt.Writes kind :=
  one

/-- A kind that holds in a context of every record without it is the kind of what is written in it. -/
theorem Writes.within {exchange : Exchange ρ σ α} {placed : Log.Record → Prop} {context : Members}
    (one : exchange.Writes kind) (there : ∀ record, kind record → placed (record.within context)) :
    (exchange.within context).Writes placed := by
  intro replies record member
  rw [run_within] at member
  obtain ⟨bare, written, rfl⟩ := List.mem_map.mp member
  exact there bare (one replies bare written)

end AlarmFeed.Exchange
