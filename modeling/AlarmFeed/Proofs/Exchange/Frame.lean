/-
**What a run sends, and what it leaves alone.**

A run is contained (`Contained n allowed`) if, whatever the replies,

* it sends at most `n` messages, and all of them are allowed (`Sends`);
* it takes one reply for each message, and what it comes to depends on those replies alone (`Local`).

The replies behind those that a local run took are a frame: they can be exchanged for any others. Each
basic run is contained, and runs that are put one after another are if each of them is. A run that sends
one message at most depends on the next reply alone (`Contained.run_of_head?`).
-/

import AlarmFeed.Proofs.Exchange

namespace AlarmFeed.Exchange

variable {ρ σ α β : Type}

/-! ### Messages -/

/-- **A run sends little**: at most `n` messages, all of them allowed. -/
def Sends (n : Nat) (allowed : σ → Prop) (exchange : Exchange ρ σ α) : Prop :=
  ∀ replies, (exchange.run replies).sent.length ≤ n ∧
    ∀ message ∈ (exchange.run replies).sent, allowed message

/-- Two runs one after another send together what they send. -/
theorem Sends.bind {m n : Nat} {allowed : σ → Prop} {first : Exchange ρ σ α}
    {next : α → Exchange ρ σ β} (one : first.Sends m allowed) (two : ∀ a, (next a).Sends n allowed) :
    (first >>= next).Sends (m + n) allowed := by
  intro replies
  obtain ⟨few, good⟩ := one replies
  rw [run_bind]
  cases (first.run replies).result with
  | error fault => exact ⟨Nat.le_trans few (Nat.le_add_right m n), good⟩
  | ok a =>
    obtain ⟨fewLater, goodLater⟩ := two a (first.run replies).rest
    refine ⟨?_, ?_⟩
    · rw [List.length_append]
      exact Nat.add_le_add few fewLater
    · intro message member
      exact (List.mem_append.mp member).elim (good message) (goodLater message)

/-! ### Replies -/

/-- **A run is local**: it takes one reply for each message, and if it took just some replies, it goes
the same way whatever others stand behind those. -/
structure Local (exchange : Exchange ρ σ α) : Prop where
  left : ∀ replies, (exchange.run replies).rest = replies.drop (exchange.run replies).sent.length
  framed : ∀ taken rest more, (exchange.run (taken ++ rest)).sent.length = taken.length →
    exchange.run (taken ++ more) = { exchange.run (taken ++ rest) with rest := more }

/-- **Two local runs one after another** are local: the second finds what the first left. -/
theorem Local.bind {first : Exchange ρ σ α} {next : α → Exchange ρ σ β} (one : first.Local)
    (two : ∀ a, (next a).Local) : (first >>= next).Local where
  left replies := by
    rw [run_bind]
    cases (first.run replies).result with
    | error fault => exact one.left replies
    | ok a =>
      show ((next a).run (first.run replies).rest).rest = _
      rw [(two a).left, one.left, List.drop_drop, List.length_append]
  framed taken rest more same := by
    cases ended : (first.run (taken ++ rest)).result with
    | error fault =>
      rw [run_bind_of_error ended] at same ⊢
      have again := one.framed taken rest more same
      have endedAgain : (first.run (taken ++ more)).result = .error fault := by rw [again, ended]
      rw [run_bind_of_error endedAgain, again]
    | ok a =>
      rw [run_bind_of_ok ended] at same ⊢
      rw [List.length_append] at same
      -- what was taken is cut where the second run started
      obtain ⟨early, late, rfl, cut⟩ : ∃ early late, taken = early ++ late ∧
          (first.run (taken ++ rest)).sent.length = early.length :=
        ⟨_, _, (List.take_append_drop _ taken).symm, (List.length_take_of_le (by omega)).symm⟩
      simp only [List.append_assoc] at ended same cut ⊢
      have between : (first.run (early ++ (late ++ rest))).rest = late ++ rest := by
        rw [one.left, cut, List.drop_left]
      rw [between] at same ⊢
      rw [List.length_append] at same
      have again := one.framed early (late ++ rest) (late ++ more) cut
      have endedAgain : (first.run (early ++ (late ++ more))).result = .ok a := by rw [again, ended]
      rw [run_bind_of_ok endedAgain, again]
      dsimp only
      rw [(two a).framed late rest more (by omega)]

/-! ### Contained runs -/

/-- **A run is contained**: it sends little, and the replies to that are all it depends on. -/
structure Contained (n : Nat) (allowed : σ → Prop) (exchange : Exchange ρ σ α) : Prop where
  sends : exchange.Sends n allowed
  closed : exchange.Local

section Containing

variable {m n : Nat} {allowed : σ → Prop}

/-- A run that sends nothing and looks at no reply is contained. -/
theorem contained_of_blind {exchange : Exchange ρ σ α} {result : Except Fault α}
    {log : List Log.Record} (blind : ∀ replies, exchange.run replies = ⟨result, [], replies, log⟩) :
    exchange.Contained n allowed where
  sends replies := by
    rw [blind]
    exact ⟨Nat.zero_le n, fun _ member => nomatch member⟩
  closed := {
    left := fun replies => by
      rw [blind]
      rfl
    framed := fun taken rest more same => by
      rw [blind] at same ⊢
      rw [List.eq_nil_of_length_eq_zero same.symm, blind]
      rfl }

theorem contained_pure (a : α) : (pure a : Exchange ρ σ α).Contained n allowed :=
  contained_of_blind fun _ => rfl

theorem contained_fail (fault : Fault) : (fail fault : Exchange ρ σ α).Contained n allowed :=
  contained_of_blind fun _ => rfl

theorem contained_ofExcept (result : Except Fault α) :
    (ofExcept result : Exchange ρ σ α).Contained n allowed :=
  contained_of_blind fun _ => rfl

theorem contained_note (level : Log.Level) (event : Text) (fields : Members) :
    (note level event fields : Exchange ρ σ Unit).Contained n allowed :=
  contained_of_blind fun _ => rfl

theorem contained_send {message : σ} (good : allowed message) :
    (send message : Exchange ρ σ (Option ρ)).Contained 1 allowed where
  sends _ := ⟨Nat.le_refl 1, fun _ member => List.mem_singleton.mp member ▸ good⟩
  closed := {
    left := fun _ => List.drop_one.symm
    framed := fun taken rest more same => by
      obtain ⟨reply, rfl⟩ := List.length_eq_one_iff.mp same.symm
      rfl }

/-- **Two contained runs one after another** are contained. -/
theorem Contained.bind {first : Exchange ρ σ α} {next : α → Exchange ρ σ β}
    (one : first.Contained m allowed) (two : ∀ a, (next a).Contained n allowed) :
    (first >>= next).Contained (m + n) allowed where
  sends := one.sends.bind fun a => (two a).sends
  closed := one.closed.bind fun a => (two a).closed

/-- What comes after a contained run and sends nothing does not add to its messages. -/
theorem Contained.bind_quiet {first : Exchange ρ σ α} {next : α → Exchange ρ σ β}
    (one : first.Contained n allowed) (two : ∀ a, (next a).Contained 0 allowed) :
    (first >>= next).Contained n allowed :=
  one.bind two

theorem contained_note_bind {level : Log.Level} {event : Text} {fields : Members}
    {next : Unit → Exchange ρ σ β} (two : (next ()).Contained n allowed) :
    (note level event fields >>= next).Contained n allowed :=
  Nat.zero_add n ▸ Contained.bind (m := 0) (contained_note level event fields) fun _ => two

/-- What is computed first is known to have succeeded by what comes after it. -/
theorem contained_ofExcept_bind {result : Except Fault α} {next : α → Exchange ρ σ β}
    (two : ∀ a, result = .ok a → (next a).Contained n allowed) :
    (ofExcept result >>= next).Contained n allowed := by
  cases result with
  | error fault => exact contained_of_blind fun _ => rfl
  | ok a => exact two a rfl

/-- **A run of one message at most** depends on the next reply alone. -/
theorem Contained.run_of_head? {exchange : Exchange ρ σ α} (one : exchange.Contained 1 allowed)
    {replies replies' : List ρ} (next : replies'.head? = replies.head?) :
    exchange.run replies' = { exchange.run replies with
      rest := replies'.drop (exchange.run replies).sent.length } := by
  have few : (exchange.run replies).sent.length ≤ 1 := (one.sends replies).1
  cases replies with
  | nil =>
    obtain rfl : replies' = [] := List.head?_eq_none_iff.mp next
    rw [← one.closed.left]
  | cons reply rest =>
    obtain ⟨more, rfl⟩ : ∃ more, replies' = reply :: more := List.head?_eq_some_iff.mp next
    rcases Nat.le_one_iff_eq_zero_or_eq_one.mp few with none | single
    · have framed := one.closed.framed [] (reply :: rest) (reply :: more) none
      rw [none]
      exact framed
    · have framed := one.closed.framed [reply] rest more single
      rw [single]
      exact framed

theorem Contained.attempt {exchange : Exchange ρ σ α} (one : exchange.Contained n allowed) :
    exchange.attempt.Contained n allowed where
  sends := one.sends
  closed := {
    left := one.closed.left
    framed := fun taken rest more same => by
      rw [run_attempt, run_attempt, one.closed.framed taken rest more same] }

theorem Contained.within {exchange : Exchange ρ σ α} (one : exchange.Contained n allowed)
    (context : Members) : (exchange.within context).Contained n allowed where
  sends := one.sends
  closed := {
    left := one.closed.left
    framed := fun taken rest more same => by
      rw [run_within, run_within, one.closed.framed taken rest more same] }

theorem Contained.allow {wider : σ → Prop} {exchange : Exchange ρ σ α}
    (one : exchange.Contained n allowed) (weaker : ∀ message, allowed message → wider message) :
    exchange.Contained n wider where
  sends replies :=
    ⟨(one.sends replies).1, fun message sent => weaker message ((one.sends replies).2 message sent)⟩
  closed := one.closed

end Containing

end AlarmFeed.Exchange
