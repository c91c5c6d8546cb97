/-
**What is accepted.**

A check that was passed says what was checked: each combined check was passed (`seq_eq_ok`), a required
field was there (`required_eq_ok`), and a record was an object (`record_eq_ok`).

`integer_short` — of a value without integers that are too long, only integers that are not too long
are accepted, whichever notation they come in: digits are counted in a text, and a number has less than
64 bits.
-/

import AlarmFeed.Proofs.Json.Limits
import AlarmFeed.Schema.Reader

namespace AlarmFeed.Schema

/-! ### Combined checks -/

section Checks

variable {α β : Type}

namespace Checked

theorem seq_eq_ok {f : Checked (α → β)} {x : Checked α} {b : β} :
    f <*> x = .ok b ↔ ∃ g a, f = .ok g ∧ x = .ok a ∧ g a = b := by
  show apply f x = .ok b ↔ _
  cases f <;> cases x <;> simp [apply]

theorem map_eq_ok {f : α → β} {x : Checked α} {b : β} :
    f <$> x = .ok b ↔ ∃ a, x = .ok a ∧ f a = b := by
  show apply (.ok f) x = .ok b ↔ _
  cases x <;> simp [apply]

theorem under_eq_ok {step : Step} {x : Checked α} {a : α} : x.under step = .ok a ↔ x = .ok a := by
  cases x <;> simp [under]

theorem ofExcept_eq_ok {input : Value} {result : Except Flaw α} {a : α} :
    ofExcept input result = .ok a ↔ result = .ok a := by
  cases result <;> simp [ofExcept, flawed]

theorem reported_eq_ok {title : Text} {x : Checked α} {a : α} :
    x.reported title = .ok a ↔ x = .ok a := by
  cases x <;> simp [reported]

end Checked

variable {name title : Text} {reader : Reader α} {members : Members} {a : α}

/-- **A required field is there** and is accepted. -/
theorem required_eq_ok :
    required name reader members = .ok a ↔
      ∃ value, Fields.get? name members = some value ∧ reader value = .ok a := by
  rw [required]
  cases Fields.get? name members with
  | none => simp
  | some value => simp [Checked.under_eq_ok]

/-- **A record is an object** whose fields are accepted. -/
theorem record_eq_ok {fields : Members → Checked α} {value : Value} :
    record title fields value = .ok a ↔ ∃ members, value = .object members ∧ fields members = .ok a := by
  cases value <;> simp [record, Checked.flawed]

end Checks

/-! ### Integers -/

theorem integerOfNumber_short {x : Binary64} {n : Int} (found : integerOfNumber x = .ok n) :
    Decimal.Short n := by
  rw [integerOfNumber] at found
  split at found
  · cases found
  · split at found
    · cases found
    · split at found
      · next within =>
        cases found
        rw [wordLimit] at within
        exact Decimal.short_of_natAbs_lt (k := 19) (by decide) (by decide) (by omega)
      · cases found

theorem plainInteger?_short {t : Text} {n : Int} (found : plainInteger? t = some n) :
    Decimal.Short n := by
  rw [plainInteger?] at found
  split at found
  · next fits =>
    cases found
    exact Decimal.short_signed fits.1 (List.all_eq_true.mp fits.2.1) fits.2.2.1 _
  · cases found

theorem integerOfText_short {t : Text} {n : Int} (found : integerOfText t = .ok n) :
    Decimal.Short n := by
  rw [integerOfText] at found
  split at found
  · cases found
  · split at found
    · cases found
    · split at found
      · next known =>
        cases found
        obtain ⟨notation?, _, plain⟩ := Option.bind_eq_some_iff.mp known
        exact plainInteger?_short plain
      · cases found

theorem ofBytes_eq_ok {α : Type} {read : Text → Except Flaw α} {flaw : Flaw} {bytes : Bytes} {a : α}
    (found : ofBytes read flaw bytes = .ok a) : ∃ t, read t = .ok a := by
  rw [ofBytes] at found
  split at found
  · exact ⟨_, found⟩
  · cases found

/-- **An integer that is accepted** is not too long, if none in the value is. -/
theorem integer_short {value : Value} {n : Int} (bounded : value.Bounded)
    (found : integer value = .ok n) : Decimal.Short n := by
  rw [integer.eq_def, Checked.ofExcept_eq_ok] at found
  cases bounded with
  | null => cases found
  | bool truth =>
    cases found
    cases truth <;> exact Decimal.short_of_natAbs_lt_ten (by decide)
  | int short =>
    cases found
    exact short
  | number x => exact integerOfNumber_short found
  | text t => exact integerOfText_short found
  | bytes content =>
    obtain ⟨t, found⟩ := ofBytes_eq_ok found
    exact integerOfText_short found
  | list each => cases found
  | object each => cases found

end AlarmFeed.Schema
