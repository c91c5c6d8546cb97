/-
**What is written for a number is one.**

The notation of a number is in the grammar of documents, and says the number again or one of its kind.

* `saysPlain_ofInt` — an integer that is not too long is written as that integer;
* `exists_saysPlain_number` — a floating point number is written as some floating point number, since it
  is never written as a whole number (`Fractional`).
-/

import AlarmFeed.Json.Writer
import AlarmFeed.Proofs.Json.Grammar

namespace AlarmFeed.Json

theorem saysNumber_digits {n : Nat} (short : (Decimal.digits n).length ≤ Decimal.digitLimit)
    (negative : Bool) :
    SaysNumber negative (Decimal.digits n) (.int (Decimal.signed negative n)) := by
  have told : SaysNumber negative (Decimal.digits n) _ := .whole (whole_digits n) short
  rwa [Decimal.value_digits] at told

/-- **What is not written as a whole number** is a floating point number. -/
theorem exists_saysNumber_of_fractional {t : Text} (fractional : Fractional t) (negative : Bool) :
    ∃ x, SaysNumber negative t (.number x) := by
  have raised : ∀ {sign : CodePoint} {figures : Text},
      sign = CodePoint.ofChar '+' ∨ sign = CodePoint.ofChar '-' → Figures figures →
      ∃ power, SaysPower (CodePoint.ofChar 'e' :: sign :: figures) power := by
    rintro sign figures (rfl | rfl) run
    · exact ⟨_, .plus (.inl rfl) run⟩
    · exact ⟨_, .minus (.inl rfl) run⟩
  cases fractional with
  | point front behind => exact ⟨_, .point front behind⟩
  | power front signed run =>
    obtain ⟨power, told⟩ := raised signed run
    exact ⟨_, .power front told⟩
  | both front behind signed run =>
    obtain ⟨power, told⟩ := raised signed run
    exact ⟨_, .both front behind told⟩

theorem saysPlain_ofInt {n : Int} (short : Decimal.Short n) :
    SaysPlain (Decimal.ofInt n) (.int n) := by
  rw [Decimal.ofInt_eq]
  by_cases negative : n < 0
  · have told := saysNumber_digits short true
    have size : Decimal.signed true n.natAbs = n := by
      rw [Decimal.signed, if_pos rfl]
      omega
    rw [size] at told
    rw [if_pos negative]
    exact .negative told
  · have told := saysNumber_digits short false
    have size : Decimal.signed false n.natAbs = n := by
      rw [Decimal.signed, if_neg Bool.false_ne_true]
      omega
    rw [size] at told
    rw [if_neg negative]
    exact .positive told

theorem exists_saysPlain_number (x : Binary64) : ∃ y, SaysPlain (numberStyle.write x) (.number y) := by
  cases x with
  | nan =>
    have known : (("NaN" : Text), Value.number .nan) ∈ words := by simp [words]
    exact ⟨.nan, .word known⟩
  | infinite negative =>
    cases negative with
    | false =>
      have known : (("Infinity" : Text), Value.number (.infinite false)) ∈ words := by simp [words]
      exact ⟨_, .word known⟩
    | true =>
      have known : (("-Infinity" : Text), Value.number (.infinite true)) ∈ words := by simp [words]
      exact ⟨_, .word known⟩
  | finite negative mantissa exponent =>
    have fractional := numberStyle.fractional_unsigned mantissa exponent
    obtain ⟨y, told⟩ := exists_saysNumber_of_fractional fractional negative
    cases negative with
    | false => exact ⟨y, .positive told⟩
    | true => exact ⟨y, .negative told⟩

end AlarmFeed.Json
