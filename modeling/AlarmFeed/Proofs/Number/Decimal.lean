/-
**The decimal notation of integers.**

`Decimal.digits` writes a number by its last digit and the digits in front of it
(`digits_of_ten_le`), and every law here follows by recursion on that equation:

* `value_digits` — the digits of a number are read back as that number;
* `isDigit_of_mem_digits`, `head_digits` — they are digits, and no zero stands in front of others;
* `length_digits_le` — a number that is written in `k` digits has at most `k` of its own;
* `short_signed` — what at most `digitLimit` digits say is an integer of at most so many (`Short`);
* `ofInt_injective` — two integers with one notation are equal.
-/

import AlarmFeed.Number.Decimal
import Mathlib.Algebra.Group.Nat.Defs
import Mathlib.Data.List.Basic
import Mathlib.Data.List.Induction

namespace AlarmFeed.Decimal

/-! ### Digits one by one -/

theorem digit_val {n : Nat} (small : n < 10) : (digit n).val = 0x30 + n := by
  have inside : 0x30 + n < 0x110000 := by omega
  rw [digit, CodePoint.ofNat, dif_pos inside]

theorem isDigit_digit {n : Nat} (small : n < 10) : (digit n).isDigit = true := by
  rw [CodePoint.isDigit, digit_val small, Bool.and_eq_true, decide_eq_true_eq, decide_eq_true_eq]
  omega

theorem digitValue_digit {n : Nat} (small : n < 10) : (digit n).digitValue = n := by
  rw [CodePoint.digitValue, digit_val small]
  omega

theorem digitValue_lt {c : CodePoint} (isDigit : c.isDigit = true) : c.digitValue < 10 := by
  rw [CodePoint.isDigit, Bool.and_eq_true, decide_eq_true_eq, decide_eq_true_eq] at isDigit
  rw [CodePoint.digitValue]
  omega

/-! ### The recursion of the digits -/

theorem digitsOnto_eq (n : Nat) (rest : Text) : digitsOnto n rest = digits n ++ rest := by
  induction n using Nat.strongRecOn generalizing rest with
  | ind n ih =>
    rw [digits, digitsOnto]
    conv_rhs => rw [digitsOnto]
    by_cases small : n < 10
    · rw [if_pos small, if_pos small]
      rfl
    · have less : n / 10 < n := by omega
      rw [if_neg small, if_neg small, ih _ less, ih _ less [digit (n % 10)], List.append_assoc]
      rfl

theorem digits_of_lt_ten {n : Nat} (small : n < 10) : digits n = [digit n] := by
  rw [digits, digitsOnto, if_pos small]

/-- The last digit stands behind the digits of the rest. -/
theorem digits_of_ten_le {n : Nat} (large : 10 ≤ n) :
    digits n = digits (n / 10) ++ [digit (n % 10)] := by
  rw [digits, digitsOnto, if_neg (by omega), digitsOnto_eq]

/-- **Induction along the digits of a number.** -/
theorem digits_induction {motive : Nat → Prop} (single : ∀ n, n < 10 → motive n)
    (longer : ∀ n, 10 ≤ n → motive (n / 10) → motive n) (n : Nat) : motive n := by
  induction n using Nat.strongRecOn with
  | ind n ih =>
    by_cases small : n < 10
    · exact single n small
    · exact longer n (by omega) (ih _ (by omega))

/-! ### What the digits are -/

theorem isDigit_of_mem_digits (n : Nat) : ∀ c ∈ digits n, c.isDigit = true := by
  induction n using digits_induction with
  | single n small =>
    intro c member
    rw [digits_of_lt_ten small, List.mem_singleton] at member
    rw [member, isDigit_digit small]
  | longer n large ih =>
    intro c member
    rw [digits_of_ten_le large, List.mem_append, List.mem_singleton] at member
    rcases member with earlier | last
    · exact ih c earlier
    · rw [last, isDigit_digit (by omega)]

/-- A run of digits holds nothing else. -/
theorem not_mem_of_digits {t : Text} (allDigits : ∀ c ∈ t, c.isDigit = true) {c : CodePoint}
    (noDigit : c.isDigit = false) : c ∉ t := by
  intro member
  rw [allDigits c member] at noDigit
  cases noDigit

theorem not_mem_digits {n : Nat} {c : CodePoint} (noDigit : c.isDigit = false) : c ∉ digits n :=
  not_mem_of_digits (isDigit_of_mem_digits n) noDigit

theorem digits_ne_nil (n : Nat) : digits n ≠ [] := by
  by_cases small : n < 10
  · rw [digits_of_lt_ten small]
    exact List.cons_ne_nil _ _
  · rw [digits_of_ten_le (by omega)]
    exact List.append_ne_nil_of_right_ne_nil _ (List.cons_ne_nil _ _)

/-- Only zero is written with a zero in front. -/
theorem head_digits {n : Nat} (positive : n ≠ 0) :
    (digits n).head? ≠ some (CodePoint.ofChar '0') := by
  induction n using digits_induction with
  | single n small =>
    rw [digits_of_lt_ten small, List.head?_cons]
    intro same
    have zero : (digit n).val = 0x30 := by rw [Option.some.inj same]; rfl
    rw [digit_val small] at zero
    omega
  | longer n large ih =>
    rw [digits_of_ten_le large, List.head?_append_of_ne_nil _ (digits_ne_nil _)]
    exact ih (by omega)

/-! ### Reading digits -/

theorem value_append_singleton (t : Text) (c : CodePoint) :
    value (t ++ [c]) = 10 * value t + c.digitValue := by
  rw [value, List.foldl_append]
  rfl

/-- **The digits of a number say that number.** -/
theorem value_digits (n : Nat) : value (digits n) = n := by
  induction n using digits_induction with
  | single n small =>
    rw [digits_of_lt_ten small]
    show 10 * 0 + (digit n).digitValue = n
    rw [digitValue_digit small]
    omega
  | longer n large ih =>
    rw [digits_of_ten_le large, value_append_singleton, ih, digitValue_digit (by omega)]
    omega

/-- A number that is written in some digits is below that power of ten. -/
theorem value_lt (t : Text) (allDigits : ∀ c ∈ t, c.isDigit = true) : value t < 10 ^ t.length := by
  induction t using List.reverseRecOn with
  | nil => exact Nat.one_pos
  | append_singleton t c ih =>
    have front := ih fun d member => allDigits d (List.mem_append_left _ member)
    have last := digitValue_lt (allDigits c (List.mem_append_right _ List.mem_cons_self))
    rw [value_append_singleton, List.length_append, List.length_singleton, Nat.pow_succ]
    omega

/-- A number below a power of ten has at most so many digits. -/
theorem length_digits_le {n k : Nat} (positive : 0 < k) (below : n < 10 ^ k) :
    (digits n).length ≤ k := by
  induction n using digits_induction generalizing k with
  | single n small =>
    rw [digits_of_lt_ten small, List.length_singleton]
    exact positive
  | longer n large ih =>
    obtain ⟨k, rfl⟩ := Nat.exists_eq_succ_of_ne_zero (Nat.ne_of_gt positive)
    have room : 0 < k := by
      by_contra none
      have zero : k = 0 := by omega
      subst zero
      omega
    have shorter : n / 10 < 10 ^ k := by
      rw [Nat.succ_eq_add_one, Nat.pow_succ] at below
      omega
    rw [digits_of_ten_le large, List.length_append, List.length_singleton]
    exact Nat.succ_le_succ (ih room shorter)

/-- **Digits that say a number** are at least as many as its own. -/
theorem length_digits_value_le {t : Text} (some : t ≠ []) (allDigits : ∀ c ∈ t, c.isDigit = true) :
    (digits (value t)).length ≤ t.length :=
  length_digits_le (List.length_pos_iff.mpr some) (value_lt t allDigits)

/-! ### Integers -/

theorem short_of_natAbs_lt {n : Int} {k : Nat} (positive : 0 < k) (within : k ≤ digitLimit)
    (below : n.natAbs < 10 ^ k) : Short n :=
  Nat.le_trans (length_digits_le positive below) within

/-- A single digit can be read and printed. -/
theorem short_of_natAbs_lt_ten {n : Int} (small : n.natAbs < 10) : Short n :=
  short_of_natAbs_lt Nat.one_pos (by decide) small

/-- What not too many digits say is an integer that a document can have. -/
theorem short_signed {t : Text} (some : t ≠ []) (allDigits : ∀ c ∈ t, c.isDigit = true)
    (within : t.length ≤ digitLimit) (negative : Bool) : Short (signed negative (value t)) := by
  have size : (signed negative (value t)).natAbs = value t := by
    cases negative
    · rfl
    · rw [signed, if_pos rfl, Int.natAbs_neg, Int.natAbs_natCast]
  rw [Short, size]
  exact Nat.le_trans (length_digits_value_le some allDigits) within

theorem digits_injective : Function.Injective digits := by
  intro m n same
  rw [← value_digits m, same, value_digits]

/-- The notation of an integer is that of its size, behind a minus if it is negative. -/
theorem ofInt_eq (n : Int) :
    ofInt n = if n < 0 then CodePoint.ofChar '-' :: digits n.natAbs else digits n.natAbs := by
  cases n with
  | ofNat n => rfl
  | negSucc n => rw [if_pos (Int.negSucc_lt_zero n)]; rfl

/-- A code point of the notation of an integer is a minus or a digit. -/
theorem mem_ofInt {n : Int} {c : CodePoint} (member : c ∈ ofInt n) :
    c = CodePoint.ofChar '-' ∨ c.isDigit = true := by
  rw [ofInt_eq] at member
  split at member
  · rcases List.mem_cons.mp member with minus | inside
    · exact Or.inl minus
    · exact Or.inr (isDigit_of_mem_digits _ c inside)
  · exact Or.inr (isDigit_of_mem_digits _ c member)

theorem not_mem_ofInt (n : Int) {c : CodePoint} (noMinus : c ≠ CodePoint.ofChar '-')
    (noDigit : c.isDigit = false) : c ∉ ofInt n := by
  intro member
  rcases mem_ofInt member with minus | digit
  · exact noMinus minus
  · rw [noDigit] at digit
    cases digit

theorem minus_not_mem_digits (n : Nat) : CodePoint.ofChar '-' ∉ digits n :=
  not_mem_digits (by decide)

/-- **Two integers with one notation are equal.** -/
theorem ofInt_injective : Function.Injective ofInt := by
  intro m n same
  rw [ofInt_eq, ofInt_eq] at same
  split at same <;> split at same
  · have sizes := digits_injective (List.tail_eq_of_cons_eq same)
    omega
  · exact absurd (same ▸ List.mem_cons_self) (minus_not_mem_digits n.natAbs)
  · exact absurd (same ▸ List.mem_cons_self) (minus_not_mem_digits m.natAbs)
  · have sizes := digits_injective same
    omega

end AlarmFeed.Decimal
