/-
**The notation of floating point numbers.**

A number that is neither infinite nor NaN is written as a fraction or with an exponent, never as a whole
number (`Fractional`), so that it is told apart from an integer by its notation.

* `shortest_point_of_zero` — the digits that are found for a number are no zero in front of others;
* `fractional_positional`, `fractional_scientific` — so both forms of a notation are sound;
* `fractional_unsigned` — and so is the notation of each number, in every style.
-/

import AlarmFeed.Number.Shortest
import AlarmFeed.Proofs.Number.Decimal
import Mathlib.Tactic.SplitIfs

namespace AlarmFeed

/-! ### Runs of digits -/

/-- A run of digits, at least one. -/
structure Figures (t : Text) : Prop where
  some : t ≠ []
  digits : ∀ c ∈ t, c.isDigit = true

/-- **The whole part of a number**: digits, of which the first is zero only if it is the only one. -/
structure Whole (t : Text) : Prop extends Figures t where
  leading : t.head? = .some (CodePoint.ofChar '0') → t = [CodePoint.ofChar '0']

theorem figures_digits (n : Nat) : Figures (Decimal.digits n) :=
  ⟨Decimal.digits_ne_nil n, Decimal.isDigit_of_mem_digits n⟩

theorem whole_digits (n : Nat) : Whole (Decimal.digits n) where
  toFigures := figures_digits n
  leading zero := by
    by_cases none : n = 0
    · rw [none, Decimal.digits_of_lt_ten (by decide)]
      rfl
    · exact absurd zero (Decimal.head_digits none)

/-- A run of digits starts with a digit, whatever follows. -/
theorem Figures.exists_cons {figures : Text} (run : Figures figures) (rest : Text) :
    ∃ c more, figures ++ rest = c :: more ∧ c.isDigit = true := by
  obtain ⟨c, more, rfl⟩ := List.exists_cons_of_ne_nil run.some
  exact ⟨c, more ++ rest, rfl, run.digits c List.mem_cons_self⟩

theorem whole_singleton {c : CodePoint} (digit : c.isDigit = true) : Whole [c] where
  some := List.cons_ne_nil _ _
  digits d member := List.mem_singleton.mp member ▸ digit
  leading zero := by rw [Option.some.inj zero]

theorem isDigit_of_mem_zeros {count : Nat} {c : CodePoint} (member : c ∈ NumberStyle.zeros count) :
    c.isDigit = true := by
  rw [NumberStyle.zeros] at member
  rw [List.eq_of_mem_replicate member]
  decide

namespace Figures

variable {figures : Text}

/-- Zeros in front make no difference to a run of digits, nor do zeros behind it. -/
theorem zeros_append (run : Figures figures) (count : Nat) :
    Figures (NumberStyle.zeros count ++ figures) where
  some := List.append_ne_nil_of_right_ne_nil _ run.some
  digits c member := (List.mem_append.mp member).elim isDigit_of_mem_zeros (run.digits c)

theorem append_zeros (run : Figures figures) (count : Nat) :
    Figures (figures ++ NumberStyle.zeros count) where
  some := List.append_ne_nil_of_left_ne_nil run.some _
  digits c member := (List.mem_append.mp member).elim (run.digits c) isDigit_of_mem_zeros

theorem take (run : Figures figures) {count : Nat} (positive : 0 < count) :
    Figures (figures.take count) where
  some := by simp [run.some, Nat.ne_of_gt positive]
  digits c member := run.digits c (List.mem_of_mem_take member)

theorem drop (run : Figures figures) {count : Nat} (less : count < figures.length) :
    Figures (figures.drop count) where
  some := by simpa using less
  digits c member := run.digits c (List.mem_of_mem_drop member)

/-- A run that starts with no zero is a whole part. -/
theorem whole (run : Figures figures) (leading : figures.head? ≠ .some (CodePoint.ofChar '0')) :
    Whole figures :=
  ⟨run, fun zero => absurd zero leading⟩

end Figures

/-! ### Fractions and exponents -/

/-- **A number that is not written as a whole one**: behind its whole part there is a point with digits,
or an exponent with a sign, or both. -/
inductive Fractional : Text → Prop
  | point {whole decimals : Text} (front : Whole whole) (behind : Figures decimals) :
      Fractional (whole ++ CodePoint.ofChar '.' :: decimals)
  | power {whole figures : Text} {sign : CodePoint} (front : Whole whole)
      (signed : sign = CodePoint.ofChar '+' ∨ sign = CodePoint.ofChar '-') (run : Figures figures) :
      Fractional (whole ++ CodePoint.ofChar 'e' :: sign :: figures)
  | both {whole decimals figures : Text} {sign : CodePoint} (front : Whole whole)
      (behind : Figures decimals)
      (signed : sign = CodePoint.ofChar '+' ∨ sign = CodePoint.ofChar '-') (run : Figures figures) :
      Fractional
        (whole ++ CodePoint.ofChar '.' :: (decimals ++ CodePoint.ofChar 'e' :: sign :: figures))

namespace NumberStyle

/-- **Digits with a point among them** are a fraction. Zeros fill the places that are missing; only a
point behind the first digit needs that this is no zero. -/
theorem fractional_positional {figures : Text} (run : Figures figures) {point : Int}
    (leading : 0 < point → figures.head? ≠ some (CodePoint.ofChar '0')) :
    Fractional (positional figures point) := by
  have zero : Whole [CodePoint.ofChar '0'] := whole_singleton (by decide)
  cases point with
  | ofNat p =>
    cases p with
    | zero => exact .point zero run
    | succ p =>
      have noZero := leading (Int.natCast_pos.mpr (Nat.succ_pos p))
      rw [positional]
      split_ifs with long
      · have front : Whole (figures ++ zeros (p + 1 - figures.length)) := by
          refine (run.append_zeros _).whole ?_
          rwa [List.head?_append_of_ne_nil _ run.some]
        exact .point front zero.toFigures
      · have front : Whole (figures.take (p + 1)) := by
          refine (run.take (Nat.succ_pos p)).whole ?_
          rwa [List.head?_take, if_neg (Nat.succ_ne_zero p)]
        rw [List.append_assoc]
        exact .point front (run.drop (Nat.not_le.mp long))
      · exact fun none => absurd none (Nat.succ_ne_zero p)
  | negSucc p =>
    rw [positional, List.append_assoc]
    exact .point zero (run.zeros_append (p + 1))

/-- An exponent is a sign with digits. -/
theorem exists_exponent (style : NumberStyle) (power : Int) :
    ∃ sign figures, style.exponent power = CodePoint.ofChar 'e' :: sign :: figures ∧
      (sign = CodePoint.ofChar '+' ∨ sign = CodePoint.ofChar '-') ∧ Figures figures := by
  have run := (figures_digits power.natAbs).zeros_append
    (style.exponentPlaces - (Decimal.digits power.natAbs).length)
  rw [exponent]
  by_cases negative : power < 0
  · exact ⟨CodePoint.ofChar '-', _, by simp only [negative, if_pos]; rfl, .inr rfl, run⟩
  · exact ⟨CodePoint.ofChar '+', _, by simp only [negative, if_neg, not_false_eq_true]; rfl,
      .inl rfl, run⟩

/-- **A digit, perhaps others behind a point, and an exponent** are sound, whatever the digits. -/
theorem fractional_scientific (style : NumberStyle) {figures : Text} (run : Figures figures)
    (power : Int) : Fractional (style.scientific figures power) := by
  obtain ⟨sign, places, written, signed, placesRun⟩ := style.exists_exponent power
  obtain ⟨figure, more, rfl⟩ := List.exists_cons_of_ne_nil run.some
  have front : Whole [figure] := whole_singleton (run.digits figure List.mem_cons_self)
  cases more with
  | nil =>
    rw [scientific, written]
    exact .power front signed placesRun
  | cons next more =>
    have behind : Figures (next :: more) :=
      ⟨List.cons_ne_nil _ _, fun c member => run.digits c (List.mem_cons_of_mem _ member)⟩
    rw [scientific, written]
    · exact .both front behind signed placesRun
    · exact fun none => List.cons_ne_nil _ _ none

end NumberStyle

/-! ### The shortest digits -/

namespace Binary64

theorem dropZeros_ne_zero {figure : Nat} (positive : figure ≠ 0) (fuel : Nat) :
    dropZeros fuel figure ≠ 0 := by
  induction fuel generalizing figure with
  | zero => exact positive
  | succ fuel ih =>
    rw [dropZeros]
    split_ifs with zeroBehind
    · exact ih (by omega)
    · exact positive

/-- Zero does not read back as a number that is not zero. -/
theorem ne_zero_of_readsBack {mantissa figure numerator denominator : Nat} {exponent power : Int}
    (positive : mantissa ≠ 0)
    (found : readsBack? (.finite false mantissa exponent) numerator denominator power = some figure) :
    figure ≠ 0 := by
  have reads : (ofDecimal false figure power == .finite false mantissa exponent) = true := by
    unfold readsBack? at found
    dsimp only at found
    generalize roundQuotient _ _ = nearer at found
    generalize (if nearer = _ then _ else _) = other at found
    split_ifs at found with first second
    · exact Option.some.inj found ▸ first
    · exact Option.some.inj found ▸ second
  rintro rfl
  have zero : ofDecimal false 0 power = .finite false 0 leastExponent := by
    unfold ofDecimal
    exact if_pos rfl
  rw [zero, beq_iff_eq, finite.injEq] at reads
  exact positive reads.2.1.symm

theorem firstGrid_point_of_zero {mantissa : Nat} {exponent : Int} (positive : mantissa ≠ 0)
    (numerator denominator : Nat) (point : Int) (fuel count : Nat)
    (zero : (firstGrid (.finite false mantissa exponent) numerator denominator point fuel
      count).figure = 0) :
    (firstGrid (.finite false mantissa exponent) numerator denominator point fuel count).point = 0 := by
  induction fuel generalizing count with
  | zero => rfl
  | succ fuel ih =>
    rw [firstGrid] at zero ⊢
    dsimp only at zero ⊢
    split at zero
    · next figure found =>
      exact absurd zero (dropZeros_ne_zero (ne_zero_of_readsBack positive found) _)
    · next none =>
      exact ih (count + 1) zero

/-- **The digits that are found** say zero only where the point stands in front of them. -/
theorem shortest_point_of_zero {mantissa : Nat} (positive : mantissa ≠ 0) (exponent : Int)
    (zero : (shortest mantissa exponent).figure = 0) : (shortest mantissa exponent).point = 0 :=
  firstGrid_point_of_zero positive _ _ _ 17 1 zero

end Binary64

/-- **No finite number is written as a whole one.** -/
theorem NumberStyle.fractional_unsigned (style : NumberStyle) (mantissa : Nat) (exponent : Int) :
    Fractional (style.unsigned mantissa exponent) := by
  have zero : Whole [CodePoint.ofChar '0'] := whole_singleton (by decide)
  rw [unsigned]
  split_ifs with none
  · exact .point zero zero.toFigures
  · have run := figures_digits (Binary64.shortest mantissa exponent).figure
    dsimp only
    split_ifs with between
    · refine fractional_positional run ?_
      intro positive
      refine Decimal.head_digits ?_
      intro figure
      have point := Binary64.shortest_point_of_zero none exponent figure
      omega
    · exact style.fractional_scientific run _

end AlarmFeed
