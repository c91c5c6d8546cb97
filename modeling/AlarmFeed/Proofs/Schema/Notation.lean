/-
**The usual notation of a value is read as that value.**

The monitor writes numbers as texts. The lenient reader of integers first puts a text in its one
notation, without blanks, zeros in front, underscores or a fraction of zeros, and `Decimal.ofInt` writes
none of these: its notation is left as it is (`plainNotation?_ofInt`), and its digits say the integer
(`plainInteger?_ofInt`).

* `integer_ofInt` — so the notation of an integer that is not too long is read as that integer;
* `truth_one`, `truth_zero` — and the texts one and zero are read as true and false.
-/

import AlarmFeed.Proofs.Number.Decimal
import AlarmFeed.Proofs.Text.Pieces
import AlarmFeed.Proofs.Text.Scalar
import AlarmFeed.Schema.Reader

namespace AlarmFeed.Schema

/-! ### Digits -/

/-- The first digit of a number is zero only if it is the only one. -/
theorem digits_cases (n : Nat) :
    Decimal.digits n = [CodePoint.ofChar '0'] ∨
      ∃ c rest, Decimal.digits n = c :: rest ∧ c ≠ CodePoint.ofChar '0' ∧ c.isDigit = true := by
  by_cases zero : n = 0
  · subst zero
    exact Or.inl (Decimal.digits_of_lt_ten (by decide))
  · obtain ⟨c, rest, digits⟩ := List.exists_cons_of_ne_nil (Decimal.digits_ne_nil n)
    refine Or.inr ⟨c, rest, digits, ?_, ?_⟩
    · rintro rfl
      exact Decimal.head_digits zero (by rw [digits, List.head?_cons])
    · exact Decimal.isDigit_of_mem_digits n c (digits ▸ List.mem_cons_self)

theorem isBlank_of_isDigit {c : CodePoint} (isDigit : c.isDigit = true) : c.isBlank = false := by
  rw [CodePoint.isDigit, Bool.and_eq_true, decide_eq_true_eq, decide_eq_true_eq] at isDigit
  simp only [CodePoint.isBlank, Bool.or_eq_false_iff, Bool.and_eq_false_iff, decide_eq_false_iff_not,
    beq_eq_false_iff_ne]
  omega

/-! ### The one notation -/

theorem withoutLeadingZeros_digits (n : Nat) :
    withoutLeadingZeros (Decimal.digits n) = some (Decimal.digits n) := by
  rcases digits_cases n with zero | ⟨c, rest, digits, other, digit⟩
  · rw [zero]
    rfl
  · rw [digits, withoutLeadingZeros, if_neg other, if_pos digit]

theorem withoutZeroFraction_digits (n : Nat) :
    withoutZeroFraction (Decimal.digits n) = Decimal.digits n := by
  rw [withoutZeroFraction, Text.cutAt?_eq_none (Decimal.not_mem_digits (by decide))]

theorem dropUnderscores_digits (n : Nat) :
    Numeral.dropUnderscores (Decimal.digits n) = Decimal.digits n := by
  refine List.filter_eq_self.mpr fun c member => ?_
  rw [bne_iff_ne]
  rintro rfl
  exact Decimal.not_mem_digits (by decide) member

theorem trim_ofInt (n : Int) : Text.trim CodePoint.isBlank (Decimal.ofInt n) = Decimal.ofInt n := by
  have inked : ∀ c ∈ Decimal.ofInt n, c.isBlank = false := by
    intro c member
    rcases Decimal.mem_ofInt member with rfl | digit
    · decide
    · exact isBlank_of_isDigit digit
  exact Text.trim_eq_self (fun c first => inked c (List.mem_of_mem_head? first))
    (fun c last => inked c (List.mem_of_mem_getLast? last))

/-- **The notation of an integer is its one notation.** -/
theorem plainNotation?_ofInt (n : Int) : plainNotation? (Decimal.ofInt n) = some (Decimal.ofInt n) := by
  have figures : ∀ m, (let figures := withoutZeroFraction (Decimal.digits m)
      if Numeral.underscoresFit figures then Numeral.dropUnderscores figures else figures) =
        Decimal.digits m := by
    intro m
    simp only [withoutZeroFraction_digits, dropUnderscores_digits, ite_self]
  have unsigned : ∀ (m : Nat) (sign : CodePoint), sign.isDigit = false →
      (Decimal.digits m).head? ≠ some sign := by
    intro m sign noDigit same
    exact Decimal.not_mem_digits noDigit (List.mem_of_mem_head? same)
  rw [plainNotation?, trim_ofInt, Decimal.ofInt_eq]
  by_cases negative : n < 0
  · rw [if_pos negative]
    simp only [List.head?_cons, BEq.rfl, Bool.true_or, if_true, List.drop_one, List.tail_cons,
      withoutLeadingZeros_digits, Option.map_some, figures]
  · rw [if_neg negative]
    have minus : ((Decimal.digits n.natAbs).head? == some (CodePoint.ofChar '-')) = false :=
      beq_eq_false_iff_ne.mpr (unsigned _ _ (by decide))
    have plus : ((Decimal.digits n.natAbs).head? == some (CodePoint.ofChar '+')) = false :=
      beq_eq_false_iff_ne.mpr (unsigned _ _ (by decide))
    simp only [minus, plus, Bool.or_false, Bool.false_eq_true, if_false, withoutLeadingZeros_digits,
      Option.map_some, figures]

/-! ### Reading it -/

theorem withoutMinus_ofInt (n : Int) : withoutMinus (Decimal.ofInt n) = Decimal.digits n.natAbs := by
  rw [withoutMinus, Decimal.ofInt_eq]
  by_cases negative : n < 0
  · rw [if_pos negative]
    rfl
  · have unsigned : (Decimal.digits n.natAbs).head? ≠ some (CodePoint.ofChar '-') := fun same =>
      Decimal.not_mem_digits (n := n.natAbs) (by decide) (List.mem_of_mem_head? same)
    rw [if_neg negative, if_neg (by rw [beq_iff_eq]; exact unsigned)]

theorem startsTooLong_ofInt {n : Int} (short : Decimal.Short n) :
    startsTooLong (Decimal.ofInt n) = false := by
  have all : (Decimal.digits n.natAbs).takeWhile CodePoint.isDigit = Decimal.digits n.natAbs :=
    List.takeWhile_eq_self_iff.mpr (Decimal.isDigit_of_mem_digits _)
  have few : ¬Decimal.digitLimit < (Decimal.digits n.natAbs).length := Nat.not_lt.mpr short
  rw [startsTooLong]
  simp only [withoutMinus_ofInt, all, few, decide_false, Bool.and_false]

/-- **The digits of an integer say it.** -/
theorem plainInteger?_ofInt {n : Int} (short : Decimal.Short n) :
    plainInteger? (Decimal.ofInt n) = some n := by
  have lonely : (Decimal.digits n.natAbs).head? = some (CodePoint.ofChar '0') →
      (Decimal.digits n.natAbs).length = 1 := by
    intro zero
    rcases digits_cases n.natAbs with single | ⟨c, rest, digits, other, _⟩
    · rw [single]
      rfl
    · rw [digits, List.head?_cons] at zero
      exact absurd (Option.some.inj zero) other
  rw [plainInteger?, withoutMinus_ofInt, if_pos ⟨Decimal.digits_ne_nil _,
    List.all_eq_true.mpr (Decimal.isDigit_of_mem_digits _), short, lonely⟩, Decimal.value_digits,
    Decimal.ofInt_eq]
  by_cases negative : n < 0
  · rw [if_pos negative, List.length_cons, decide_eq_true (Nat.lt_succ_self _), Decimal.signed,
      if_pos rfl]
    congr 1
    omega
  · rw [if_neg negative, decide_eq_false (Nat.lt_irrefl _), Decimal.signed, if_neg Bool.false_ne_true]
    congr 1
    omega

theorem integerOfText_ofInt {n : Int} (short : Decimal.Short n) :
    integerOfText (Decimal.ofInt n) = .ok n := by
  have scalar : (Decimal.ofInt n).any CodePoint.isSurrogate = false :=
    List.any_eq_false.mpr fun c member => by
      rw [Text.scalar_ofInt n c member]
      exact Bool.false_ne_true
  rw [integerOfText, scalar, if_neg Bool.false_ne_true, startsTooLong_ofInt short,
    if_neg Bool.false_ne_true, plainNotation?_ofInt, Option.bind_some, plainInteger?_ofInt short]

/-- **An integer is read from its notation** as it is read from itself. -/
theorem integer_ofInt {n : Int} (short : Decimal.Short n) :
    integer (.text (Decimal.ofInt n)) = integer (.int n) := by
  show Checked.ofExcept _ (integerOfText (Decimal.ofInt n)) = .ok n
  rw [integerOfText_ofInt short]
  rfl

theorem truth_one : truth (.text "1") = truth (.bool true) := rfl

theorem truth_zero : truth (.text "0") = truth (.bool false) := rfl

end AlarmFeed.Schema
