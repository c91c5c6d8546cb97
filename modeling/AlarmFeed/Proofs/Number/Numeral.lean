/-
**A decimal numeral is read as the integer that it writes.**

The reader of numerals takes blanks, underscores, marks of a base and the digits of all scripts. A run of
ASCII digits has none of these, so `read_digits` — behind at most a minus, it is read as the number that
the digits say; `read_ofInt` — so the notation of an integer that is not too long is read as that integer.
-/

import AlarmFeed.Number.Numeral
import AlarmFeed.Proofs.Number.Decimal
import AlarmFeed.Proofs.Text.Pieces
import Mathlib.Data.List.TakeWhile

namespace AlarmFeed.Numeral

/-! ### Digits -/

/-- A digit of ASCII has its value in base ten. -/
theorem digitValue?_of_isDigit {c : CodePoint} (isDigit : c.isDigit = true) :
    digitValue? 10 c = some c.digitValue := by
  have below := Decimal.digitValue_lt isDigit
  rw [CodePoint.isDigit, Bool.and_eq_true, decide_eq_true_eq, decide_eq_true_eq] at isDigit
  have first : (decide (0x30 ≤ c.val) && decide (c.val < 0x30 + 10)) = true := by
    rw [Bool.and_eq_true, decide_eq_true_eq, decide_eq_true_eq]
    omega
  have block : (CodePoint.decimalZeros.find? fun block =>
      decide (block ≤ c.val) && decide (c.val < block + 10)) = some 0x30 :=
    List.find?_cons_of_pos first
  have value : c.decimalValue? = some c.digitValue := by
    rw [CodePoint.decimalValue?, block]
    rfl
  rw [digitValue?, value]
  exact if_pos below

theorem isPadding_of_isDigit {c : CodePoint} (isDigit : c.isDigit = true) : isPadding c = false := by
  rw [CodePoint.isDigit, Bool.and_eq_true, decide_eq_true_eq, decide_eq_true_eq] at isDigit
  simp only [isPadding, CodePoint.isAsciiBlank, Bool.or_eq_false_iff, Bool.and_eq_false_iff,
    decide_eq_false_iff_not, beq_eq_false_iff_ne]
  omega

/-- Base ten has no mark. -/
theorem afterMark_ten (t : Text) : afterMark 10 t = t := by
  match t with
  | [] => rfl
  | [_] => rfl
  | zero :: mark :: rest =>
    have unmarked : ¬(zero = CodePoint.ofChar '0' ∧ some mark.lower = mark? 10) := fun marked =>
      nomatch marked.2
    rw [afterMark, if_neg unmarked]

/-! ### Runs of digits -/

section Digits

variable {t : Text} (allDigits : ∀ c ∈ t, c.isDigit = true)

include allDigits

theorem takeWhile_digits :
    (t.takeWhile fun c => c == CodePoint.ofChar '_' || (digitValue? 10 c).isSome) = t := by
  refine List.takeWhile_eq_self_iff.mpr fun c member => ?_
  rw [digitValue?_of_isDigit (allDigits c member), Option.isSome_some, Bool.or_true]

theorem filterMap_digits : t.filterMap (digitValue? 10) = t.map CodePoint.digitValue := by
  rw [← List.filterMap_eq_map]
  exact List.filterMap_congr fun c member => digitValue?_of_isDigit (allDigits c member)

theorem underscoresFit_digits (nonempty : t ≠ []) : underscoresFit t = true := by
  have free : CodePoint.ofChar '_' ∉ t := Decimal.not_mem_of_digits allDigits (by decide)
  rw [underscoresFit, Text.splitOn_of_free free, List.all_cons, List.all_nil, Bool.and_true,
    Bool.not_eq_true', List.isEmpty_eq_false_iff]
  exact nonempty

/-- **Digits behind at most a minus** are read as the integer that they say. -/
theorem read_digits (nonempty : t ≠ []) (within : t.length ≤ Decimal.digitLimit) (negative : Bool) :
    read 10 (if negative then CodePoint.ofChar '-' :: t else t) =
      .ok (Decimal.signed negative (Decimal.value t)) := by
  have unpadded : ∀ c ∈ (if negative then CodePoint.ofChar '-' :: t else t), isPadding c = false := by
    intro c member
    cases negative with
    | false => exact isPadding_of_isDigit (allDigits c member)
    | true =>
      rcases List.mem_cons.mp member with rfl | inside
      · decide
      · exact isPadding_of_isDigit (allDigits c inside)
  have trimmed := Text.trim_eq_self (fun c first => unpadded c (List.mem_of_mem_head? first))
    (fun c last => unpadded c (List.mem_of_mem_getLast? last))
  have unsigned : ∀ sign : CodePoint, sign.isDigit = false → (t.head? == some sign) = false :=
    fun sign noDigit => beq_eq_false_iff_ne.mpr fun same =>
      Decimal.not_mem_of_digits allDigits noDigit (List.mem_of_mem_head? same)
  have minus : ((if negative then CodePoint.ofChar '-' :: t else t).head? ==
      some (CodePoint.ofChar '-')) = negative := by
    cases negative with
    | false => exact unsigned _ (by decide)
    | true => exact beq_self_eq_true _
  have plus : ((if negative then CodePoint.ofChar '-' :: t else t).head? ==
      some (CodePoint.ofChar '+')) = false := by
    cases negative with
    | false => exact unsigned _ (by decide)
    | true =>
      rw [if_pos rfl, List.head?_cons]
      decide
  have figures : (if negative then (if negative then CodePoint.ofChar '-' :: t else t).drop 1
      else if negative then CodePoint.ofChar '-' :: t else t) = t := by
    cases negative <;> rfl
  have few : ¬Decimal.digitLimit < t.length := Nat.not_lt.mpr within
  have sum : (t.map CodePoint.digitValue).foldl (fun sum digit => 10 * sum + digit) 0 =
      Decimal.value t := by
    rw [List.foldl_map]
    rfl
  simp only [read, trimmed, minus, plus, Bool.or_false, figures, afterMark_ten,
    takeWhile_digits allDigits, filterMap_digits allDigits, underscoresFit_digits allDigits nonempty,
    List.length_map, few, and_false, Bool.not_true, Bool.false_eq_true, if_false, Nat.lt_irrefl, sum]

end Digits

/-- **The notation of an integer** that is not too long is read as that integer. -/
theorem read_ofInt {n : Int} (short : Decimal.Short n) : read 10 (Decimal.ofInt n) = .ok n := by
  have digits := read_digits (Decimal.isDigit_of_mem_digits n.natAbs) (Decimal.digits_ne_nil _) short
  rw [Decimal.ofInt_eq]
  by_cases negative : n < 0
  · have minus := digits true
    rw [if_pos rfl, Decimal.value_digits, Decimal.signed, if_pos rfl] at minus
    rw [if_pos negative, minus]
    congr 1
    omega
  · have plain := digits false
    rw [if_neg Bool.false_ne_true, Decimal.value_digits, Decimal.signed,
      if_neg Bool.false_ne_true] at plain
    rw [if_neg negative, plain]
    congr 1
    omega

end AlarmFeed.Numeral
