/-
**The order of rows.**

Keys are compared part by part, and each part by a lawful comparison of the library, texts by
`List.compareLex` (`Text.compare_eq`). So keys are totally ordered, and a sorted list of rows is in the
order of its keys.

* `Row.key_injective` — rows whose names hold no NUL differ in their keys if they differ at all;
* `sortRows_eq_of_perm` — so the sorted list of such rows does not depend on the order in which they
  are given;
* `sortRows_sublist` — and taking some of them away moves none of the others.
-/

import AlarmFeed.Proofs.Number.Decimal
import AlarmFeed.Proofs.Text.Pieces
import AlarmFeed.Row

namespace AlarmFeed

/-! ### Texts -/

/-- Texts are compared as lists of code points. -/
theorem Text.compare_eq : Text.compare = List.compareLex Ord.compare := by
  funext s t
  induction s generalizing t with
  | nil => cases t <;> rfl
  | cons c s ih =>
    cases t with
    | nil => rfl
    | cons d t =>
      have points : Ord.compare c d = Ord.compare c.val d.val := rfl
      rw [Text.compare, List.compareLex_cons_cons, ih, points]
      by_cases less : c < d
      · rw [if_pos less, Nat.compare_eq_lt.mpr less]
        rfl
      · by_cases more : d < c
        · rw [if_neg less, if_pos more, Nat.compare_eq_gt.mpr more]
          rfl
        · have same : c.val = d.val := Nat.le_antisymm (Nat.not_lt.mp more) (Nat.not_lt.mp less)
          rw [if_neg less, if_neg more, Nat.compare_eq_eq.mpr same]
          rfl

instance : Std.TransCmp Text.compare := by
  rw [Text.compare_eq]
  infer_instance

instance : Std.LawfulEqCmp Text.compare := by
  rw [Text.compare_eq]
  infer_instance

/-! ### Keys -/

namespace RowKey

/-- Compares two keys by their values alone. -/
def compareValues (a b : RowKey) : Ordering :=
  Text.compare a.values b.values

instance : Std.TransCmp compareValues where
  eq_swap {a b} := @Std.OrientedCmp.eq_swap Text Text.compare _ a.values b.values
  isLE_trans {a b c} := @Std.TransCmp.isLE_trans Text Text.compare _ a.values b.values c.values

/-- **Keys are totally preordered**: each part is, and the first that differs decides. -/
instance : Std.TransCmp RowKey.compare :=
  inferInstanceAs (Std.TransCmp (compareLex (compareOn RowKey.suppressed)
    (compareLex (compareOn RowKey.age) compareValues)))

/-- Keys that are compared as equal are equal. -/
instance : Std.LawfulEqCmp RowKey.compare where
  eq_of_compare {a b} equal := by
    simp only [RowKey.compare, Ordering.then_eq_eq, Std.LawfulEqCmp.compare_eq_iff_eq] at equal
    obtain ⟨suppressed, age, values⟩ := equal
    cases a
    cases b
    cases suppressed
    cases age
    cases values
    rfl

end RowKey

namespace Row

theorem before_iff (a b : Row) : a.before b = true ↔ (a.key.compare b.key).isLE = true := by
  rw [before, Ordering.isLE_iff_ne_gt]
  simp

theorem before_trans (a b c : Row) (first : a.before b = true) (second : b.before c = true) :
    a.before c = true := by
  rw [before_iff] at first second ⊢
  exact Std.TransCmp.isLE_trans first second

theorem before_total (a b : Row) : (a.before b || b.before a) = true := by
  rw [Bool.or_eq_true, before_iff, before_iff]
  cases order : a.key.compare b.key with
  | lt => exact Or.inl rfl
  | eq => exact Or.inl rfl
  | gt =>
    right
    rw [Std.OrientedCmp.gt_iff_lt] at order
    rw [order]
    rfl

/-- Rows that may stand before each other have one key. -/
theorem key_eq_of_before {a b : Row} (first : a.before b = true) (second : b.before a = true) :
    a.key = b.key := by
  rw [before_iff] at first second
  exact Std.LawfulEqCmp.eq_of_compare (Std.OrientedCmp.isLE_antisymm first second)

/-! ### What a key says of its row -/

/-- The names of a row hold no NUL. -/
def NamesFree (row : Row) : Prop :=
  CodePoint.ofNat 0 ∉ row.host ∧ CodePoint.ofNat 0 ∉ row.name

theorem values_free {row : Row} (free : row.NamesFree) :
    ∀ value ∈ row.values, CodePoint.ofNat 0 ∉ value := by
  have numbers : ∀ n : Int, CodePoint.ofNat 0 ∉ Decimal.ofInt n := fun n =>
    Decimal.not_mem_ofInt n (by decide) (by decide)
  intro value member
  simp only [values, List.mem_cons, List.not_mem_nil, or_false] at member
  rcases member with rfl | rfl | rfl | rfl | rfl | rfl
  · exact numbers _
  · exact numbers _
  · exact numbers _
  · exact numbers _
  · exact free.1
  · exact free.2

theorem values_injective : Function.Injective values := by
  intro a b same
  simp only [values, List.cons.injEq, and_true] at same
  obtain ⟨clock, severity, suppressed, hostId, host, name⟩ := same
  cases a
  cases b
  cases Decimal.ofInt_injective clock
  cases Decimal.ofInt_injective severity
  cases Decimal.ofInt_injective suppressed
  cases Decimal.ofInt_injective hostId
  cases host
  cases name
  rfl

/-- **A key tells its row**, if the names of the row hold no NUL. -/
theorem key_injective {a b : Row} (freeA : a.NamesFree) (freeB : b.NamesFree)
    (same : a.key = b.key) : a = b :=
  values_injective (Text.joinWith_injective (List.cons_ne_nil _ _) (List.cons_ne_nil _ _)
    (values_free freeA) (values_free freeB) (congrArg RowKey.values same))

end Row

/-! ### Sorted rows -/

theorem sortRows_perm (rows : List Row) : (sortRows rows).Perm rows :=
  List.mergeSort_perm rows Row.before

theorem sortRows_pairwise (rows : List Row) :
    (sortRows rows).Pairwise fun a b => a.before b = true :=
  List.pairwise_mergeSort Row.before_trans Row.before_total rows

/-- **The sorted list is canonical**: of rows whose names hold no NUL, every order gives the same. -/
theorem sortRows_eq_of_perm {first second : List Row} (free : ∀ row ∈ first, row.NamesFree)
    (same : first.Perm second) : sortRows first = sortRows second := by
  have perm : (sortRows first).Perm (sortRows second) :=
    (sortRows_perm first).trans (same.trans (sortRows_perm second).symm)
  refine perm.eq_of_pairwise ?_ (sortRows_pairwise first) (sortRows_pairwise second)
  intro a b memberA memberB ab ba
  have freeA := free a ((sortRows_perm first).mem_iff.mp memberA)
  have freeB := free b (same.mem_iff.mpr ((sortRows_perm second).mem_iff.mp memberB))
  exact Row.key_injective freeA freeB (Row.key_eq_of_before ab ba)

/-- **A sorted part is a part of the sorted whole**: of rows whose names hold no NUL, those that are left
when some are taken away stand in the same order. -/
theorem sortRows_sublist {rows kept gone : List Row} (free : ∀ row ∈ rows, row.NamesFree)
    (cut : rows.Perm (kept ++ gone)) : (sortRows kept).Sublist (sortRows rows) := by
  have whole : rows.Perm (sortRows kept ++ gone) :=
    cut.trans ((sortRows_perm kept).symm.append_right gone)
  rw [sortRows_eq_of_perm free whole]
  exact List.sublist_mergeSort Row.before_trans Row.before_total (sortRows_pairwise kept)
    (List.sublist_append_left _ gone)

end AlarmFeed
