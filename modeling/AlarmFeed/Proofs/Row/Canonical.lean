/-
**The order of rows, spelled out.**

`sortRows` compares keys by a function. Here the order is said without it (`RowKey.AtMost`): by
suppression, then by age, then by the joined values in the library's order of lists, which is the order
by code points (`Text.compare_eq_gt_iff`).

* `sortRows_canonical` — what is sorted is a permutation of the rows in this order, and stays as it is
  when it is sorted again; if no name of a row holds a NUL, it is the only one.
-/

import AlarmFeed.Proofs.Row.Order

namespace AlarmFeed

/-- **Texts are in the order of the library**, that of lists of numbers. -/
theorem Text.compare_eq_gt_iff (s t : Text) : compare s t = .gt ↔ t < s := by
  induction s generalizing t with
  | nil =>
    have none : ¬t < [] := List.not_lt_nil t
    cases t with
    | nil => simp [compare]
    | cons d t => simp [compare, none]
  | cons c s ih =>
    cases t with
    | nil => simp [compare, List.nil_lt_cons c s]
    | cons d t =>
      rw [compare, List.cons_lt_cons_iff]
      by_cases less : c < d
      · have other : ¬d < c ∧ d ≠ c := ⟨Nat.lt_asymm less, Fin.ne_of_gt less⟩
        simp [less, other]
      · by_cases more : d < c
        · simp [less, more]
        · have same : d = c := Fin.ext (Nat.le_antisymm (Nat.not_lt.mp less) (Nat.not_lt.mp more))
          simp [same, ih]

namespace RowKey

/-- **A key is at most another**: the first part in which they differ is smaller, or none differs. Of
texts, the one is at most the other if the other is not less. -/
def AtMost (a b : RowKey) : Prop :=
  a.suppressed < b.suppressed ∨ a.suppressed = b.suppressed ∧
    (a.age < b.age ∨ a.age = b.age ∧ ¬b.values < a.values)

/-- The comparison of keys decides which is at most the other. -/
theorem isLE_compare (a b : RowKey) : (a.compare b).isLE = true ↔ a.AtMost b := by
  have values : (Text.compare a.values b.values).isLE = true ↔ ¬b.values < a.values := by
    rw [← Text.compare_eq_gt_iff, Ordering.isLE_iff_ne_gt]
  unfold RowKey.compare AtMost
  rw [Ordering.isLE_then_iff_or, Ordering.isLE_then_iff_or, values, Nat.compare_eq_lt,
    Nat.compare_eq_eq, Int.compare_eq_lt, Int.compare_eq_eq]

end RowKey

theorem Row.before_iff_atMost (a b : Row) : a.before b = true ↔ a.key.AtMost b.key := by
  rw [before_iff, RowKey.isLE_compare]

/-- Sorted rows stay as they are. -/
theorem sortRows_sortRows (rows : List Row) : sortRows (sortRows rows) = sortRows rows :=
  List.mergeSort_of_pairwise (sortRows_pairwise rows)

/-- **The sort of rows is canonical.** Sorted rows are a permutation of those that were given; of any two
of them the one in front has a key that is at most that of the other; and they stay as they are when
they are sorted again. If no name of a row holds a NUL, then two of the rows with one key are one row,
and every permutation of the rows is sorted to the same list. -/
theorem sortRows_canonical (rows : List Row) :
    (sortRows rows).Perm rows ∧
      (∀ i j (inside : i < (sortRows rows).length) (inside' : j < (sortRows rows).length), i < j →
        (sortRows rows)[i].key.AtMost (sortRows rows)[j].key) ∧
      sortRows (sortRows rows) = sortRows rows ∧
      ((∀ row ∈ rows, row.NamesFree) →
        (∀ a ∈ rows, ∀ b ∈ rows, a.key = b.key → a = b) ∧
          ∀ permuted : List Row, permuted.Perm rows → sortRows permuted = sortRows rows) := by
  refine ⟨sortRows_perm rows, ?_, sortRows_sortRows rows, fun free => ⟨?_, ?_⟩⟩
  · intro i j inside inside' less
    have ordered := List.pairwise_iff_getElem.mp (sortRows_pairwise rows) i j inside inside' less
    exact (Row.before_iff_atMost _ _).mp ordered
  · intro a memberA b memberB same
    exact Row.key_injective (free a memberA) (free b memberB) same
  · intro permuted perm
    exact (sortRows_eq_of_perm free perm.symm).symm

/-- A NUL in a name can be taken for the end of the name in front of it. -/
example : ∃ a b : Row, a.key = b.key ∧ a ≠ b :=
  ⟨{ clock := 1, severity := 5, suppressed := 0, hostId := 7, host := [0] },
    { clock := 1, severity := 5, suppressed := 0, hostId := 7, name := [0] },
    by decide +kernel, by decide⟩

end AlarmFeed
