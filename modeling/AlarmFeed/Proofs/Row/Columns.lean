/-
**The order of rows, column by column.**

The key of a row joins its values with a NUL between two of them. A NUL is below every code point that a
value holds, so a value that ends goes before every value that goes on, and joined values compare as the
values do, one after another:

* `Text.compare_append` — two texts that go on with nothing or with such a separator;
* `Text.compare_joinWith` — pieces joined by a separator that is below all that they hold;
* `compare_key` — so the keys of rows compare as suppression, clock and columns do
  (`Row.compareColumns`), in the library's orders of truth values, integers and lists.
-/

import AlarmFeed.Proofs.Row.Order

namespace AlarmFeed

/-! ### Lists -/

/-- Lists that start the same compare as what follows does. -/
theorem compare_append_left {α : Type} [Ord α] [Std.ReflOrd α] (same s t : List α) :
    Ord.compare (same ++ s) (same ++ t) = Ord.compare s t := by
  induction same with
  | nil => rfl
  | cons a same ih =>
    rw [List.cons_append, List.cons_append, List.compare_cons_cons, Std.ReflOrd.compare_self, ih]
    rfl

/-- A proper start of a list goes before it. -/
theorem compare_start {α : Type} [Ord α] [Std.ReflOrd α] {start more : List α} (some : more ≠ []) :
    Ord.compare start (start ++ more) = .lt := by
  obtain ⟨a, more, rfl⟩ := List.exists_cons_of_ne_nil some
  have same := compare_append_left start [] (a :: more)
  rwa [List.append_nil] at same

/-! ### Joined texts -/

namespace Text

/-- **All that a text holds is above a separator.** -/
def Above (separator : CodePoint) (t : Text) : Prop :=
  ∀ c ∈ t, separator < c

/-- **A text goes on with a separator**, unless nothing follows. -/
def EndsPiece (separator : CodePoint) (rest : Text) : Prop :=
  ∀ c ∈ rest.head?, c = separator

section Joined

variable {separator : CodePoint}

/-- The end of a piece is below all that another piece goes on with. -/
theorem compare_endsPiece {s t : Text} {d : CodePoint} (ends : EndsPiece separator s)
    (above : separator < d) : Ord.compare s (d :: t) = .lt ∧ Ord.compare (d :: t) s = .gt := by
  cases s with
  | nil => exact ⟨List.compare_nil_cons, List.compare_cons_nil⟩
  | cons c s =>
    obtain rfl := ends c rfl
    have less : Ord.compare c d = .lt := Nat.compare_eq_lt.mpr above
    have more : Ord.compare d c = .gt := Nat.compare_eq_gt.mpr above
    rw [List.compare_cons_cons, List.compare_cons_cons, less, more]
    exact ⟨rfl, rfl⟩

/-- **The pieces in front decide**, and what follows them only if they are the same. -/
theorem compare_append {p q s t : Text} (aboveP : Above separator p) (aboveQ : Above separator q)
    (endsP : EndsPiece separator s) (endsQ : EndsPiece separator t) :
    Ord.compare (p ++ s) (q ++ t) = (Ord.compare p q).then (Ord.compare s t) := by
  induction p generalizing q with
  | nil =>
    cases q with
    | nil => rw [List.compare_nil_nil]; rfl
    | cons d q =>
      rw [List.compare_nil_cons]
      exact (compare_endsPiece endsP (aboveQ d List.mem_cons_self)).1
  | cons c p ih =>
    cases q with
    | nil =>
      rw [List.compare_cons_nil]
      exact (compare_endsPiece endsQ (aboveP c List.mem_cons_self)).2
    | cons d q =>
      have later := ih (fun c inside => aboveP c (List.mem_cons_of_mem _ inside))
        (fun c inside => aboveQ c (List.mem_cons_of_mem _ inside))
      rw [List.cons_append, List.cons_append, List.compare_cons_cons, List.compare_cons_cons, later,
        Ordering.then_assoc]

/-- What stands behind a piece, in front of the other pieces. -/
def joinBehind (separator : CodePoint) : List Text → Text
  | [] => []
  | piece :: pieces => separator :: joinWith [separator] (piece :: pieces)

theorem joinWith_cons (separator : CodePoint) (piece : Text) (pieces : List Text) :
    joinWith [separator] (piece :: pieces) = piece ++ joinBehind separator pieces := by
  cases pieces with
  | nil => exact (List.append_nil piece).symm
  | cons next pieces => rw [joinWith, joinBehind, List.append_assoc, List.singleton_append]

theorem endsPiece_joinBehind (separator : CodePoint) (pieces : List Text) :
    EndsPiece separator (joinBehind separator pieces) := by
  cases pieces with
  | nil => exact fun c none => nomatch none
  | cons piece pieces => exact fun c same => (Option.some.inj same).symm

/-- **Joined pieces compare as the lists of pieces do**, if their separator is below all that they
hold. -/
theorem compare_joinWith {first second : List Text} (someFirst : first ≠ []) (someSecond : second ≠ [])
    (aboveFirst : ∀ piece ∈ first, Above separator piece)
    (aboveSecond : ∀ piece ∈ second, Above separator piece) :
    Ord.compare (joinWith [separator] first) (joinWith [separator] second) =
      Ord.compare first second := by
  induction first generalizing second with
  | nil => exact absurd rfl someFirst
  | cons p first ih =>
    obtain ⟨q, second, rfl⟩ := List.exists_cons_of_ne_nil someSecond
    have later : Ord.compare (joinBehind separator first) (joinBehind separator second) =
        Ord.compare first second := by
      cases first with
      | nil => cases second <;> rfl
      | cons next first =>
        cases second with
        | nil => rfl
        | cons other second =>
          have point : Ord.compare separator separator = .eq := Std.ReflCmp.compare_self
          rw [joinBehind, joinBehind, List.compare_cons_cons, point]
          exact ih (List.cons_ne_nil _ _) (List.cons_ne_nil _ _)
            (fun piece inside => aboveFirst piece (List.mem_cons_of_mem _ inside))
            (fun piece inside => aboveSecond piece (List.mem_cons_of_mem _ inside))
    rw [joinWith_cons, joinWith_cons, List.compare_cons_cons,
      compare_append (aboveFirst p List.mem_cons_self) (aboveSecond q List.mem_cons_self)
        (endsPiece_joinBehind separator first) (endsPiece_joinBehind separator second), later]

end Joined

end Text

/-! ### Rows -/

namespace Row

/-- **Compares two rows column by column**: what is not suppressed goes first, then the later clock, then
the values in the order of the columns, each by its code points. -/
def compareColumns (a b : Row) : Ordering :=
  (Ord.compare (a.suppressed != 0) (b.suppressed != 0)).then
    ((Ord.compare b.clock a.clock).then (Ord.compare a.values b.values))

theorem compare_suppressed (a b : Row) :
    Ord.compare a.key.suppressed b.key.suppressed =
      Ord.compare (a.suppressed != 0) (b.suppressed != 0) := by
  have rank : ∀ row : Row, row.key.suppressed = (row.suppressed != 0).toNat := by
    intro row
    show (if row.suppressed = 0 then 0 else 1) = _
    by_cases unsuppressed : row.suppressed = 0
    · rw [if_pos unsuppressed, unsuppressed]
      rfl
    · rw [if_neg unsuppressed, bne_iff_ne.mpr unsuppressed]
      rfl
  have truths : ∀ p q : Bool, Ord.compare p.toNat q.toNat = Ord.compare p q := by decide
  rw [rank, rank, truths]

/-- The later of two clocks is the lesser age. -/
theorem compare_age (a b : Row) : Ord.compare a.key.age b.key.age = Ord.compare b.clock a.clock := by
  show Ord.compare (-a.clock) (-b.clock) = _
  rcases Int.lt_trichotomy b.clock a.clock with later | same | earlier
  · rw [Int.compare_eq_lt.mpr later, Int.compare_eq_lt.mpr (Int.neg_lt_neg later)]
  · rw [same, Std.ReflOrd.compare_self, Std.ReflOrd.compare_self]
  · rw [Int.compare_eq_gt.mpr earlier, Int.compare_eq_gt.mpr (Int.neg_lt_neg earlier)]

theorem above_values {row : Row} (free : row.NamesFree) :
    ∀ value ∈ row.values, Text.Above (CodePoint.ofNat 0) value := by
  intro value member c inside
  have some : c ≠ CodePoint.ofNat 0 := by
    rintro rfl
    exact values_free free value member inside
  exact Fin.pos_iff_ne_zero.mpr some

end Row

/-- **The order by keys is the order by columns**, for rows whose names hold no NUL: one key is less
than, equal to or greater than another as the one row is than the other. So, of two rows of one clock that
are both suppressed or both not, the one goes first whose value is the start of the other's in the first
column in which they differ, whatever the columns behind it hold. -/
theorem compare_key {a b : Row} (freeA : a.NamesFree) (freeB : b.NamesFree) :
    a.key.compare b.key = a.compareColumns b ∧
      ∀ (same : List Text) (start more : Text) (laterA laterB : List Text),
        (a.suppressed = 0 ↔ b.suppressed = 0) → a.clock = b.clock →
        a.values = same ++ start :: laterA → b.values = same ++ (start ++ more) :: laterB → more ≠ [] →
        a.key.compare b.key = .lt := by
  have whole : a.key.compare b.key = a.compareColumns b := by
    have values : Ord.compare a.key.values b.key.values = Ord.compare a.values b.values :=
      Text.compare_joinWith (List.cons_ne_nil _ _) (List.cons_ne_nil _ _) (Row.above_values freeA)
        (Row.above_values freeB)
    rw [RowKey.compare, Row.compareColumns, Row.compare_suppressed, Row.compare_age, Text.compare_eq]
    exact congrArg _ (congrArg _ values)
  refine ⟨whole, ?_⟩
  intro same start more laterA laterB suppressed clock valuesA valuesB some
  have flags : (a.suppressed != 0) = (b.suppressed != 0) := by
    rw [Bool.eq_iff_iff, bne_iff_ne, bne_iff_ne]
    exact not_congr suppressed
  have shorter : Ord.compare a.values b.values = .lt := by
    rw [valuesA, valuesB, compare_append_left, List.compare_cons_cons, compare_start some]
    rfl
  rw [whole, Row.compareColumns, flags, clock, shorter, Std.ReflOrd.compare_self,
    Std.ReflOrd.compare_self]
  rfl

/-- A suppressed row of a host whose name is the start of another's. -/
def shortHost : Row :=
  { clock := 1, severity := 5, suppressed := 1, hostId := 7, host := "a", name := "z" }

/-- A row of the other host, whose last value is the lesser one. -/
def longHost : Row :=
  { clock := 1, severity := 5, suppressed := 1, hostId := 7, host := "ab", name := "b" }

/-- The shorter host goes first, though the name behind it is the greater one. -/
theorem shortHost_first :
    shortHost.NamesFree ∧ longHost.NamesFree ∧ shortHost.key.compare longHost.key = .lt ∧
      shortHost.compareColumns longHost = .lt := by
  have freeS : shortHost.NamesFree := ⟨by decide, by decide⟩
  have freeL : longHost.NamesFree := ⟨by decide, by decide⟩
  obtain ⟨whole, first⟩ := compare_key freeS freeL
  have less := first ["1", "5", "1", "7"] "a" "b" ["z"] ["b"] (by decide) (by decide) (by decide +kernel)
    (by decide +kernel) (by decide)
  exact ⟨freeS, freeL, less, whole ▸ less⟩

end AlarmFeed
