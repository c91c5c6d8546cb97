/-
**Telling the two tables apart.**

The first line of a table says which of the two it is. It is written before anything that a fault or a
row can bring in, so no text of theirs can change it:

* `isError_writeError` — an error table is told as one, whatever its message, its id and its origin;
* `isError_writeRows` — no alarm table is.

`isAlarm_writeRows` says what an alarm table looks like: its header, a line of six fields for each row,
and an end behind each line.
-/

import AlarmFeed.Proofs.Table.Error

namespace AlarmFeed.Table

/-! ### The first line -/

/-- A text that is free of line ends is the first line of a text that it starts. -/
theorem firstLine_append {t : Text} (free : lineEnd ∉ t) (rest : Text) :
    firstLine (t ++ lineEnd :: rest) = t := by
  have stays : ∀ c ∈ t, (c != lineEnd) = true := fun c member =>
    bne_iff_ne.mpr fun same => free (same ▸ member)
  rw [firstLine, List.takeWhile_append_of_pos stays, List.takeWhile_cons_of_neg (by decide),
    List.append_nil]

/-- The values of the first line, if they are fields. -/
theorem fields_firstLine {values : List Text} (some : values ≠ [])
    (fields : ∀ value ∈ values, IsField value) (rest : Text) :
    Text.splitOn separator (firstLine (line values ++ rest)) = values := by
  have free : lineEnd ∉ Text.joinWith [separator] values :=
    lineEnd_not_mem_joinWith fun value member => (fields value member).2
  rw [line, List.append_assoc, List.singleton_append, firstLine_append free, fields_line some fields]

/-- **An error table is told by its first line**, whatever is written behind it. -/
theorem isError_writeError (message : Text) (id : Value) (origin : Text) (code : Int) :
    isError (writeError message id origin code) = true := by
  rw [isError, writeError_eq, fields_firstLine (by decide) errorColumns_fields]
  exact beq_self_eq_true errorColumns

theorem columns_fields : ∀ column ∈ Row.columns, IsField column := by
  decide

/-- **No alarm table is told as an error table.** -/
theorem isError_writeRows (rows : List Row) : isError (writeRows rows) = false := by
  cases rows with
  | nil => decide
  | cons row rows =>
    rw [isError, writeRows, fields_firstLine (by decide) columns_fields]
    decide

/-! ### The lines of an alarm table -/

/-- **A body is an alarm table** of so many rows: it is empty without rows, and else it has the line of
column names and a line of six fields for each row, each with its end. -/
def IsAlarm (body : Text) (count : Nat) : Prop :=
  if count = 0 then body = []
  else ∃ rowLines, Text.splitOn lineEnd body =
      Text.joinWith [separator] Row.columns :: (rowLines ++ [[]]) ∧
    rowLines.length = count ∧ ∀ rowLine ∈ rowLines, (Text.splitOn separator rowLine).length = 6

theorem values_fields {row : Row} (host : IsField row.host) (name : IsField row.name) :
    ∀ value ∈ row.values, IsField value := by
  intro value member
  simp only [Row.values, List.mem_cons, List.not_mem_nil, or_false] at member
  rcases member with rfl | rfl | rfl | rfl | rfl | rfl
  · exact isField_ofInt _
  · exact isField_ofInt _
  · exact isField_ofInt _
  · exact isField_ofInt _
  · exact host
  · exact name

section Rows

variable {rows : List Row}

/-- Each row is a line of its own. -/
theorem lines_rows (fields : ∀ row ∈ rows, ∀ value ∈ row.values, IsField value) :
    Text.splitOn lineEnd (rows.flatMap fun row => line row.values) =
      (rows.map fun row => Text.joinWith [separator] row.values) ++ [[]] := by
  induction rows with
  | nil => rfl
  | cons row rows ih =>
    obtain ⟨first, later⟩ := List.forall_mem_cons.mp fields
    rw [List.flatMap_cons, lines_line fun value member => (first value member).2, ih later]
    rfl

/-- **The lines of an alarm table** whose names are fields. -/
theorem isAlarm_writeRows (named : ∀ row ∈ rows, IsField row.host ∧ IsField row.name) :
    IsAlarm (writeRows rows) rows.length := by
  have fields : ∀ row ∈ rows, ∀ value ∈ row.values, IsField value := fun row member =>
    values_fields (named row member).1 (named row member).2
  unfold IsAlarm
  cases rows with
  | nil => rfl
  | cons row rows =>
    have some : (row :: rows).length ≠ 0 := Nat.succ_ne_zero rows.length
    rw [if_neg some]
    refine ⟨(row :: rows).map fun row => Text.joinWith [separator] row.values, ?_, ?_, ?_⟩
    · rw [writeRows, lines_line fun column member => (columns_fields column member).2,
        lines_rows fields]
    · exact List.length_map _
    · intro rowLine member
      obtain ⟨other, among, rfl⟩ := List.mem_map.mp member
      have values : other.values ≠ [] := List.cons_ne_nil _ _
      rw [fields_line values (fields other among)]
      rfl

end Rows

end AlarmFeed.Table
